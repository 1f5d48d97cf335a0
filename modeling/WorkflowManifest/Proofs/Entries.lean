import Mathlib.Data.List.Perm.Subperm
import WorkflowManifest.Entries

namespace WorkflowManifest

namespace Entries

variable {κ α : Type}

theorem rotate_perm (es : Entries κ α) : (rotate es).Perm es := by
  rw [rotate]
  split
  next h => rw [List.getLast?_eq_none_iff.1 h]
  next e h =>
    obtain ⟨ys, hys⟩ := List.getLast?_eq_some_iff.1 h
    rw [hys, List.dropLast_concat]
    exact (List.perm_append_singleton e ys).symm

theorem nodup_of_subperm {es fs : Entries κ α} (h : es.Subperm fs) (hfs : (keys fs).Nodup) :
    (keys es).Nodup := by
  obtain ⟨gs, hperm, hsub⟩ := h
  exact ((hperm.map _).nodup_iff).1 ((hsub.map _).nodup hfs)

theorem not_mem_keys_cons {k : κ} {e : κ × α} {es : Entries κ α} (h : k ∉ keys (e :: es)) :
    e.1 ≠ k ∧ k ∉ keys es := by
  rw [keys, List.map_cons, List.mem_cons, not_or] at h
  exact ⟨Ne.symm h.1, h.2⟩

theorem key_mem {e : κ × α} {es : Entries κ α} (h : e ∈ es) : e.1 ∈ keys es :=
  List.mem_map_of_mem h

theorem nodup_keys_cons {e : κ × α} {es : Entries κ α} :
    (keys (e :: es)).Nodup ↔ e.1 ∉ keys es ∧ (keys es).Nodup :=
  List.nodup_cons

theorem keys_append (es fs : Entries κ α) : keys (es ++ fs) = keys es ++ keys fs :=
  List.map_append

theorem keys_filterMap {f : κ → Option α} {ks : List κ} (h : ∀ k ∈ ks, f k ≠ none) :
    keys (ks.filterMap fun k => (f k).map fun v => (k, v)) = ks := by
  induction ks with
  | nil => rfl
  | cons k ks ih =>
    obtain ⟨hk, h⟩ := List.forall_mem_cons.1 h
    obtain ⟨v, hv⟩ := Option.ne_none_iff_exists'.1 hk
    simp [hv, ih h]

variable [DecidableEq κ]

theorem find?_append (key : κ) (es fs : Entries κ α) :
    find? key (es ++ fs) = (find? key es).or (find? key fs) := by
  induction es with
  | nil => rfl
  | cons e es ih =>
    rw [List.cons_append, find?, find?, ih]
    split <;> rfl

theorem isSome_find? {key : κ} {es : Entries κ α} : (find? key es).isSome ↔ key ∈ keys es := by
  rw [Option.isSome_iff_ne_none, Ne, find?_eq_none_iff, not_not]

theorem insert_of_not_mem {k : κ} {es : Entries κ α} (h : k ∉ keys es) (v : α) :
    insert k v es = es ++ [(k, v)] := by
  induction es with
  | nil => rfl
  | cons e es ih =>
    obtain ⟨hne, hmem⟩ := not_mem_keys_cons h
    rw [insert, if_neg hne, ih hmem]
    rfl

theorem mem_insert {k : κ} {v : α} {es : Entries κ α} {e : κ × α} (h : e ∈ insert k v es) :
    e = (k, v) ∨ e ∈ es := by
  induction es with
  | nil => simpa [insert] using h
  | cons f es ih =>
    rw [insert] at h
    split at h
    next hf =>
      rw [hf] at h
      exact Or.imp id (List.mem_cons_of_mem _) (List.mem_cons.1 h)
    next =>
      cases List.mem_cons.1 h with
      | inl he => exact .inr (List.mem_cons.2 (.inl he))
      | inr he => exact Or.imp id (List.mem_cons_of_mem _) (ih he)

theorem insert_ne_nil (k : κ) (v : α) (es : Entries κ α) : insert k v es ≠ [] := by
  cases es with
  | nil => simp [insert]
  | cons e es =>
    rw [insert]
    split <;> simp

theorem head?_insert (k : κ) (v : α) (e : κ × α) (es : Entries κ α) :
    (keys (insert k v (e :: es))).head? = some e.1 := by
  rw [insert]
  split <;> rfl

theorem erase_of_not_mem {k : κ} {es : Entries κ α} (h : k ∉ keys es) : erase k es = es := by
  induction es with
  | nil => rfl
  | cons e es ih =>
    obtain ⟨hne, hmem⟩ := not_mem_keys_cons h
    rw [erase, if_neg hne, ih hmem]

theorem erase_subperm (k : κ) (es : Entries κ α) : (erase k es).Subperm es := by
  induction es with
  | nil => exact .refl []
  | cons e es ih =>
    rw [erase]
    split
    · exact (rotate_perm es).subperm.cons_right e
    · exact (List.subperm_cons e).2 ih

theorem find?_eq_some_iff {k : κ} {v : α} {es : Entries κ α} (h : (keys es).Nodup) :
    find? k es = some v ↔ (k, v) ∈ es := by
  induction es with
  | nil => simp
  | cons e es ih =>
    obtain ⟨l, w⟩ := e
    obtain ⟨hnew, h⟩ := nodup_keys_cons.1 h
    rw [find?, List.mem_cons, Prod.mk.injEq]
    split
    next hl =>
      subst hl
      have hmem : (l, v) ∉ es := fun hmem => absurd (key_mem hmem) hnew
      simp [hmem, eq_comm]
    next hl => simp [ih h, Ne.symm hl]

theorem find?_perm {es fs : Entries κ α} (h : es.Perm fs) (hes : (keys es).Nodup) (k : κ) :
    find? k es = find? k fs := by
  have hfs : (keys fs).Nodup := (h.map _).nodup_iff.1 hes
  apply Option.ext
  intro v
  rw [find?_eq_some_iff hes, find?_eq_some_iff hfs, h.mem_iff]

theorem find?_filter {p : κ → Bool} {k : κ} (hk : p k = true) (es : Entries κ α) :
    find? k (es.filter fun e => p e.1) = find? k es := by
  induction es with
  | nil => rfl
  | cons e es ih =>
    rw [List.filter_cons]
    split
    next => rw [find?, find?, ih]
    next hp =>
      have hne : e.1 ≠ k := fun he => hp (he ▸ hk)
      rw [find?, if_neg hne, ih]

theorem find?_filter_eq (p : κ → Bool) (k : κ) (es : Entries κ α) :
    find? k (es.filter fun e => p e.1) = if p k then find? k es else none := by
  split
  next hk => exact find?_filter hk es
  next hk =>
    rw [find?_eq_none_iff]
    intro hmem
    obtain ⟨e, he, rfl⟩ := List.mem_map.1 hmem
    exact hk (List.mem_filter.1 he).2

theorem erase_perm {es : Entries κ α} (h : (keys es).Nodup) (k : κ) :
    (erase k es).Perm (es.filter fun e => e.1 ≠ k) := by
  induction es with
  | nil => exact .refl []
  | cons e es ih =>
    obtain ⟨hnew, h⟩ := nodup_keys_cons.1 h
    rw [erase]
    split
    next hk =>
      rw [hk] at hnew
      have hall : es.filter (fun e => e.1 ≠ k) = es := by
        rw [List.filter_eq_self]
        intro f hf
        have hne : f.1 ≠ k := fun he => hnew (he ▸ key_mem hf)
        simpa using hne
      rw [List.filter_cons_of_neg (by simpa using hk), hall]
      exact rotate_perm es
    next hk =>
      rw [List.filter_cons_of_pos (by simpa using hk)]
      exact (ih h).cons e

theorem nodup_keys_erase {es : Entries κ α} (h : (keys es).Nodup) (k : κ) :
    (keys (erase k es)).Nodup :=
  nodup_of_subperm (erase_subperm k es) h

theorem find?_erase_of_ne {es : Entries κ α} (h : (keys es).Nodup) {k l : κ} (hne : l ≠ k) :
    find? l (erase k es) = find? l es := by
  rw [find?_perm (erase_perm h k) (nodup_keys_erase h k)]
  exact find?_filter (p := fun l => l ≠ k) (by simpa using hne) es

theorem find?_erase {es : Entries κ α} (h : (keys es).Nodup) (k l : κ) :
    find? l (erase k es) = if l = k then none else find? l es := by
  rw [find?_perm (erase_perm h k) (nodup_keys_erase h k), find?_filter_eq fun l => l ≠ k]
  split <;> split <;> simp_all

def eraseAll (ks : List κ) (es : Entries κ α) : Entries κ α :=
  ks.foldl (fun es k => erase k es) es

theorem find?_eraseAll {ks : List κ} {l : κ} (hl : l ∉ ks) {es : Entries κ α}
    (h : (keys es).Nodup) : find? l (eraseAll ks es) = find? l es := by
  induction ks generalizing es with
  | nil => rfl
  | cons k ks ih =>
    obtain ⟨hne, hl⟩ := not_or.1 (mt List.mem_cons.2 hl)
    calc
      find? l (eraseAll ks (erase k es)) = find? l (erase k es) := ih hl (nodup_keys_erase h k)
      _ = find? l es := find?_erase_of_ne h hne

theorem keys_insert_of_mem {k : κ} {es : Entries κ α} (h : k ∈ keys es) (v : α) :
    keys (insert k v es) = keys es := by
  induction es with
  | nil => cases h
  | cons e es ih =>
    rw [insert]
    split
    next => rfl
    next hk =>
      have hmem : k ∈ keys es := (List.mem_cons.1 h).resolve_left fun he => hk he.symm
      rw [keys_cons, ih hmem]
      rfl

theorem ext_find? {es fs : Entries κ α} (hkeys : keys es = keys fs) (hes : (keys es).Nodup)
    (h : ∀ k, find? k es = find? k fs) : es = fs := by
  induction es generalizing fs with
  | nil => exact (List.map_eq_nil_iff.1 hkeys.symm).symm
  | cons e es ih =>
    obtain ⟨k, v⟩ := e
    cases fs with
    | nil => cases hkeys
    | cons f fs =>
      obtain ⟨l, w⟩ := f
      obtain ⟨rfl, htail⟩ : k = l ∧ keys es = keys fs := List.cons.inj hkeys
      obtain ⟨hnew, hes⟩ := nodup_keys_cons.1 hes
      have hv : v = w := by simpa [find?] using h k
      rw [hv, ih htail hes]
      intro m
      have hm := h m
      rw [find?, find?] at hm
      split at hm
      next hkm =>
        have hfs : m ∉ keys fs := by
          rw [← hkm]
          exact fun hmem => hnew (htail ▸ hmem)
        rw [find?_eq_none_iff.2 (hkm ▸ hnew), find?_eq_none_iff.2 hfs]
      next => exact hm

def insertAll (es fs : Entries κ α) : Entries κ α := fs.foldl (fun es e => es.insert e.1 e.2) es

def collected (es : List (κ × α)) : Entries κ α :=
  (keys es).eraseDups.filterMap fun k => (find? k es.reverse).map fun v => (k, v)

theorem insertAll_cons (es : Entries κ α) (k : κ) (v : α) (fs : Entries κ α) :
    insertAll es ((k, v) :: fs) = insertAll (es.insert k v) fs := rfl

theorem insertAll_of_nodup (es fs : Entries κ α) (h : (keys (es ++ fs)).Nodup) :
    insertAll es fs = es ++ fs := by
  induction fs generalizing es with
  | nil => exact (List.append_nil es).symm
  | cons f fs ih =>
    obtain ⟨k, v⟩ := f
    have hk : k ∉ keys es := by
      intro hmem
      rw [keys_append] at h
      exact (List.nodup_append.1 h).2.2 k hmem k (List.mem_cons_self ..) rfl
    have hassoc : es ++ (k, v) :: fs = (es ++ [(k, v)]) ++ fs := by simp
    rw [insertAll_cons, insert_of_not_mem hk, hassoc]
    exact ih _ (hassoc ▸ h)

theorem keys_insertAll (es fs : Entries κ α) :
    keys (insertAll es fs) = keys es ++ ((keys fs).filter (· ∉ keys es)).eraseDups := by
  induction fs generalizing es with
  | nil => simp [insertAll, keys]
  | cons f fs ih =>
    obtain ⟨k, v⟩ := f
    rw [insertAll_cons, ih, keys_cons]
    by_cases hk : k ∈ keys es
    · rw [keys_insert_of_mem hk, List.filter_cons_of_neg (by simpa using hk)]
    · rw [insert_of_not_mem hk, List.filter_cons_of_pos (by simpa using hk), List.eraseDups_cons,
        List.filter_filter, keys_append, List.append_assoc]
      have hfilter : (keys fs).filter (· ∉ keys es ++ keys [(k, v)]) =
          (keys fs).filter fun l => !l == k && decide (l ∉ keys es) := by
        apply List.filter_congr
        intro l _
        have hone : keys [(k, v)] = [k] := rfl
        rw [hone]
        by_cases hl : l = k <;> simp [hl]
      rw [hfilter]
      rfl

theorem find?_insertAll (k : κ) (es fs : Entries κ α) :
    find? k (insertAll es fs) = (find? k fs.reverse).or (find? k es) := by
  induction fs generalizing es with
  | nil => rfl
  | cons f fs ih =>
    obtain ⟨l, v⟩ := f
    rw [insertAll_cons, ih, find?_insert, List.reverse_cons, find?_append, Option.or_assoc]
    congr 1
    rw [find?, find?_nil]
    by_cases hkl : k = l
    · rw [if_pos hkl, if_pos hkl.symm, Option.some_or]
    · rw [if_neg hkl, if_neg (Ne.symm hkl), Option.none_or]

theorem find?_filterMap (k : κ) (f : κ → Option α) (ks : List κ) :
    find? k (ks.filterMap fun l => (f l).map fun v => (l, v)) = if k ∈ ks then f k else none := by
  induction ks with
  | nil => rfl
  | cons l ks ih =>
    by_cases hkl : l = k
    · subst hkl
      cases hf : f l with
      | none => simp [hf, ih]
      | some v => simp [hf, find?]
    · have hmem : k ∈ l :: ks ↔ k ∈ ks := by simp [Ne.symm hkl]
      simp only [hmem]
      cases hf : f l with
      | none => simpa [hf] using ih
      | some v => simpa [hf, find?, hkl] using ih

theorem keys_collected (es : List (κ × α)) : keys (collected es) = (keys es).eraseDups := by
  apply keys_filterMap
  intro k hk
  rw [Ne, find?_eq_none_iff, not_not, keys, List.map_reverse, List.mem_reverse]
  exact List.mem_eraseDups.1 hk

theorem nodup_keys_insertAll (es fs : Entries κ α) (h : (keys es).Nodup) :
    (keys (insertAll es fs)).Nodup := by
  induction fs generalizing es with
  | nil => exact h
  | cons f fs ih => exact ih _ (nodup_keys_insert h)

theorem insertAll_nil (es : List (κ × α)) : insertAll [] es = collected es := by
  have hkeys : keys (insertAll [] es) = keys (collected es) := by
    rw [keys_insertAll, keys_collected]
    simp [keys]
  apply ext_find? hkeys (nodup_keys_insertAll [] es List.nodup_nil)
  intro k
  rw [find?_insertAll, collected, find?_filterMap, find?_nil, Option.or_none]
  split
  next => rfl
  next hk =>
    rw [find?_eq_none_iff, keys, List.map_reverse, List.mem_reverse]
    exact fun hmem => hk (List.mem_eraseDups.2 hmem)

end Entries

end WorkflowManifest
