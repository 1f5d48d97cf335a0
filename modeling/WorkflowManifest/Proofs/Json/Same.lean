import WorkflowManifest.Json.Exact
import WorkflowManifest.Proofs.Entries
import WorkflowManifest.Proofs.Settings

namespace WorkflowManifest.Json

def SameOption : Option Json → Option Json → Prop
  | none, none => True
  | some x, some y => x.same y
  | _, _ => False

theorem SameOption.isSome_eq {x y : Option Json} (h : SameOption x y) : x.isSome = y.isSome := by
  cases x <;> cases y <;> simp_all [SameOption]

theorem SameOption.filter {p : Json → Bool} (hp : ∀ x y : Json, x.same y → p x = p y)
    {x y : Option Json} (h : SameOption x y) : SameOption (x.filter p) (y.filter p) := by
  cases x with
  | none => cases y <;> simp_all [SameOption]
  | some x =>
    cases y with
    | none => cases h
    | some y =>
      rw [Option.filter_some, Option.filter_some, hp x y h]
      split
      · exact h
      · trivial

section Objects

variable {es fs : Entries String Json}

theorem sameEntries_iff : sameEntries es fs ↔ ∀ e ∈ es, SameOption (some e.2) (fs.find? e.1) := by
  induction es with
  | nil => simp [sameEntries]
  | cons e es ih =>
    obtain ⟨k, x⟩ := e
    rw [sameEntries, List.forall_mem_cons, ← ih, Bool.and_eq_true]
    cases fs.find? k <;> simp [SameOption]

theorem same_obj : (obj es).same (.obj fs) ↔
    es.length = fs.length ∧ ∀ e ∈ es, SameOption (some e.2) (fs.find? e.1) := by
  rw [same, Bool.and_eq_true, decide_eq_true_eq, sameEntries_iff]

theorem keys_perm_of_same (hes : (Entries.keys es).Nodup) (h : (obj es).same (.obj fs)) :
    (Entries.keys es).Perm (Entries.keys fs) := by
  obtain ⟨hlength, hvalues⟩ := same_obj.1 h
  -- As many entries, and each of them found: no key is left over on the other side.
  have hsub : Entries.keys es ⊆ Entries.keys fs := by
    intro k hk
    obtain ⟨e, he, rfl⟩ := List.mem_map.1 hk
    rw [← Entries.isSome_find?, ← (hvalues e he).isSome_eq]
    rfl
  exact (hes.subperm hsub).perm_of_length_le (by simp [Entries.keys, hlength])

theorem same_obj_iff (hes : (Entries.keys es).Nodup) (hfs : (Entries.keys fs).Nodup) :
    (obj es).same (.obj fs) ↔ ∀ k, SameOption (es.find? k) (fs.find? k) := by
  constructor
  · intro h k
    have hkeys := keys_perm_of_same hes h
    cases hx : es.find? k with
    | some x => exact (same_obj.1 h).2 _ ((Entries.find?_eq_some_iff hes).1 hx)
    | none =>
      have hk : k ∉ Entries.keys fs := fun hmem =>
        Entries.find?_eq_none_iff.1 hx (hkeys.mem_iff.2 hmem)
      rw [Entries.find?_eq_none_iff.2 hk]
      trivial
  · intro h
    rw [same_obj]
    have hkeys : (Entries.keys es).Perm (Entries.keys fs) := by
      rw [List.perm_ext_iff_of_nodup hes hfs]
      intro k
      rw [← Entries.isSome_find?, ← Entries.isSome_find?, (h k).isSome_eq]
    refine ⟨by simpa [Entries.keys] using hkeys.length_eq, ?_⟩
    intro e he
    have hfind := (Entries.find?_eq_some_iff hes).2 he
    rw [← hfind]
    exact h e.1

end Objects

theorem wellFormedEntries_iff {es : List (String × Json)} :
    WellFormedEntries es ↔ ∀ e ∈ es, e.2.WellFormed := by
  induction es with
  | nil => simp [WellFormedEntries]
  | cons e es ih => simp [WellFormedEntries, ih]

theorem wellFormed_obj_iff {es : List (String × Json)} :
    (obj es).WellFormed ↔ (Entries.keys es).Nodup ∧ ∀ e ∈ es, e.2.WellFormed := by
  rw [WellFormed, wellFormedEntries_iff]

theorem isEmpty_of_sameItems {xs ys : List Json} (h : sameItems xs ys) :
    xs.isEmpty = ys.isEmpty := by
  cases xs <;> cases ys <;> simp_all [sameItems]

theorem isTruthy_of_same {x y : Json} (h : x.same y) : x.isTruthy = y.isTruthy := by
  cases x with
  | arr xs =>
    cases y with
    | arr ys =>
      rw [same] at h
      rw [isTruthy, isTruthy, isEmpty_of_sameItems h]
    | _ => simp [same] at h
  | obj es =>
    cases y with
    | obj fs =>
      obtain ⟨hlength, -⟩ := same_obj.1 h
      rw [isTruthy, isTruthy]
      cases es <;> cases fs <;> simp_all
    | _ => simp [same] at h
  | _ => cases y <;> simp_all [same, isTruthy]

theorem filter_of_same (fields : List String) {x y : Json} (hx : x.WellFormed) (hy : y.WellFormed)
    (h : x.same y) : SameOption (Settings.filter fields x) (Settings.filter fields y) := by
  cases x with
  | obj es =>
    cases y with
    | obj fs =>
      rw [wellFormed_obj_iff] at hx hy
      have hkept : (obj (Settings.kept fields es)).same (.obj (Settings.kept fields fs)) := by
        rw [same_obj_iff (Settings.nodup_keys_kept hx.1) (Settings.nodup_keys_kept hy.1)]
        intro k
        rw [Settings.find?_kept, Settings.find?_kept]
        split
        · trivial
        · exact (same_obj_iff hx.1 hy.1).1 h k
      have hnil : Settings.kept fields es = [] ↔ Settings.kept fields fs = [] := by
        rw [← List.length_eq_zero_iff, (same_obj.1 hkept).1, List.length_eq_zero_iff]
      rw [Settings.filter_obj, Settings.filter_obj]
      simp only [hnil]
      split
      · trivial
      · exact hkept
    | _ => simp [same] at h
  | _ => cases y <;> simp_all [same, SameOption, Settings.filter]

end WorkflowManifest.Json
