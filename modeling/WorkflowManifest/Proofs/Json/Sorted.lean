import Mathlib.Data.List.Sort
import Mathlib.Data.String.Basic
import WorkflowManifest.Proofs.Json.Same

namespace WorkflowManifest

namespace Entries

variable {κ α : Type} [LinearOrder κ]

def KeyLE (e f : κ × α) : Prop := e.1 ≤ f.1

instance : DecidableRel (KeyLE : κ × α → κ × α → Prop) :=
  fun e f => inferInstanceAs (Decidable (e.1 ≤ f.1))

instance : Std.Total (KeyLE : κ × α → κ × α → Prop) := ⟨fun e f => le_total e.1 f.1⟩

instance : IsTrans (κ × α) KeyLE := ⟨fun _ _ _ => le_trans⟩

def byKey (es : Entries κ α) : Entries κ α := es.insertionSort KeyLE

theorem byKey_perm (es : Entries κ α) : (byKey es).Perm es := List.perm_insertionSort KeyLE es

theorem nodup_keys_byKey {es : Entries κ α} (h : (keys es).Nodup) : (keys (byKey es)).Nodup :=
  (((byKey_perm es).map _).nodup_iff).2 h

theorem find?_byKey {es : Entries κ α} (h : (keys es).Nodup) (k : κ) :
    find? k (byKey es) = find? k es :=
  find?_perm (byKey_perm es) (nodup_keys_byKey h) k

theorem perm_of_find? {es fs : Entries κ α} (hes : (keys es).Nodup) (hfs : (keys fs).Nodup)
    (h : ∀ k, find? k es = find? k fs) : es.Perm fs := by
  rw [List.perm_ext_iff_of_nodup hes.of_map hfs.of_map]
  rintro ⟨k, v⟩
  rw [← find?_eq_some_iff hes, ← find?_eq_some_iff hfs, h k]

theorem byKey_congr {es fs : Entries κ α} (hes : (keys es).Nodup) (h : es.Perm fs) :
    byKey es = byKey fs := by
  have hperm : (byKey es).Perm (byKey fs) :=
    (byKey_perm es).trans (h.trans (byKey_perm fs).symm)
  apply hperm.eq_of_pairwise _ (List.pairwise_insertionSort KeyLE es)
    (List.pairwise_insertionSort KeyLE fs)
  intro e f he hf hef hfe
  exact List.inj_on_of_nodup_map (nodup_keys_byKey hes) he (hperm.mem_iff.2 hf)
    (le_antisymm hef hfe)

theorem byKey_eq_iff {es fs : Entries κ α} (hes : (keys es).Nodup) (hfs : (keys fs).Nodup) :
    byKey es = byKey fs ↔ ∀ k, find? k es = find? k fs := by
  constructor
  · intro h k
    rw [← find?_byKey hes, h, find?_byKey hfs]
  · intro h
    exact byKey_congr hes (perm_of_find? hes hfs h)

end Entries

namespace Json

open Entries (byKey)

mutual

def sorted : Json → Json
  | .null => .null
  | .bool b => .bool b
  | .num n => .num n
  | .str s => .str s
  | .arr items => .arr (sortedItems items)
  | .obj entries => .obj (byKey (sortedEntries entries))

def sortedItems : List Json → List Json
  | [] => []
  | x :: xs => x.sorted :: sortedItems xs

def sortedEntries : List (String × Json) → List (String × Json)
  | [] => []
  | (k, x) :: es => (k, x.sorted) :: sortedEntries es

end

theorem keys_sortedEntries (es : List (String × Json)) :
    Entries.keys (sortedEntries es) = Entries.keys es := by
  induction es with
  | nil => rfl
  | cons e es ih => rw [sortedEntries, Entries.keys_cons, ih, Entries.keys_cons]

theorem find?_sortedEntries (key : String) (es : List (String × Json)) :
    Entries.find? key (sortedEntries es) = (Entries.find? key es).map sorted := by
  induction es with
  | nil => rfl
  | cons e es ih =>
    rw [sortedEntries, Entries.find?, Entries.find?, ih]
    split <;> rfl

/-- Among values that have each key once, `x` is equal to those that have its sorted form. -/
def Sorts (x : Json) : Prop :=
  ∀ ⦃y : Json⦄, x.WellFormed → y.WellFormed → (x.same y ↔ x.sorted = y.sorted)

theorem sameOption_iff {x y : Option Json} (hx : ∀ v ∈ x, v.Sorts ∧ v.WellFormed)
    (hy : ∀ v ∈ y, v.WellFormed) : SameOption x y ↔ x.map sorted = y.map sorted := by
  cases x with
  | none => cases y <;> simp [SameOption]
  | some x =>
    cases y with
    | none => simp [SameOption]
    | some y =>
      obtain ⟨hsorts, hwf⟩ := hx x rfl
      simpa [SameOption] using hsorts hwf (hy y rfl)

theorem sorts_obj {es : List (String × Json)} (h : ∀ e ∈ es, e.2.Sorts) : (obj es).Sorts := by
  intro y hes hy
  cases y with
  | obj fs =>
    obtain ⟨hes, hvalues⟩ := wellFormed_obj_iff.1 hes
    obtain ⟨hfs, hvalues'⟩ := wellFormed_obj_iff.1 hy
    have hoption (k : String) : SameOption (Entries.find? k es) (Entries.find? k fs) ↔
        Entries.find? k (sortedEntries es) = Entries.find? k (sortedEntries fs) := by
      rw [find?_sortedEntries, find?_sortedEntries]
      apply sameOption_iff
      · intro v hv
        have hmem := (Entries.find?_eq_some_iff hes).1 hv
        exact ⟨h _ hmem, hvalues _ hmem⟩
      · intro v hv
        exact hvalues' _ ((Entries.find?_eq_some_iff hfs).1 hv)
    rw [same_obj_iff hes hfs, sorted, sorted, obj.injEq, Entries.byKey_eq_iff]
    · exact forall_congr' hoption
    · rwa [keys_sortedEntries]
    · rwa [keys_sortedEntries]
  | _ => simp [same, sorted]

theorem sorts_arr {xs : List Json} (h : ∀ x ∈ xs, x.Sorts) : (arr xs).Sorts := by
  intro y hxs hy
  cases y with
  | arr ys =>
    rw [same, sorted, sorted, arr.injEq]
    rw [WellFormed] at hxs hy
    induction xs generalizing ys with
    | nil => cases ys <;> simp [sameItems, sortedItems]
    | cons x xs ih =>
      cases ys with
      | nil => simp [sameItems, sortedItems]
      | cons y ys =>
        obtain ⟨hx, h⟩ := List.forall_mem_cons.1 h
        rw [sameItems, Bool.and_eq_true, hx hxs.1 hy.1, ih h hxs.2 ys hy.2, sortedItems,
          sortedItems, List.cons.injEq]
  | _ => simp [same, sorted]

theorem sorts (x : Json) : x.Sorts := by
  induction x with
  | arr xs ih => exact sorts_arr ih
  | obj es ih => exact sorts_obj ih
  | _ =>
    intro y _ _
    cases y <;> simp [same, sorted]

theorem same_iff_sorted {x y : Json} (hx : x.WellFormed) (hy : y.WellFormed) :
    x.same y ↔ x.sorted = y.sorted :=
  sorts x hx hy

theorem SameOption.refl {x : Option Json} (hx : ∀ v ∈ x, v.WellFormed) : SameOption x x := by
  cases x with
  | none => trivial
  | some v => exact (same_iff_sorted (hx v rfl) (hx v rfl)).2 rfl

end Json

end WorkflowManifest
