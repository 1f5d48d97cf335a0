import WorkflowManifest.Document
import WorkflowManifest.Proofs.Entries

namespace WorkflowManifest

namespace Json

open Reader (numberKey maxDepth)

mutual

/-- The first argument is how many lists and objects may be open at once. -/
def Fits : Nat → Json → Prop
  | _, .null | _, .bool _ | _, .num _ | _, .str _ => True
  | 0, .arr _ | 0, .obj _ => False
  | room + 1, .arr xs => FitsItems room xs
  | room + 1, .obj es =>
    (Entries.keys es).Nodup ∧ (Entries.keys es).head? ≠ some numberKey ∧ FitsEntries room es

def FitsItems : Nat → List Json → Prop
  | _, [] => True
  | room, x :: xs => Fits room x ∧ FitsItems room xs

def FitsEntries : Nat → List (String × Json) → Prop
  | _, [] => True
  | room, (_, x) :: es => Fits room x ∧ FitsEntries room es

end

theorem fitsItems_iff {room : Nat} {xs : List Json} :
    FitsItems room xs ↔ ∀ x ∈ xs, Fits room x := by
  induction xs with
  | nil => simp [FitsItems]
  | cons x xs ih => simp [FitsItems, ih]

theorem fitsEntries_iff {room : Nat} {es : List (String × Json)} :
    FitsEntries room es ↔ ∀ e ∈ es, Fits room e.2 := by
  induction es with
  | nil => simp [FitsEntries]
  | cons e es ih => simp [FitsEntries, ih]

theorem FitsEntries.insert {room : Nat} {es : List (String × Json)} {j : Json}
    (h : FitsEntries room es) (k : String) (hj : Fits room j) :
    FitsEntries room (Entries.insert k j es) := by
  rw [fitsEntries_iff] at h ⊢
  intro e he
  cases Entries.mem_insert he with
  | inl heq => rw [heq]; exact hj
  | inr hmem => exact h e hmem

mutual

theorem Fits.wellFormed : ∀ {room : Nat} (j : Json), Fits room j → WellFormed j
  | _, .null, _ | _, .bool _, _ | _, .num _, _ | _, .str _, _ => by simp [WellFormed]
  | 0, .arr _, h | 0, .obj _, h => by simp [Fits] at h
  | _ + 1, .arr xs, h => by
    simp only [Fits] at h
    simpa [WellFormed] using FitsItems.wellFormed xs h
  | _ + 1, .obj es, h => by
    simp only [Fits] at h
    simpa [WellFormed] using ⟨h.1, FitsEntries.wellFormed es h.2.2⟩

theorem FitsItems.wellFormed : ∀ {room : Nat} (xs : List Json),
    FitsItems room xs → WellFormedItems xs
  | _, [], _ => by simp [WellFormedItems]
  | _, x :: xs, h => by
    simp only [FitsItems] at h
    simpa [WellFormedItems] using ⟨Fits.wellFormed x h.1, FitsItems.wellFormed xs h.2⟩

theorem FitsEntries.wellFormed : ∀ {room : Nat} (es : List (String × Json)),
    FitsEntries room es → WellFormedEntries es
  | _, [], _ => by simp [WellFormedEntries]
  | _, (_, x) :: es, h => by
    simp only [FitsEntries] at h
    simpa [WellFormedEntries] using ⟨Fits.wellFormed x h.1, FitsEntries.wellFormed es h.2⟩

end

end Json

namespace Document

open Json (FitsEntries)
open Json.Reader (maxDepth)

structure Storable (d : Document) : Prop where
  nodup : (Entries.keys d.entries).Nodup
  fits : FitsEntries (maxDepth - 1) d.entries

namespace Storable

variable {d : Document}

theorem empty : Storable .empty := ⟨List.nodup_nil, trivial⟩

theorem wellFormed (h : d.Storable) : (Json.obj d.entries).WellFormed := by
  simpa [Json.WellFormed] using ⟨h.nodup, h.fits.wellFormed⟩

theorem take (h : d.Storable) (key : String) : (d.take key).2.Storable := by
  have hsub := Entries.erase_subperm key d.entries
  refine ⟨Entries.nodup_of_subperm hsub h.nodup, ?_⟩
  rw [Json.fitsEntries_iff]
  intro e he
  exact Json.fitsEntries_iff.1 h.fits e (hsub.subset he)

end Storable

end Document

end WorkflowManifest
