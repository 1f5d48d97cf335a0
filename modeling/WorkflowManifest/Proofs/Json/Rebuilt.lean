import WorkflowManifest.Json.Rebuilt
import WorkflowManifest.Proofs.Json.Fixpoint
import WorkflowManifest.Proofs.Json.Unwritable

namespace WorkflowManifest.Json

namespace Number

open IntegerType

/-- What is left of a number in another spelling: its double, its digits if it is an integer of 128
bits, and its sign unless it is the integer zero. -/
structure Respelled (n m : Number) : Prop where
  magnitude : m.magnitude? = n.magnitude?
  digits : n.isInteger = true → smallestInteger ≤ n.wholeValue ∧ n.wholeValue ≤ largestInteger →
    m = n.unsignedZero
  sign : m.negative = n.negative ∨ n.isInteger = true ∧ n.wholeValue = 0

variable {n : Number}

theorem respelled_unsignedZero (h : n.isInteger = true) : n.Respelled n.unsignedZero where
  magnitude := magnitude?_unsignedZero n
  digits _ _ := rfl
  sign := by
    by_cases hzero : n.whole = .zero
    · exact .inr ⟨h, wholeValue_of_zero hzero⟩
    · left
      rw [unsignedZero, if_neg hzero]

theorem respelled_rebuilt (n : Number) : n.Respelled n.rebuilt := by
  rw [rebuilt]
  split
  next i h =>
    obtain ⟨hint, rfl, -⟩ := of_firstRead? h
    rw [ofInt_wholeValue hint]
    exact respelled_unsignedZero hint
  next hnone =>
    have houtside (hint : n.isInteger = true)
        (h : smallestInteger ≤ n.wholeValue ∧ n.wholeValue ≤ largestInteger) : False :=
      firstRead?_of_within (by simp) (by simp) hint h hnone
    have hsame : n.Respelled n := ⟨rfl, fun hint h => (houtside hint h).elim, .inl rfl⟩
    split
    next x hx =>
      split
      next =>
        obtain ⟨hc, hs⟩ := Binary64.ofDecimal?_canonical hx
        refine ⟨?_, fun hint h => (houtside hint h).elim, .inl (negative_ofBinary64 _)⟩
        rw [magnitude?_ofBinary64 _ hc hs, hx]
      next => exact hsame
    next => exact hsame

end Number

theorem keys_rebuiltEntries (es : List (String × Json)) :
    Entries.keys (rebuiltEntries es) = Entries.keys es := by
  induction es with
  | nil => rfl
  | cons e es ih => rw [rebuiltEntries, Entries.keys_cons, Entries.keys_cons, ih]

mutual

theorem rebuilt_eq_self_iff : ∀ j : Json,
    j.rebuilt = j ↔ ∀ n ∈ j.numbers, n.rebuilt = n
  | .null | .bool _ | .str _ => by simp [rebuilt, numbers]
  | .num n => by simp [rebuilt, numbers]
  | .arr xs => by simp [rebuilt, numbers, rebuiltItems_eq_self_iff xs]
  | .obj es => by simp [rebuilt, numbers, rebuiltEntries_eq_self_iff es]

theorem rebuiltItems_eq_self_iff : ∀ xs : List Json,
    rebuiltItems xs = xs ↔ ∀ n ∈ itemNumbers xs, n.rebuilt = n
  | [] => by simp [rebuiltItems, itemNumbers]
  | x :: xs => by
    simp [rebuiltItems, itemNumbers, or_imp, forall_and, rebuilt_eq_self_iff x,
      rebuiltItems_eq_self_iff xs]

theorem rebuiltEntries_eq_self_iff : ∀ es : List (String × Json),
    rebuiltEntries es = es ↔ ∀ n ∈ entryNumbers es, n.rebuilt = n
  | [] => by simp [rebuiltEntries, entryNumbers]
  | (k, x) :: es => by
    simp [rebuiltEntries, entryNumbers, or_imp, forall_and, rebuilt_eq_self_iff x,
      rebuiltEntries_eq_self_iff es]

end

mutual

theorem Fits.rebuilt : ∀ {room : Nat} (j : Json), Fits room j → Fits room j.rebuilt
  | _, .null, _ | _, .bool _, _ | _, .num _, _ | _, .str _, _ => by simp [Json.rebuilt, Fits]
  | 0, .arr _, h | 0, .obj _, h => by simp [Fits] at h
  | _ + 1, .arr xs, h => by
    rw [Fits] at h
    rw [Json.rebuilt, Fits]
    exact FitsItems.rebuilt xs h
  | _ + 1, .obj es, h => by
    rw [Fits] at h
    rw [Json.rebuilt, Fits, keys_rebuiltEntries]
    exact ⟨h.1, h.2.1, FitsEntries.rebuilt es h.2.2⟩

theorem FitsItems.rebuilt : ∀ {room : Nat} (xs : List Json), FitsItems room xs →
    FitsItems room (rebuiltItems xs)
  | _, [], _ => trivial
  | _, x :: xs, h => ⟨Fits.rebuilt x h.1, FitsItems.rebuilt xs h.2⟩

theorem FitsEntries.rebuilt : ∀ {room : Nat} (es : List (String × Json)), FitsEntries room es →
    FitsEntries room (rebuiltEntries es)
  | _, [], _ => trivial
  | _, (_, x) :: es, h => ⟨Fits.rebuilt x h.1, FitsEntries.rebuilt es h.2⟩

end

mutual

theorem WellFormed.rebuilt : ∀ j : Json, WellFormed j → WellFormed j.rebuilt
  | .null, _ | .bool _, _ | .num _, _ | .str _, _ => by simp [Json.rebuilt, WellFormed]
  | .arr xs, h => by
    rw [WellFormed] at h
    rw [Json.rebuilt, WellFormed]
    exact WellFormedItems.rebuilt xs h
  | .obj es, h => by
    rw [WellFormed] at h
    rw [Json.rebuilt, WellFormed, keys_rebuiltEntries]
    exact ⟨h.1, WellFormedEntries.rebuilt es h.2⟩

theorem WellFormedItems.rebuilt : ∀ xs : List Json, WellFormedItems xs →
    WellFormedItems (rebuiltItems xs)
  | [], _ => trivial
  | x :: xs, h => ⟨WellFormed.rebuilt x h.1, WellFormedItems.rebuilt xs h.2⟩

theorem WellFormedEntries.rebuilt : ∀ es : List (String × Json), WellFormedEntries es →
    WellFormedEntries (rebuiltEntries es)
  | [], _ => trivial
  | (_, x) :: es, h => ⟨WellFormed.rebuilt x h.1, WellFormedEntries.rebuilt es h.2⟩

end

end WorkflowManifest.Json

namespace WorkflowManifest.Document

theorem Storable.rebuilt {d : Document} (h : d.Storable) :
    (ofEntries (Json.rebuiltEntries d.entries)).Storable where
  nodup := by
    rw [ofEntries, Json.keys_rebuiltEntries]
    exact h.nodup
  fits := h.fits.rebuilt

end WorkflowManifest.Document
