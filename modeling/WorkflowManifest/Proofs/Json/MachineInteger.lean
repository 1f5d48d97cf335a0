import WorkflowManifest.Json.Exact
import WorkflowManifest.Proofs.Decimal.Digits

namespace WorkflowManifest.Json

namespace Number

variable {n : Number}

def unsignedZero (n : Number) : Number :=
  if n.whole = .zero then { n with negative := false } else n

theorem wholeValue_of_zero (h : n.whole = .zero) : n.wholeValue = 0 := by
  have hzero : Digit.value (Whole.zero).digits = 0 := rfl
  simp [wholeValue, h, hzero]

theorem wholeValue_unsignedZero (n : Number) : n.unsignedZero.wholeValue = n.wholeValue := by
  unfold unsignedZero
  split
  next h =>
    rw [wholeValue_of_zero h]
    exact wholeValue_of_zero h
  next => rfl

theorem isInteger_unsignedZero (n : Number) : n.unsignedZero.isInteger = n.isInteger := by
  unfold unsignedZero
  split <;> rfl

theorem wholeValue_nonpos (h : n.negative = true) : n.wholeValue ≤ 0 := by
  rw [wholeValue, if_pos h]
  omega

theorem wholeValue_nonneg (h : n.negative = false) : 0 ≤ n.wholeValue := by
  rw [wholeValue, if_neg (by simp [h])]
  exact Int.natCast_nonneg _

theorem ofInt_wholeValue (h : n.isInteger = true) : ofInt n.wholeValue = n.unsignedZero := by
  obtain ⟨negative, whole, fraction, exponent⟩ := n
  obtain ⟨rfl, rfl⟩ : fraction = [] ∧ exponent = none := by simpa [isInteger] using h
  cases whole with
  | zero =>
    rw [wholeValue_of_zero rfl, ofInt, Int.natAbs_zero, Digit.ofNat_zero]
    rfl
  | lead first rest =>
    have hrow : Digit.ofNat (Digit.value (first.succ :: rest)) = first.succ :: rest := by
      rw [Digit.ofNat_value, List.dropWhile_cons_of_neg (by simp [Fin.succ_ne_zero])]
    have hpos : 0 < Digit.value (first.succ :: rest) :=
      Nat.lt_of_lt_of_le (Nat.pow_pos (by decide)) (Digit.le_value (Fin.succ_ne_zero first) rest)
    have hwhole : Whole.ofDigits (first.succ :: rest) = .lead first rest := by
      simp [Whole.ofDigits, Fin.succ_ne_zero]
    cases negative with
    | false => simp [ofInt, wholeValue, unsignedZero, Whole.digits, hrow, hwhole]
    | true => simp [ofInt, wholeValue, unsignedZero, Whole.digits, hrow, hwhole, hpos]

end Number

namespace IntegerType

variable {t : IntegerType} {ts : List IntegerType} {n : Number} {i : Int}

theorem read?_eq_some_iff : t.read? n = some i ↔ n.isInteger = true ∧
    (n.negative = true → t.least < 0) ∧ t.least ≤ i ∧ i ≤ t.greatest ∧ i = n.wholeValue := by
  rw [read?]
  split
  next h =>
    rw [Option.some.injEq]
    constructor
    · rintro rfl
      exact ⟨h.1, h.2.1, h.2.2.1, h.2.2.2, rfl⟩
    · rintro ⟨-, -, -, -, rfl⟩
      rfl
  next h =>
    refine iff_of_false (by simp) ?_
    rintro ⟨hint, hsign, hlow, hhigh, rfl⟩
    exact h ⟨hint, hsign, hlow, hhigh⟩

theorem of_firstRead? (h : firstRead? ts n = some i) : n.isInteger = true ∧ i = n.wholeValue ∧
    ∃ t ∈ ts, t.least ≤ i ∧ i ≤ t.greatest := by
  obtain ⟨t, ht, hread⟩ := List.exists_of_findSome?_eq_some h
  obtain ⟨hint, -, hlow, hhigh, hi⟩ := read?_eq_some_iff.1 hread
  exact ⟨hint, hi, t, ht, hlow, hhigh⟩

theorem firstRead?_of_mem (ht : t ∈ ts) (h : t.read? n = some i) : firstRead? ts n ≠ none := by
  intro hnone
  rw [List.findSome?_eq_none_iff.1 hnone t ht] at h
  cases h

end IntegerType

def smallestInteger : Int := -0x80000000000000000000000000000000
def largestInteger : Int := 0xffffffffffffffffffffffffffffffff

namespace Number

open IntegerType

variable {n : Number}

theorem within_of_firstRead? {ts : List IntegerType} {i : Int} (h : firstRead? ts n = some i)
    (hts : ∀ t ∈ ts, smallestInteger ≤ t.least ∧ t.greatest ≤ largestInteger) :
    smallestInteger ≤ n.wholeValue ∧ n.wholeValue ≤ largestInteger := by
  obtain ⟨-, rfl, t, ht, hlow, hhigh⟩ := of_firstRead? h
  exact ⟨(hts t ht).1.trans hlow, hhigh.trans (hts t ht).2⟩

theorem firstRead?_of_within {ts : List IntegerType} (hsigned : signed128 ∈ ts)
    (hunsigned : unsigned128 ∈ ts) (hint : n.isInteger = true)
    (h : smallestInteger ≤ n.wholeValue ∧ n.wholeValue ≤ largestInteger) :
    firstRead? ts n ≠ none := by
  cases hn : n.negative with
  | true =>
    have hle : n.wholeValue ≤ signed128.greatest := (wholeValue_nonpos hn).trans (by decide)
    exact firstRead?_of_mem hsigned
      (read?_eq_some_iff.2 ⟨hint, fun _ => by decide, h.1, hle, rfl⟩)
  | false =>
    exact firstRead?_of_mem hunsigned
      (read?_eq_some_iff.2 ⟨hint, by simp [hn], wholeValue_nonneg hn, h.2, rfl⟩)

theorem exact_eq (n : Number) : n.exact =
    if n.isInteger then
      if smallestInteger ≤ n.wholeValue ∧ n.wholeValue ≤ largestInteger then .ok n.unsignedZero
      else .error (.integerTooLarge n.text)
    else
      match n.magnitude? with
      | some x => .ok (ofBinary64 n.negative x)
      | none => .error (.notFinite n.text) := by
  rw [exact]
  split
  next i h =>
    obtain ⟨hint, rfl, -⟩ := of_firstRead? h
    rw [if_pos hint, if_pos (within_of_firstRead? h (by decide)), ofInt_wholeValue hint]
  next =>
    split
    next hint =>
      split
      next i h =>
        obtain ⟨-, rfl, -⟩ := of_firstRead? h
        rw [if_pos (within_of_firstRead? h (by decide)), ofInt_wholeValue hint]
      next h => rw [if_neg fun hwithin => firstRead?_of_within (by simp) (by simp) hint hwithin h]
    next => rfl

end Number

end WorkflowManifest.Json
