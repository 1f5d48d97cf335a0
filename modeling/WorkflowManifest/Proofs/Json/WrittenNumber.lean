import WorkflowManifest.Proofs.Decimal.ReadBack
import WorkflowManifest.Proofs.Json.MachineInteger

namespace WorkflowManifest.Json

theorem Whole.digits_ofDigits {d : Digit} (hd : d ≠ 0) (ds : List Digit) :
    (Whole.ofDigits (d :: ds)).digits = d :: ds := by
  simp [ofDigits, hd, digits]

theorem Exponent.value_ofInt (n : Int) : (Exponent.ofInt n).value = n := by
  by_cases hn : n.natAbs = 0
  · have hempty : Digit.ofNat n.natAbs = [] := by rw [hn, Digit.ofNat_zero]
    have hzero : Digit.value [0] = 0 := rfl
    simp only [ofInt, hempty, value, hzero]
    omega
  · obtain ⟨d, ds, hds, -⟩ := Digit.ofNat_ne_zero hn
    have hvalue : Digit.value (d :: ds) = n.natAbs := by rw [← hds, Digit.value_ofNat]
    simp only [ofInt, hds, value, hvalue, decide_eq_true_eq]
    split <;> omega

namespace Number

theorem wholeValue_ofDigits (n : Nat) :
    wholeValue { negative := false, whole := .ofDigits (Digit.ofNat n) } = n := by
  by_cases hn : n = 0
  · subst hn
    rw [Digit.ofNat_zero]
    rfl
  · obtain ⟨d, ds, hds, hd⟩ := Digit.ofNat_ne_zero hn
    rw [wholeValue, hds, Whole.digits_ofDigits hd, ← hds, Digit.value_ofNat]
    rfl

def Spells (n : Number) (d : Decimal) : Prop :=
  ∃ j k : Nat,
    n.whole.digits ++ n.fraction = List.replicate j 0 ++ (d.digits ++ List.replicate k 0) ∧
      n.scale = d.point - d.digits.length - k

theorem Spells.magnitude?_eq {n : Number} {d : Decimal} (h : n.Spells d) :
    n.magnitude? = d.magnitude? := by
  obtain ⟨j, k, hrow, hscale⟩ := h
  rw [magnitude?, hrow, hscale, Binary64.ofDecimal?_zeros_append, Binary64.ofDecimal?_append_zeros]
  rfl

section OfDecimal

variable (negative : Bool) {d : Decimal} {e : Digit} {es : List Digit}

theorem spells_ofDecimal (hd : d.digits = e :: es) (he : e ≠ 0) :
    (ofDecimal negative d).Spells d := by
  have hlen : d.digits.length = es.length + 1 := by rw [hd, List.length_cons]
  simp only [ofDecimal]
  split
  next h =>
    refine ⟨0, (d.point - d.digits.length).toNat + 1, ?_, ?_⟩
    · simp [hd, Whole.digits_ofDigits he, List.replicate_succ']
    · simp only [scale, List.length_singleton]
      omega
  split
  next h =>
    refine ⟨0, 0, ?_, ?_⟩
    · obtain ⟨k, hk⟩ : ∃ k, d.point.toNat = k + 1 := ⟨d.point.toNat - 1, by omega⟩
      simp [hd, hk, Whole.digits_ofDigits he]
    · simp only [scale, List.length_drop]
      omega
  split
  next h =>
    refine ⟨(-d.point).toNat + 1, 0, ?_, ?_⟩
    · simp [Whole.digits, List.replicate_succ]
    · simp only [scale, List.length_append, List.length_replicate]
      omega
  next h =>
    refine ⟨0, 0, ?_, ?_⟩
    · simp [hd, Whole.digits_ofDigits he]
    · simp only [scale, Exponent.value_ofInt, List.length_drop]
      omega

theorem isInteger_ofDecimal (hd : d.digits = e :: es) :
    (ofDecimal negative d).isInteger = false := by
  have hlen : d.digits.length = es.length + 1 := by rw [hd, List.length_cons]
  simp only [ofDecimal]
  split
  · rfl
  split
  next h =>
    have hne : d.digits.drop d.point.toNat ≠ [] := by
      intro h'
      have := List.drop_eq_nil_iff.1 h'
      omega
    simp [isInteger, hne]
  split
  · simp [isInteger, hd]
  · simp [isInteger]

theorem negative_ofDecimal : (ofDecimal negative d).negative = negative := by
  simp only [ofDecimal]
  split
  · rfl
  split
  · rfl
  split <;> rfl

end OfDecimal

section OfBinary64

variable (negative : Bool) {x : Binary64}

theorem magnitude?_ofBinary64 (hx : Binary64.Canonical x) (hs : x.scale ≤ Binary64.maxScale) :
    (ofBinary64 negative x).magnitude? = some x := by
  unfold ofBinary64
  split
  next h =>
    have hm : x.mantissa = 0 := of_decide_eq_true h
    obtain ⟨mantissa, scale⟩ := x
    obtain rfl : mantissa = 0 := hm
    obtain rfl : scale = 0 := by simpa using hx.full
    rfl
  next h =>
    have hm : x.mantissa ≠ 0 := by simpa [Binary64.isZero] using h
    obtain ⟨d, ds, hds, hd⟩ := Binary64.digits_shortest hx hs hm
    rw [(spells_ofDecimal negative hds hd).magnitude?_eq, Binary64.magnitude?_shortest hx hs hm]

theorem isInteger_ofBinary64 (hx : Binary64.Canonical x) (hs : x.scale ≤ Binary64.maxScale) :
    (ofBinary64 negative x).isInteger = false := by
  unfold ofBinary64
  split
  next => rfl
  next h =>
    have hm : x.mantissa ≠ 0 := by simpa [Binary64.isZero] using h
    obtain ⟨d, ds, hds, -⟩ := Binary64.digits_shortest hx hs hm
    exact isInteger_ofDecimal negative hds

theorem negative_ofBinary64 : (ofBinary64 negative x).negative = negative := by
  unfold ofBinary64
  split
  · rfl
  · exact negative_ofDecimal negative

end OfBinary64

/-- Integers of one value, or other numbers of one sign and one finite double. -/
inductive Alike (m n : Number) : Prop
  | integer (hm : m.isInteger = true) (hn : n.isInteger = true)
      (value : m.wholeValue = n.wholeValue)
  | double (hm : m.isInteger = false) (hn : n.isInteger = false)
      (sign : m.negative = n.negative) (x : Binary64) (hmx : m.magnitude? = some x)
      (hnx : n.magnitude? = some x)

/-- The two ways to write a number: with its own digits, or with the fewest of its double. -/
inductive Writes (n : Number) : Number → Prop
  | integer (hint : n.isInteger = true)
    (hwithin : smallestInteger ≤ n.wholeValue ∧ n.wholeValue ≤ largestInteger) :
    Writes n n.unsignedZero
  | double (hint : n.isInteger = false) {x : Binary64} (hx : n.magnitude? = some x) :
    Writes n (ofBinary64 n.negative x)

theorem writes_of_exact {n m : Number} (h : n.exact = .ok m) : n.Writes m := by
  rw [exact_eq] at h
  split at h
  next hint =>
    split at h
    next hwithin => exact Except.ok.inj h ▸ .integer hint hwithin
    next => nomatch h
  next hint =>
    split at h
    next x hx => exact Except.ok.inj h ▸ .double (Bool.eq_false_iff.2 hint) hx
    next => nomatch h

theorem alike_of_exact {n m : Number} (h : n.exact = .ok m) : n.Alike m := by
  cases writes_of_exact h with
  | integer hint _ =>
    exact .integer hint ((isInteger_unsignedZero n).trans hint) (wholeValue_unsignedZero n).symm
  | double hint hx =>
    obtain ⟨hc, hs⟩ := Binary64.ofDecimal?_canonical hx
    exact .double hint (isInteger_ofBinary64 _ hc hs) (negative_ofBinary64 _).symm _ hx
      (magnitude?_ofBinary64 _ hc hs)

theorem Alike.symm {m n : Number} (h : m.Alike n) : n.Alike m := by
  cases h with
  | integer hm hn value => exact .integer hn hm value.symm
  | double hm hn sign x hmx hnx => exact .double hn hm sign.symm x hnx hmx

theorem Alike.trans {l m n : Number} (h : l.Alike m) (h' : m.Alike n) : l.Alike n := by
  cases h with
  | integer hl hm value =>
    cases h' with
    | integer _ hn value' => exact .integer hl hn (value.trans value')
    | double hm' => exact absurd (hm.symm.trans hm') (by decide)
  | double hl hm sign x hlx hmx =>
    cases h' with
    | integer hm' => exact absurd (hm.symm.trans hm') (by decide)
    | double _ hn sign' y hmy hny =>
      obtain rfl : x = y := Option.some.inj (hmx.symm.trans hmy)
      exact .double hl hn (sign.trans sign') x hlx hny

end Number

end WorkflowManifest.Json
