import WorkflowManifest.Proofs.Decimal.FewDigits
import WorkflowManifest.Proofs.Json.Unwritable
import WorkflowManifest.Proofs.Json.WrittenNumber

namespace WorkflowManifest.Json.Number

variable {n m : Number} {x : Binary64}

theorem value_eq_abs (n : Number) : n.value = (if n.negative then -1 else 1) * |n.value| := by
  rw [abs_value, value, mul_assoc]

section Few

def significant (n : Number) : List Digit :=
  ((n.whole.digits ++ n.fraction).dropWhile (· = 0)).rdropWhile (· = 0)

/-- Fifteen significant digits at most, and a double of full precision unless it is zero. -/
def Few (n : Number) : Prop :=
  n.significant.length ≤ 15 ∧ (n.value = 0 ∨ 2 ^ (-1022 : Int) ≤ |n.value|)

theorem exists_significant (n : Number) :
    ∃ e : Int, |n.value| = Digit.value n.significant * 10 ^ e ∧
      n.magnitude? = Binary64.ofDecimal? (Digit.ofNat (Digit.value n.significant)) e := by
  obtain ⟨k, hk⟩ := Decimal.exists_zeros ((n.whole.digits ++ n.fraction).dropWhile (· = 0))
  have hrow : Digit.value (n.whole.digits ++ n.fraction) =
      Digit.value n.significant * 10 ^ k := by
    rw [← Digit.value_append_zeros, significant, List.rdropWhile, ← hk, ← Digit.ofNat_value,
      Digit.value_ofNat]
  refine ⟨n.scale + k, ?_, ?_⟩
  · rw [abs_value, hrow, zpow_add₀ (by norm_num), zpow_natCast]
    push_cast
    ring
  · rw [magnitude?, ← Binary64.ofDecimal?_ofNat_value, hrow, Binary64.ofDecimal?_ofNat_mul_pow]

theorem abs_value_of_spells {d : Decimal} (h : n.Spells d) : |n.value| = d.value := by
  obtain ⟨j, k, hrow, hscale⟩ := h
  rw [abs_value, hrow, hscale, Digit.value_zeros_append, Digit.value_append_zeros, Decimal.value,
    zpow_sub₀ (by norm_num), zpow_natCast]
  push_cast
  rw [mul_assoc, mul_div_cancel₀]
  positivity

theorem abs_value_ofBinary64 (negative : Bool) (hx : Binary64.Canonical x)
    (hs : x.scale ≤ Binary64.maxScale) :
    |(ofBinary64 negative x).value| = if x.isZero then 0 else x.shortest.value := by
  unfold ofBinary64
  split
  next =>
    have hzero : Digit.value (Whole.zero.digits ++ [0]) = 0 := rfl
    rw [abs_value, hzero]
    simp
  next h =>
    have hm : x.mantissa ≠ 0 := by simpa [Binary64.isZero] using h
    obtain ⟨d, ds, hds, hd⟩ := Binary64.digits_shortest hx hs hm
    exact abs_value_of_spells (spells_ofDecimal negative hds hd)

theorem abs_value_of_few (h : n.Few) (negative : Bool) (hx : n.magnitude? = some x) :
    |(ofBinary64 negative x).value| = |n.value| := by
  obtain ⟨hcanonical, hscale⟩ := Binary64.ofDecimal?_canonical hx
  rw [abs_value_ofBinary64 negative hcanonical hscale]
  have hzero := Binary64.isZero_ofDecimal?_iff hx
  rw [← abs_value] at hzero
  rcases h.2 with hvalue | hfull
  · have hsmall : |n.value| ≤ 2 ^ (-1075 : Int) := by
      rw [hvalue, abs_zero]
      exact zpow_nonneg (by norm_num) _
    rw [if_pos (hzero.2 hsmall), hvalue, abs_zero]
  · obtain ⟨e, he, hmagnitude⟩ := n.exists_significant
    have hmantissa : 2 ^ 52 ≤ x.mantissa := Binary64.full_of_le hx (by rwa [← abs_value])
    have hcoefficient : Digit.value n.significant < 10 ^ 15 :=
      (Digit.value_lt _).trans_le (Nat.pow_le_pow_right (by decide) h.1)
    have hnot : ¬ x.isZero = true := by
      rw [Binary64.isZero, decide_eq_true_eq]
      omega
    rw [if_neg hnot, he,
      Binary64.value_shortest_of_few hcoefficient (hmagnitude ▸ hx) hmantissa]

end Few

/-- What is left of a number that is written with the value `q`: all of it if it is an integer or a
decimal of few digits. A number that is no integer is rounded to a double in any case, and comes out
with its sign as the shortest decimal of that. -/
structure WrittenAs (n : Number) (q : ℚ) : Prop where
  exact : n.isInteger = true ∨ n.Few → q = n.value
  rounded : n.isInteger = false → ∃ x : Binary64, n.magnitude? = some x ∧
    |q| = (if x.isZero then 0 else x.shortest.value) ∧ (x.isZero = false → x.Shortest x.shortest) ∧
    |(|n.value| - x.value)| ≤ x.unit / 2 ∧ |(|q| - x.value)| ≤ x.unit / 2
  sign : 0 ≤ q * n.value

theorem WrittenAs.refl_of_isInteger (h : n.isInteger = true) : n.WrittenAs n.value where
  exact _ := rfl
  rounded hint := absurd hint (by simp [h])
  sign := mul_self_nonneg _

theorem abs_sub_magnitude?_le (h : n.magnitude? = some x) :
    |(|n.value| - x.value)| ≤ x.unit / 2 := by
  rw [abs_value]
  exact Binary64.abs_sub_ofDecimal?_le h

theorem mul_value_nonneg (h : m.negative = n.negative) : 0 ≤ m.value * n.value := by
  have habs : 0 ≤ |m.value| * |n.value| := mul_nonneg (abs_nonneg _) (abs_nonneg _)
  rw [m.value_eq_abs, n.value_eq_abs, h]
  split
  · linarith
  · linarith

theorem writtenAs_of_exact (h : n.exact = .ok m) : n.WrittenAs m.value := by
  cases writes_of_exact h with
  | integer hint _ =>
    have hvalue : n.unsignedZero.value = n.value := by
      rw [value_of_isInteger hint, value_of_isInteger ((isInteger_unsignedZero n).trans hint),
        wholeValue_unsignedZero]
    rw [hvalue]
    exact .refl_of_isInteger hint
  | @double hint x hx =>
    obtain ⟨hc, hs⟩ := Binary64.ofDecimal?_canonical hx
    have hsign := negative_ofBinary64 n.negative (x := x)
    have hsame := magnitude?_ofBinary64 n.negative hc hs
    have hshortest (hx : x.isZero = false) : x.Shortest x.shortest :=
      Binary64.shortestBy_shortest .even hc hs (of_decide_eq_false hx)
    refine ⟨fun hkept => ?_, fun _ => ⟨x, hx, abs_value_ofBinary64 n.negative hc hs, hshortest,
      abs_sub_magnitude?_le hx, abs_sub_magnitude?_le hsame⟩, mul_value_nonneg hsign⟩
    have hfew : n.Few := hkept.resolve_left (by simp [hint])
    rw [value_eq_abs, n.value_eq_abs, hsign, abs_value_of_few hfew n.negative hx]

end WorkflowManifest.Json.Number
