import WorkflowManifest.Proofs.Decimal.Fewest
import Mathlib.Data.List.DropRight

namespace WorkflowManifest

namespace Binary64

theorem ofDecimal?_ofNat_value (ds : List Digit) (e : Int) :
    ofDecimal? (Digit.ofNat (Digit.value ds)) e = ofDecimal? ds e := by
  unfold ofDecimal?
  rw [Digit.ofNat_value, List.dropWhile_idempotent]

theorem ofDecimal?_ofNat_mul_pow (c k : Nat) (e : Int) :
    ofDecimal? (Digit.ofNat (c * 10 ^ k)) e = ofDecimal? (Digit.ofNat c) (e + k) := by
  rw [← Digit.value_ofNat c, ← Digit.value_append_zeros, Digit.value_ofNat, ofDecimal?_ofNat_value,
    ← ofDecimal?_append_zeros k (Digit.ofNat c), show e + (k : Int) - k = e by omega]

variable {x : Binary64}

def lastOfFifteen (x : Binary64) : Int := x.gridExponent 15

theorem value_bounds (hm : x.mantissa ≠ 0) :
    10 ^ 14 * (10 : ℚ) ^ x.lastOfFifteen ≤ x.value ∧
      x.value < 10 ^ 15 * 10 ^ x.lastOfFifteen := by
  obtain ⟨d, ds, hds, hd⟩ := exactDigits_ne_zero hm
  have hpos : (0 : ℚ) < 10 ^ (-1074 : Int) := zpow_pos (by norm_num) _
  have hlow : (10 : ℚ) ^ ds.length ≤ Digit.value (d :: ds) := by
    exact_mod_cast Digit.le_value hd ds
  have hhigh : (Digit.value (d :: ds) : ℚ) < 10 ^ (d :: ds).length := by
    exact_mod_cast Digit.value_lt (d :: ds)
  have hsplit (j k : Nat) (hjk : (d :: ds).length + j = 15 + k) :
      (10 : ℚ) ^ j * 10 ^ (((d :: ds).length : Int) - 1074 - (15 : Nat)) =
        10 ^ k * 10 ^ (-1074 : Int) := by
    rw [← zpow_natCast, ← zpow_natCast, ← zpow_add₀ (by norm_num), ← zpow_add₀ (by norm_num)]
    congr 1
    omega
  rw [lastOfFifteen, gridExponent, value_eq_exactDigits, hds]
  constructor
  · rw [hsplit 14 ds.length (by rw [List.length_cons]; omega)]
    exact mul_le_mul_of_nonneg_right hlow hpos.le
  · rw [hsplit 15 (d :: ds).length (by omega)]
    exact mul_lt_mul_of_pos_right hhigh hpos

theorem eq_of_abs_sub_lt {j k : Nat} {step : ℚ} (hstep : 0 < step)
    (h : |(j * step - k * step : ℚ)| < step) : j = k := by
  rw [← sub_mul, abs_mul, abs_of_pos hstep, mul_lt_iff_lt_one_left hstep] at h
  have hint : |(j : Int) - k| < 1 := by exact_mod_cast h
  have hzero := Int.abs_lt_one_iff.1 hint
  omega

section FewDigits

variable {c : Nat} {e : Int}

theorem mul_unit_le_value (hfull : 2 ^ 52 ≤ x.mantissa) : 2 ^ 52 * x.unit ≤ x.value :=
  mul_le_mul_of_nonneg_right (by exact_mod_cast hfull) x.unit_pos.le

theorem grid_le_exponent (hc : c < 10 ^ 15) (h : ofDecimal? (Digit.ofNat c) e = some x)
    (hfull : 2 ^ 52 ≤ x.mantissa) : x.lastOfFifteen ≤ e := by
  have hunit := mul_unit_le_value hfull
  have hnear := (abs_le.1 (abs_sub_ofDecimal?_le h)).1
  obtain ⟨hlow, -⟩ := value_bounds (x := x) (by omega)
  rw [Digit.value_ofNat] at hnear
  by_contra hlt
  have hstep : (10 : ℚ) ^ e ≤ 10 ^ x.lastOfFifteen / 10 := by
    rw [div_eq_mul_inv, ← zpow_neg_one, ← zpow_add₀ (by norm_num)]
    exact zpow_le_zpow_right₀ (by norm_num) (by omega)
  have hcast : (c : ℚ) ≤ 10 ^ 15 - 1 := by
    have hle : (c : ℚ) + 1 ≤ 10 ^ 15 := by exact_mod_cast hc
    linarith
  have hpos : (0 : ℚ) < 10 ^ e := zpow_pos (by norm_num) e
  have hdecimal : (c * 10 ^ e : ℚ) ≤
      (10 ^ 15 - 1) * (10 ^ x.lastOfFifteen / 10) :=
    mul_le_mul hcast hstep hpos.le (by norm_num)
  have hgrid : (0 : ℚ) < 10 ^ x.lastOfFifteen :=
    zpow_pos (by norm_num) _
  linarith

theorem unit_lt_grid (hfull : 2 ^ 52 ≤ x.mantissa) : x.unit < 10 ^ x.lastOfFifteen := by
  have hunit := mul_unit_le_value hfull
  obtain ⟨-, hhigh⟩ := value_bounds (x := x) (by omega)
  have hpos := x.unit_pos
  linarith

theorem abs_sub_grid_le (hc : c < 10 ^ 15) (h : ofDecimal? (Digit.ofNat c) e = some x)
    (hfull : 2 ^ 52 ≤ x.mantissa) :
    |((c * 10 ^ (e - x.lastOfFifteen).toNat : Nat) * 10 ^ x.lastOfFifteen - x.value : ℚ)| ≤
      x.unit / 2 := by
  have hnear := abs_sub_ofDecimal?_le h
  rwa [Digit.value_ofNat, ← onto_grid (grid_le_exponent hc h hfull)] at hnear

theorem value_shortest_of_few (hc : c < 10 ^ 15) (h : ofDecimal? (Digit.ofNat c) e = some x)
    (hfull : 2 ^ 52 ≤ x.mantissa) : x.shortest.value = c * 10 ^ e := by
  obtain ⟨hcanonical, hscale⟩ := ofDecimal?_canonical h
  have hm : x.mantissa ≠ 0 := by omega
  have hshortest := shortestBy_shortest .even hcanonical hscale hm
  have hlength : x.shortest.digits.length ≤ 15 :=
    (hshortest.fewest _ ((Decimal.magnitude?_ofNat c e).trans h)).trans
      (Decimal.length_digits_ofNat_le (Nat.succ_pos 14) hc.le e)
  have hsmall : Digit.value x.shortest.digits < 10 ^ 15 :=
    (Digit.value_lt _).trans_le (Nat.pow_le_pow_right (by decide) hlength)
  have hback : ofDecimal? (Digit.ofNat (Digit.value x.shortest.digits))
      (x.shortest.point - x.shortest.digits.length) = some x :=
    (ofDecimal?_ofNat_value _ _).trans hshortest.readsBack
  -- Both decimals lie on the grid of fifteen digits, less than a step from each other.
  rw [Decimal.value, ← onto_grid (grid_le_exponent hsmall hback hfull),
    ← onto_grid (grid_le_exponent hc h hfull)]
  congr 2
  have hstep : (0 : ℚ) < 10 ^ x.lastOfFifteen := zpow_pos (by norm_num) _
  apply eq_of_abs_sub_lt hstep
  calc
    _ ≤ _ := abs_sub_le _ x.value _
    _ ≤ x.unit / 2 + x.unit / 2 := by
      refine add_le_add (abs_sub_grid_le hsmall hback hfull) ?_
      rw [abs_sub_comm]
      exact abs_sub_grid_le hc h hfull
    _ = x.unit := add_halves x.unit
    _ < 10 ^ x.lastOfFifteen := unit_lt_grid hfull

end FewDigits

end Binary64

end WorkflowManifest
