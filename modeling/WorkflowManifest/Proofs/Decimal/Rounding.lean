import WorkflowManifest.Proofs.Decimal.Overflow
import Mathlib.Algebra.Order.Group.Abs

namespace WorkflowManifest.Binary64

def unit (x : Binary64) : ℚ := 2 ^ ((x.scale : Int) - 1074)

def value (x : Binary64) : ℚ := x.mantissa * x.unit

theorem unit_pos (x : Binary64) : 0 < x.unit := zpow_pos (by norm_num) _

theorem unit_eq (x : Binary64) : x.unit = 2 ^ x.scale / 2 ^ 1074 := by
  rw [unit, zpow_sub₀ (by norm_num), zpow_natCast]
  norm_cast

theorem roundQuotient_error {d : Nat} (hd : 0 < d) (n : Nat) :
    2 * (d * roundQuotient n d) ≤ 2 * n + d ∧ 2 * n ≤ 2 * (d * roundQuotient n d) + d := by
  have hn : d * (n / d) + n % d = n := Nat.div_add_mod n d
  have hrest : n % d < d := Nat.mod_lt n hd
  have hnext : d * (n / d + 1) = d * (n / d) + d := Nat.mul_add_one d (n / d)
  unfold roundQuotient
  split
  · omega
  split
  · omega
  · rcases Nat.mod_two_eq_zero_or_one (n / d) with h | h
    · rw [h, Nat.add_zero]
      omega
    · rw [h]
      omega

theorem ofQuotient_error {d : Nat} (hd : 0 < d) (n : Nat) :
    2 * (d * ((ofQuotient n d).mantissa * 2 ^ (ofQuotient n d).scale)) ≤
        2 * n + d * 2 ^ (ofQuotient n d).scale ∧
      2 * n ≤ 2 * (d * ((ofQuotient n d).mantissa * 2 ^ (ofQuotient n d).scale)) +
        d * 2 ^ (ofQuotient n d).scale := by
  have herror := roundQuotient_error (Nat.mul_pos hd (Nat.two_pow_pos (Nat.log2 (n / d) - 52))) n
  simp only [ofQuotient]
  generalize Nat.log2 (n / d) - 52 = s at herror ⊢
  split
  next hfull =>
    rw [hfull] at herror
    rw [show d * (2 ^ 52 * 2 ^ (s + 1)) = d * 2 ^ s * 2 ^ 53 by ring,
      show d * 2 ^ (s + 1) = 2 * (d * 2 ^ s) by ring]
    omega
  next =>
    rw [show ∀ m, d * (m * 2 ^ s) = d * 2 ^ s * m by intro m; ring]
    exact herror

theorem abs_sub_ofQuotient_le (v : Nat) (e : Int) :
    |v * 10 ^ e - (ofQuotient (v * 10 ^ e.toNat * 2 ^ 1074) (10 ^ (-e).toNat)).value| ≤
      (ofQuotient (v * 10 ^ e.toNat * 2 ^ 1074) (10 ^ (-e).toNat)).unit / 2 := by
  have hden : 0 < 10 ^ (-e).toNat := Nat.pow_pos (by decide)
  obtain ⟨hlow, hhigh⟩ := ofQuotient_error hden (v * 10 ^ e.toNat * 2 ^ 1074)
  generalize ofQuotient (v * 10 ^ e.toNat * 2 ^ 1074) (10 ^ (-e).toNat) = x at hlow hhigh ⊢
  have hpos : (0 : ℚ) < 10 ^ (-e).toNat * 2 ^ 1074 := by positivity
  have hscale : (2 : ℚ) ^ x.scale = 2 ^ 1074 * x.unit := by
    rw [unit_eq, mul_div_cancel₀]
    exact pow_ne_zero _ (by norm_num)
  rw [← Nat.cast_le (α := ℚ)] at hlow hhigh
  simp only [Nat.cast_mul, Nat.cast_add, Nat.cast_pow, Nat.cast_ofNat, pow_toNat e, hscale]
    at hlow hhigh
  rw [value, abs_le]
  generalize (2 : ℚ) ^ 1074 = units at hpos hlow hhigh
  generalize (10 : ℚ) ^ (-e).toNat = d at hpos hlow hhigh
  constructor
  · apply le_of_mul_le_mul_left _ hpos
    linarith
  · apply le_of_mul_le_mul_left _ hpos
    linarith

theorem zero_value : zero.value = 0 := by simp [value, zero]

theorem le_half_of_top {v k : Nat} {e : Int} (hv : v < 10 ^ k) (htop : k + e < -330) :
    (v * 10 ^ e : ℚ) ≤ 2 ^ (-1075 : Int) := by
  have hten : (0 : ℚ) < 10 ^ e := zpow_pos (by norm_num) e
  have hrow : (v : ℚ) ≤ 10 ^ k := by exact_mod_cast hv.le
  have htwo : (0 : ℚ) < 2 ^ 1075 := pow_pos two_pos 1075
  have hpow : (2 : ℚ) ^ 1075 ≤ 10 ^ 331 := by
    have hnat : 2 ^ 1075 ≤ 10 ^ 331 := by decide +kernel
    exact_mod_cast hnat
  calc
    (v * 10 ^ e : ℚ) ≤ 10 ^ k * 10 ^ e := mul_le_mul_of_nonneg_right hrow hten.le
    _ = 10 ^ ((k : Int) + e) := by rw [zpow_add₀ (by norm_num), zpow_natCast]
    _ ≤ 10 ^ (-331 : Int) := zpow_le_zpow_right₀ (by norm_num) (by omega)
    _ ≤ 2 ^ (-1075 : Int) := by
      rw [zpow_neg, zpow_neg]
      exact inv_anti₀ htwo hpow

theorem ofDecimal?_cases {ds : List Digit} {e : Int} {x : Binary64}
    (h : ofDecimal? ds e = some x) :
    (x = zero ∧ (Digit.value ds * 10 ^ e : ℚ) ≤ 2 ^ (-1075 : Int)) ∨
      x = ofQuotient (Digit.value ds * 10 ^ e.toNat * 2 ^ 1074) (10 ^ (-e).toNat) := by
  induction ds with
  | nil =>
    obtain rfl : zero = x := by simpa [ofDecimal?] using h
    exact .inl ⟨rfl, by simp [Digit.value]⟩
  | cons d ds ih =>
    by_cases hd : d = 0
    · subst hd
      have hvalue : Digit.value (0 :: ds) = Digit.value ds := by
        rw [Digit.value_cons]
        simp
      rw [ofDecimal?_zero_cons] at h
      rw [hvalue]
      exact ih h
    · rw [ofDecimal?_of_ne_zero hd] at h
      split at h
      · cases h
      split at h
      next _ htop => exact .inl ⟨(Option.some.inj h).symm, le_half_of_top (Digit.value_lt _) htop⟩
      next =>
        dsimp only at h
        split at h
        next => exact .inr (Option.some.inj h).symm
        next => cases h

theorem abs_sub_ofDecimal?_le {ds : List Digit} {e : Int} {x : Binary64}
    (h : ofDecimal? ds e = some x) : |Digit.value ds * 10 ^ e - x.value| ≤ x.unit / 2 := by
  rcases ofDecimal?_cases h with ⟨rfl, hle⟩ | rfl
  · have hnonneg : (0 : ℚ) ≤ Digit.value ds * 10 ^ e :=
      mul_nonneg (Nat.cast_nonneg _) (zpow_nonneg (by norm_num) e)
    have hunit : zero.unit / 2 = 2 ^ (-1075 : Int) := by
      rw [unit, div_eq_mul_inv, ← zpow_neg_one, ← zpow_add₀ (by norm_num)]
      rfl
    rwa [zero_value, sub_zero, abs_of_nonneg hnonneg, hunit]
  · exact abs_sub_ofQuotient_le _ e

theorem mantissa_ofQuotient_eq_zero_iff {d : Nat} (hd : 0 < d) (n : Nat) :
    (ofQuotient n d).mantissa = 0 ↔ 2 * n ≤ d := by
  constructor
  · intro hm
    have herror := (ofQuotient_error hd n).2
    have hscale : (ofQuotient n d).scale = 0 := by
      rcases (ofQuotient_canonical n d).full with hs | hs
      · exact hs
      · omega
    simpa [hm, hscale] using herror
  · intro h
    have hlt : n < d := by omega
    have hzero : roundQuotient n d = 0 := by
      rw [roundQuotient, Nat.div_eq_of_lt hlt, Nat.mod_eq_of_lt hlt]
      split
      · rfl
      split
      · omega
      · rfl
    simp [ofQuotient, Nat.div_eq_of_lt hlt, hzero]

theorem le_half_iff (v : Nat) (e : Int) :
    2 * (v * 10 ^ e.toNat * 2 ^ 1074) ≤ 10 ^ (-e).toNat ↔
      (v * 10 ^ e : ℚ) ≤ 2 ^ (-1075 : Int) := by
  have hpos : (0 : ℚ) < 10 ^ (-e).toNat := by positivity
  have hunits : (0 : ℚ) < 2 * 2 ^ 1074 := mul_pos two_pos (pow_pos two_pos 1074)
  have hhalf : (2 : ℚ) ^ (-1075 : Int) = 1 / (2 * 2 ^ 1074) := by
    rw [← pow_succ', one_div, zpow_neg]
    rfl
  rw [hhalf, le_div_iff₀ hunits, ← mul_le_mul_iff_left₀ hpos, ← Nat.cast_le (α := ℚ)]
  simp only [Nat.cast_mul, Nat.cast_pow, Nat.cast_ofNat, pow_toNat e]
  generalize (2 : ℚ) ^ 1074 = units
  ring_nf

theorem isZero_ofDecimal?_iff {ds : List Digit} {e : Int} {x : Binary64}
    (h : ofDecimal? ds e = some x) :
    x.isZero = true ↔ (Digit.value ds * 10 ^ e : ℚ) ≤ 2 ^ (-1075 : Int) := by
  rcases ofDecimal?_cases h with ⟨rfl, hle⟩ | rfl
  · exact iff_of_true rfl hle
  · rw [isZero, decide_eq_true_eq, mantissa_ofQuotient_eq_zero_iff (Nat.pow_pos (by decide)),
      le_half_iff]

theorem full_of_le {ds : List Digit} {e : Int} {x : Binary64} (h : ofDecimal? ds e = some x)
    (hle : (2 : ℚ) ^ (-1022 : Int) ≤ Digit.value ds * 10 ^ e) : 2 ^ 52 ≤ x.mantissa := by
  have herror := (abs_le.1 (abs_sub_ofDecimal?_le h)).2
  rcases (ofDecimal?_canonical h).1.full with hs | hfull
  · by_contra hlt
    have hpos := x.unit_pos
    have hcast : (x.mantissa : ℚ) ≤ 2 ^ 52 - 1 := by
      have hle : (x.mantissa : ℚ) + 1 ≤ 2 ^ 52 := by exact_mod_cast Nat.lt_of_not_le hlt
      linarith
    have hvalue : x.value ≤ (2 ^ 52 - 1) * x.unit := mul_le_mul_of_nonneg_right hcast hpos.le
    have hunit : (2 : ℚ) ^ (-1022 : Int) = 2 ^ 52 * x.unit := by
      rw [unit, hs, ← zpow_natCast, ← zpow_add₀ (by norm_num)]
      rfl
    linarith
  · exact hfull

end WorkflowManifest.Binary64
