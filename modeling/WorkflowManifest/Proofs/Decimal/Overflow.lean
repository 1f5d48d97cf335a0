import WorkflowManifest.Proofs.Decimal.ReadBack
import Mathlib.Algebra.Order.Field.Basic
import Mathlib.Data.Rat.Cast.Order
import Mathlib.Tactic.FieldSimp
import Mathlib.Tactic.Linarith

namespace WorkflowManifest.Binary64

theorem lt_roundQuotient_iff {k d : Nat} (hd : 0 < d) (hk : k % 2 = 1) (n : Nat) :
    k < roundQuotient n d ↔ (2 * k + 1) * d ≤ 2 * n := by
  have hn : d * (n / d) + n % d = n := Nat.div_add_mod n d
  have hrest : n % d < d := Nat.mod_lt n hd
  have hle := le_roundQuotient n d
  have hge := roundQuotient_le n d
  rw [show (2 * k + 1) * d = 2 * (d * k) + d by ring]
  rcases Nat.lt_trichotomy k (n / d) with h | h | h
  · have hmul : d * (k + 1) ≤ d * (n / d) := Nat.mul_le_mul_left d h
    rw [Nat.mul_add_one] at hmul
    omega
  · subst h
    rw [roundQuotient]
    split
    · omega
    split
    · omega
    · omega
  · have hmul : d * (n / d + 1) ≤ d * k := Nat.mul_le_mul_left d h
    rw [Nat.mul_add_one] at hmul
    omega

theorem scale_ofQuotient (n d : Nat) :
    (ofQuotient n d).scale = Nat.log2 (n / d) - 52 +
      if roundQuotient n (d * 2 ^ (Nat.log2 (n / d) - 52)) = 2 ^ 53 then 1 else 0 := by
  simp only [ofQuotient]
  split <;> rfl

theorem lt_scale_ofQuotient_iff {n d : Nat} (hd : 0 < d) (s : Nat) :
    s + 1 < (ofQuotient n d).scale ↔ (2 ^ 54 - 1) * (2 ^ s * d) ≤ n := by
  have hbelow {t : Nat} (ht : Nat.log2 (n / d) < t) : n < 2 ^ t * d := by
    rw [← Nat.div_lt_iff_lt_mul hd]
    exact Nat.lt_of_lt_of_le Nat.lt_log2_self (Nat.pow_le_pow_right (by decide) ht)
  have habove {t : Nat} (ht : t ≤ Nat.log2 (n / d)) (hpos : 0 < t) : 2 ^ t * d ≤ n := by
    have hne : n / d ≠ 0 := by
      intro h
      rw [h, Nat.log2_zero] at ht
      omega
    rw [← Nat.le_div_iff_mul_le hd]
    exact Nat.le_trans (Nat.pow_le_pow_right (by decide) ht) (Nat.log2_self_le hne)
  have hpow (k : Nat) : 2 ^ (s + k) * d = 2 ^ k * (2 ^ s * d) := by
    rw [Nat.pow_add]
    ring
  rw [scale_ofQuotient]
  rcases Nat.lt_trichotomy (Nat.log2 (n / d)) (s + 53) with h | h | h
  · have hn := hbelow h
    rw [hpow] at hn
    generalize 2 ^ s * d = unit at hn ⊢
    constructor
    · split <;> omega
    · omega
  · have hexp : Nat.log2 (n / d) - 52 = s + 1 := by omega
    have hlt := scaled_lt n d
    have hle := roundQuotient_le n (d * 2 ^ (s + 1))
    have hround := lt_roundQuotient_iff (k := 2 ^ 53 - 1)
      (Nat.mul_pos hd (Nat.two_pow_pos (s + 1))) (by decide) n
    have hunit : d * 2 ^ (s + 1) = 2 * (2 ^ s * d) := by rw [Nat.mul_comm, hpow, Nat.pow_one]
    rw [hexp] at hlt ⊢
    generalize roundQuotient n (d * 2 ^ (s + 1)) = mantissa at hle hround ⊢
    rw [hunit] at hround
    generalize 2 ^ s * d = unit at hround ⊢
    constructor
    · split <;> omega
    · intro hn
      have hmantissa : mantissa = 2 ^ 53 := by omega
      rw [if_pos hmantissa]
      omega
  · have hn := habove (t := s + 54) h (by omega)
    rw [hpow] at hn
    generalize 2 ^ s * d = unit at hn ⊢
    constructor
    · omega
    · omega

section Bound

theorem bound_eq : (2 ^ 1024 - 2 ^ 970 : ℚ) = (2 ^ 54 - 1) * 2 ^ 970 := by
  have hpow : (2 : ℚ) ^ 1024 = 2 ^ 54 * 2 ^ 970 := by rw [← pow_add]
  rw [hpow]
  generalize (2 : ℚ) ^ 970 = unit
  ring

theorem bound_le : (2 ^ 1024 - 2 ^ 970 : ℚ) ≤ 10 ^ (310 : Int) := by
  have hnat : 2 ^ 1024 ≤ 10 ^ 310 := by decide +kernel
  have hcast : (2 : ℚ) ^ 1024 ≤ 10 ^ 310 := by exact_mod_cast hnat
  have hpos : (0 : ℚ) ≤ 2 ^ 970 := pow_nonneg (by norm_num) 970
  calc
    (2 : ℚ) ^ 1024 - 2 ^ 970 ≤ 2 ^ 1024 := sub_le_self _ hpos
    _ ≤ 10 ^ 310 := hcast

theorem one_le_bound : (1 : ℚ) ≤ 2 ^ 1024 - 2 ^ 970 := by
  have hpow : (1 : ℚ) ≤ 2 ^ 970 := one_le_pow₀ (by norm_num)
  rw [bound_eq]
  generalize (2 : ℚ) ^ 970 = unit at hpow ⊢
  linarith

end Bound

theorem pow_toNat (e : Int) : (10 : ℚ) ^ e.toNat = 10 ^ e * 10 ^ (-e).toNat := by
  have hexp : (e.toNat : Int) = e + (-e).toNat := by omega
  rw [← zpow_natCast, hexp, zpow_add₀ (by norm_num), zpow_natCast]

theorem bound_le_iff (v : Nat) (e : Int) :
    (2 ^ 54 - 1) * (2 ^ 2044 * 10 ^ (-e).toNat) ≤ v * 10 ^ e.toNat * 2 ^ 1074 ↔
      (2 ^ 1024 - 2 ^ 970 : ℚ) ≤ v * 10 ^ e := by
  have hunit : (0 : ℚ) < 2 ^ 1074 * 10 ^ (-e).toNat := by positivity
  have hpow : (2 : ℚ) ^ 2044 = 2 ^ 970 * 2 ^ 1074 := by rw [← pow_add]
  have hmost : ((2 ^ 54 - 1 : Nat) : ℚ) = 2 ^ 54 - 1 := by norm_num
  rw [bound_eq, ← mul_le_mul_iff_left₀ hunit, ← Nat.cast_le (α := ℚ)]
  simp only [Nat.cast_mul, Nat.cast_pow, Nat.cast_ofNat, hmost, pow_toNat e, hpow]
  generalize (2 : ℚ) ^ 970 = a
  generalize (2 : ℚ) ^ 1074 = b
  ring_nf

theorem ofDecimal?_eq_none_iff_of_ne_zero {d : Digit} (hd : d ≠ 0) (ds : List Digit) (e : Int) :
    ofDecimal? (d :: ds) e = none ↔
      (2 ^ 1024 - 2 ^ 970 : ℚ) ≤ Digit.value (d :: ds) * 10 ^ e := by
  have hten : (0 : ℚ) < 10 ^ e := zpow_pos (by norm_num) e
  have hlow : (10 : ℚ) ^ ds.length ≤ Digit.value (d :: ds) := by
    exact_mod_cast Digit.le_value hd ds
  have hhigh : (Digit.value (d :: ds) : ℚ) < 10 ^ (d :: ds).length := by
    exact_mod_cast Digit.value_lt (d :: ds)
  rw [ofDecimal?_of_ne_zero hd]
  split
  next htop =>
    refine iff_of_true rfl ?_
    have hexp : (310 : Int) ≤ ds.length + e := by
      rw [List.length_cons] at htop
      omega
    calc
      (2 ^ 1024 - 2 ^ 970 : ℚ) ≤ 10 ^ (310 : Int) := bound_le
      _ ≤ 10 ^ ((ds.length : Int) + e) := zpow_le_zpow_right₀ (by norm_num) hexp
      _ = 10 ^ ds.length * 10 ^ e := by rw [zpow_add₀ (by norm_num), zpow_natCast]
      _ ≤ Digit.value (d :: ds) * 10 ^ e := mul_le_mul_of_nonneg_right hlow hten.le
  split
  next _ htop =>
    refine iff_of_false (by simp) (not_le.2 ?_)
    calc
      (Digit.value (d :: ds) * 10 ^ e : ℚ) < 10 ^ (d :: ds).length * 10 ^ e :=
        mul_lt_mul_of_pos_right hhigh hten
      _ = 10 ^ (((d :: ds).length : Int) + e) := by rw [zpow_add₀ (by norm_num), zpow_natCast]
      _ ≤ 10 ^ (0 : Int) := zpow_le_zpow_right₀ (by norm_num) (by omega)
      _ ≤ 2 ^ 1024 - 2 ^ 970 := by simpa using one_le_bound
  next _ _ =>
    have hpos : 0 < 10 ^ (-e).toNat := Nat.pow_pos (by decide)
    rw [← bound_le_iff, ← lt_scale_ofQuotient_iff hpos]
    generalize ofQuotient _ _ = x
    by_cases hx : x.scale ≤ maxScale
    · exact iff_of_false (by simp [hx]) (Nat.not_lt.2 hx)
    · exact iff_of_true (if_neg hx) (Nat.lt_of_not_le hx)

theorem ofDecimal?_eq_none_iff (ds : List Digit) (e : Int) :
    ofDecimal? ds e = none ↔ (2 ^ 1024 - 2 ^ 970 : ℚ) ≤ Digit.value ds * 10 ^ e := by
  induction ds with
  | nil =>
    refine iff_of_false (by simp [ofDecimal?]) (not_le.2 ?_)
    simp only [Digit.value, List.foldl_nil, Nat.cast_zero, zero_mul]
    exact zero_lt_one.trans_le one_le_bound
  | cons d ds ih =>
    by_cases hd : d = 0
    · subst hd
      rw [ofDecimal?_zero_cons, ih, Digit.value_cons]
      simp
    · exact ofDecimal?_eq_none_iff_of_ne_zero hd ds e

end WorkflowManifest.Binary64
