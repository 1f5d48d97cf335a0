import WorkflowManifest.Proofs.Decimal.Rounding

namespace WorkflowManifest.Binary64

def units (x : Binary64) : Nat := x.mantissa * 2 ^ x.scale

theorem units_injective {x y : Binary64} (hx : Canonical x) (hy : Canonical y)
    (h : x.units = y.units) : x = y := by
  have hback := ofQuotient_exact hx Nat.one_pos
  rw [← ofQuotient_exact hy Nat.one_pos, ← hback]
  exact congrArg (fun k => ofQuotient (1 * k) 1) h

theorem units_ofQuotient (n d : Nat) :
    (ofQuotient n d).units = roundQuotient n (d * 2 ^ (Nat.log2 (n / d) - 52)) *
      2 ^ (Nat.log2 (n / d) - 52) := by
  simp only [ofQuotient]
  generalize Nat.log2 (n / d) - 52 = s
  split
  next h =>
    rw [h, units, Nat.pow_succ]
    ring
  next => rfl

theorem roundQuotient_mono {n m : Nat} (h : n ≤ m) (d : Nat) :
    roundQuotient n d ≤ roundQuotient m d := by
  rcases Nat.lt_or_eq_of_le (Nat.div_le_div_right (c := d) h) with hlt | heq
  · exact ((roundQuotient_le n d).trans hlt).trans (le_roundQuotient m d)
  · have hrest : n % d ≤ m % d := by
      have hn := Nat.div_add_mod n d
      have hm := Nat.div_add_mod m d
      rw [heq] at hn
      omega
    simp only [roundQuotient, heq]
    split
    · split
      · exact Nat.le_refl _
      split <;> omega
    split
    · rw [if_neg (by omega), if_pos (by omega)]
    · rw [if_neg (by omega)]
      split <;> omega

theorem log2_mono {n m : Nat} (h : n ≤ m) : Nat.log2 n ≤ Nat.log2 m := by
  by_cases hn : n = 0
  · rw [hn, Nat.log2_zero]
    exact Nat.zero_le _
  · exact (Nat.le_log2 (by omega)).2 ((Nat.log2_self_le hn).trans h)

theorem units_ofQuotient_mono {n m : Nat} (h : n ≤ m) (d : Nat) :
    (ofQuotient n d).units ≤ (ofQuotient m d).units := by
  have hlog := log2_mono (Nat.div_le_div_right (c := d) h)
  rw [units_ofQuotient, units_ofQuotient]
  rcases Nat.lt_or_eq_of_le (Nat.sub_le_sub_right hlog 52) with hlt | heq
  · -- The greater quotient has the greater scale, and is beyond all mantissas of the lesser one.
    have hround := (roundQuotient_le n (d * 2 ^ (Nat.log2 (n / d) - 52))).trans (scaled_lt n d)
    have hfull : 2 ^ 52 ≤ roundQuotient m (d * 2 ^ (Nat.log2 (m / d) - 52)) := by
      refine le_trans ?_ (le_roundQuotient _ _)
      have hne : m / d ≠ 0 := by
        intro h0
        rw [h0, Nat.log2_zero] at hlt
        omega
      rw [← Nat.div_div_eq_div_mul, Nat.le_div_iff_mul_le (Nat.two_pow_pos _), ← Nat.pow_add]
      exact (Nat.pow_le_pow_right (by decide) (by omega)).trans (Nat.log2_self_le hne)
    calc
      _ ≤ 2 ^ 53 * 2 ^ (Nat.log2 (n / d) - 52) := Nat.mul_le_mul_right _ hround
      _ = 2 ^ 52 * 2 ^ (Nat.log2 (n / d) - 52 + 1) := by
        rw [← Nat.pow_add, ← Nat.pow_add]
        congr 1
        omega
      _ ≤ 2 ^ 52 * 2 ^ (Nat.log2 (m / d) - 52) :=
        Nat.mul_le_mul_left _ (Nat.pow_le_pow_right (by decide) hlt)
      _ ≤ _ := Nat.mul_le_mul_right _ hfull
  · rw [heq]
    exact Nat.mul_le_mul_right _ (roundQuotient_mono h _)

theorem units_le_units {n m d e : Nat} (hd : 0 < d) (he : 0 < e) (h : n * e ≤ m * d) :
    (ofQuotient n d).units ≤ (ofQuotient m e).units := by
  rw [← ofQuotient_mul he n d, ← ofQuotient_mul hd m e, Nat.mul_comm e n, Nat.mul_comm e d,
    Nat.mul_comm d m]
  exact units_ofQuotient_mono h (d * e)

theorem ofDecimal?_eq_ofQuotient {ds : List Digit} {e : Int} {x : Binary64}
    (h : ofDecimal? ds e = some x) :
    x = ofQuotient (Digit.value ds * 10 ^ e.toNat * 2 ^ 1074) (10 ^ (-e).toNat) := by
  rcases ofDecimal?_cases h with ⟨rfl, hsmall⟩ | hx
  · have hmantissa := (mantissa_ofQuotient_eq_zero_iff (Nat.pow_pos (by decide)) _).2
      ((le_half_iff _ _).2 hsmall)
    refine units_injective canonical_zero (ofQuotient_canonical _ _) ?_
    rw [units, units, hmantissa, zero, Nat.zero_mul, Nat.zero_mul]
  · exact hx

theorem numerators_le_iff {v w : Nat} {e f : Int} :
    v * 10 ^ e.toNat * 2 ^ 1074 * 10 ^ (-f).toNat ≤ w * 10 ^ f.toNat * 2 ^ 1074 * 10 ^ (-e).toNat ↔
      (v * 10 ^ e : ℚ) ≤ w * 10 ^ f := by
  have hpos : (0 : ℚ) < 2 ^ 1074 * 10 ^ (-e).toNat * 10 ^ (-f).toNat := by positivity
  rw [← mul_le_mul_iff_left₀ hpos, ← Nat.cast_le (α := ℚ)]
  simp only [Nat.cast_mul, Nat.cast_pow, Nat.cast_ofNat, pow_toNat e, pow_toNat f]
  generalize (2 : ℚ) ^ 1074 = unit
  ring_nf

/-- What lies between two decimals that are rounded to one magnitude is rounded to it as well. -/
theorem ofDecimal?_between {ds es fs : List Digit} {d e f : Int} {x : Binary64}
    (hlow : ofDecimal? ds d = some x) (hhigh : ofDecimal? fs f = some x)
    (hle : (Digit.value ds * 10 ^ d : ℚ) ≤ Digit.value es * 10 ^ e)
    (hge : (Digit.value es * 10 ^ e : ℚ) ≤ Digit.value fs * 10 ^ f) :
    ofDecimal? es e = some x := by
  cases hes : ofDecimal? es e with
  | none =>
    have hfar := (ofDecimal?_eq_none_iff es e).1 hes
    rw [(ofDecimal?_eq_none_iff fs f).2 (hfar.trans hge)] at hhigh
    cases hhigh
  | some y =>
    have hpos (k : Int) : 0 < 10 ^ (-k).toNat := Nat.pow_pos (by decide)
    have hbelow := units_le_units (hpos d) (hpos e) (numerators_le_iff.2 hle)
    have habove := units_le_units (hpos e) (hpos f) (numerators_le_iff.2 hge)
    rw [← ofDecimal?_eq_ofQuotient hes] at hbelow habove
    rw [← ofDecimal?_eq_ofQuotient hlow] at hbelow
    rw [← ofDecimal?_eq_ofQuotient hhigh] at habove
    rw [units_injective (ofDecimal?_canonical hlow).1 (ofDecimal?_canonical hes).1
      (le_antisymm hbelow habove)]

end WorkflowManifest.Binary64
