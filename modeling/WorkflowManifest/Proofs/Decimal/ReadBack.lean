import WorkflowManifest.Decimal.Shortest
import WorkflowManifest.Proofs.Decimal.Digits
import Mathlib.Data.List.TakeWhile

namespace WorkflowManifest

namespace Binary64

theorem roundQuotient_mul {k : Nat} (hk : 0 < k) (n d : Nat) :
    roundQuotient (k * n) (k * d) = roundQuotient n d := by
  have hless : 2 * (k * (n % d)) < k * d ↔ 2 * (n % d) < d := by
    rw [Nat.mul_left_comm]
    exact Nat.mul_lt_mul_left hk
  have hmore : k * d < 2 * (k * (n % d)) ↔ d < 2 * (n % d) := by
    rw [Nat.mul_left_comm]
    exact Nat.mul_lt_mul_left hk
  simp only [roundQuotient, Nat.mul_mod_mul_left, Nat.mul_div_mul_left _ _ hk, hless, hmore]

theorem ofQuotient_mul {k : Nat} (hk : 0 < k) (n d : Nat) :
    ofQuotient (k * n) (k * d) = ofQuotient n d := by
  simp only [ofQuotient, Nat.mul_div_mul_left _ _ hk, Nat.mul_assoc, roundQuotient_mul hk]

theorem le_roundQuotient (n d : Nat) : n / d ≤ roundQuotient n d := by
  unfold roundQuotient
  split
  · exact Nat.le_refl _
  · split <;> omega

theorem roundQuotient_le (n d : Nat) : roundQuotient n d ≤ n / d + 1 := by
  unfold roundQuotient
  split
  · exact Nat.le_succ _
  · split <;> omega

theorem roundQuotient_exact {d : Nat} (hd : 0 < d) (m : Nat) : roundQuotient (d * m) d = m := by
  simp [roundQuotient, Nat.mul_div_cancel_left m hd, hd]

/-- As many bits as a mantissa has, but for small magnitudes. -/
structure Canonical (x : Binary64) : Prop where
  below : x.mantissa < 2 ^ 53
  full : x.scale = 0 ∨ 2 ^ 52 ≤ x.mantissa

theorem canonical_zero : Canonical zero := ⟨by decide, .inl rfl⟩

theorem scaled_lt (n d : Nat) : n / (d * 2 ^ (Nat.log2 (n / d) - 52)) < 2 ^ 53 := by
  rw [← Nat.div_div_eq_div_mul, Nat.div_lt_iff_lt_mul (Nat.two_pow_pos _), ← Nat.pow_add]
  exact Nat.lt_of_lt_of_le Nat.lt_log2_self (Nat.pow_le_pow_right (by decide) (by omega))

theorem ofQuotient_canonical (n d : Nat) : Canonical (ofQuotient n d) := by
  have hbelow := scaled_lt n d
  have hle := roundQuotient_le n (d * 2 ^ (Nat.log2 (n / d) - 52))
  simp only [ofQuotient]
  split
  next => exact ⟨Nat.pow_lt_pow_right (by decide) (by decide), .inr (Nat.le_refl _)⟩
  next hne =>
    refine ⟨by dsimp only; omega, ?_⟩
    by_cases hs : Nat.log2 (n / d) - 52 = 0
    · exact .inl hs
    · refine .inr (Nat.le_trans ?_ (le_roundQuotient _ _))
      have hq : n / d ≠ 0 := by
        intro h
        rw [h] at hs
        exact hs (by decide)
      rw [← Nat.div_div_eq_div_mul, Nat.le_div_iff_mul_le (Nat.two_pow_pos _), ← Nat.pow_add]
      exact Nat.le_trans (Nat.pow_le_pow_right (by decide) (by omega)) (Nat.log2_self_le hq)

theorem ofQuotient_exact {x : Binary64} (hx : Canonical x) {d : Nat} (hd : 0 < d) :
    ofQuotient (d * (x.mantissa * 2 ^ x.scale)) d = x := by
  have hscale : Nat.log2 (x.mantissa * 2 ^ x.scale) - 52 = x.scale := by
    by_cases hm : x.mantissa = 0
    · rcases hx.full with hs | hs
      · simp [hm, hs]
      · omega
    · have hne : x.mantissa * 2 ^ x.scale ≠ 0 := by simp [hm]
      have hlt : Nat.log2 (x.mantissa * 2 ^ x.scale) < 53 + x.scale := by
        rw [Nat.log2_lt hne, Nat.pow_add]
        exact Nat.mul_lt_mul_of_pos_right hx.below (Nat.two_pow_pos _)
      rcases hx.full with hs | hs
      · omega
      · have hle : 52 + x.scale ≤ Nat.log2 (x.mantissa * 2 ^ x.scale) := by
          rw [Nat.le_log2 hne, Nat.pow_add]
          exact Nat.mul_le_mul_right _ hs
        omega
  have hround : roundQuotient (d * (x.mantissa * 2 ^ x.scale)) (d * 2 ^ x.scale) = x.mantissa := by
    rw [roundQuotient_mul hd, Nat.mul_comm]
    exact roundQuotient_exact (Nat.two_pow_pos _) _
  have hne : x.mantissa ≠ 2 ^ 53 := Nat.ne_of_lt hx.below
  simp only [ofQuotient, Nat.mul_div_cancel_left _ hd, hscale, hround, if_neg hne]

theorem ofDecimal?_zero_cons (ds : List Digit) (e : Int) :
    ofDecimal? (0 :: ds) e = ofDecimal? ds e := by
  unfold ofDecimal?
  rw [List.dropWhile_cons_of_pos (by simp)]

theorem ofDecimal?_zeros_append (k : Nat) (ds : List Digit) (e : Int) :
    ofDecimal? (List.replicate k 0 ++ ds) e = ofDecimal? ds e := by
  induction k with
  | zero => rfl
  | succ k ih => rw [List.replicate_succ, List.cons_append, ofDecimal?_zero_cons, ih]

theorem ofDecimal?_of_ne_zero {d : Digit} (hd : d ≠ 0) (ds : List Digit) (e : Int) :
    ofDecimal? (d :: ds) e =
      if 310 < (d :: ds).length + e then none
      else if (d :: ds).length + e < -330 then some zero
      else
        let x := ofQuotient (Digit.value (d :: ds) * 10 ^ e.toNat * 2 ^ 1074) (10 ^ (-e).toNat)
        if x.scale ≤ maxScale then some x else none := by
  have hrow : (d :: ds).dropWhile (fun d => decide (d = 0)) = d :: ds :=
    List.dropWhile_cons_of_neg (by simpa using hd)
  simp only [ofDecimal?, hrow]

theorem ofQuotient_shift (v unit : Nat) (e : Int) :
    ofQuotient (v * 10 * 10 ^ (e - 1).toNat * unit) (10 ^ (-(e - 1)).toNat) =
      ofQuotient (v * 10 ^ e.toNat * unit) (10 ^ (-e).toNat) := by
  by_cases he : 1 ≤ e
  · obtain ⟨k, rfl⟩ : ∃ k : Nat, e = k + 1 := ⟨(e - 1).toNat, by omega⟩
    have h1 : ((k : Int) + 1 - 1).toNat = k := by omega
    have h2 : (-((k : Int) + 1 - 1)).toNat = 0 := by omega
    have h3 : ((k : Int) + 1).toNat = k + 1 := by omega
    have h4 : (-((k : Int) + 1)).toNat = 0 := by omega
    rw [h1, h2, h3, h4, Nat.pow_succ]
    congr 1
    ring
  · have h1 : (e - 1).toNat = 0 := by omega
    have h2 : (-(e - 1)).toNat = (-e).toNat + 1 := by omega
    have h3 : e.toNat = 0 := by omega
    rw [h1, h2, h3, Nat.pow_succ, ← ofQuotient_mul (k := 10) (by decide) (v * 10 ^ 0 * unit)]
    congr 1 <;> ring

theorem ofDecimal?_append_zero (ds : List Digit) (e : Int) :
    ofDecimal? (ds ++ [0]) (e - 1) = ofDecimal? ds e := by
  induction ds with
  | nil => exact ofDecimal?_zero_cons [] _
  | cons d ds ih =>
    by_cases hd : d = 0
    · subst hd
      rw [List.cons_append, ofDecimal?_zero_cons, ofDecimal?_zero_cons, ih]
    · have htop : ((d :: (ds ++ [0])).length : Int) + (e - 1) = (d :: ds).length + e := by
        simp only [List.length_cons, List.length_append, List.length_nil]
        omega
      have hvalue : Digit.value (d :: (ds ++ [0])) = Digit.value (d :: ds) * 10 := by
        rw [← List.cons_append, Digit.value_append_singleton]
        simp [Nat.mul_comm]
      rw [List.cons_append, ofDecimal?_of_ne_zero hd, ofDecimal?_of_ne_zero hd, htop, hvalue]
      simp only [ofQuotient_shift]

theorem ofDecimal?_append_zeros (k : Nat) (ds : List Digit) (e : Int) :
    ofDecimal? (ds ++ List.replicate k 0) (e - k) = ofDecimal? ds e := by
  induction k with
  | zero => simp
  | succ k ih =>
    rw [List.replicate_succ', ← List.append_assoc,
      show e - ((k + 1 : Nat) : Int) = e - k - 1 by omega, ofDecimal?_append_zero, ih]

theorem ofDecimal?_canonical {ds : List Digit} {e : Int} {x : Binary64}
    (h : ofDecimal? ds e = some x) : Canonical x ∧ x.scale ≤ maxScale := by
  have hz : Canonical zero ∧ zero.scale ≤ maxScale := ⟨canonical_zero, by decide⟩
  unfold ofDecimal? at h
  split at h
  next => exact Option.some.inj h ▸ hz
  next =>
    simp only at h
    split at h
    next => simp at h
    next =>
      split at h
      next => exact Option.some.inj h ▸ hz
      next =>
        split at h
        next hs => exact Option.some.inj h ▸ ⟨ofQuotient_canonical _ _, hs⟩
        next => simp at h

theorem exact_row_bounds {x : Binary64} (hx : Canonical x) (hs : x.scale ≤ maxScale)
    (hm : x.mantissa ≠ 0) : 10 ^ 743 < x.mantissa * 2 ^ x.scale * 5 ^ 1074 ∧
      x.mantissa * 2 ^ x.scale * 5 ^ 1074 < 10 ^ 1383 := by
  have hlow : 10 ^ 743 < 5 ^ 1074 := by decide +kernel
  have hhigh : 2 ^ 53 * 2 ^ maxScale * 5 ^ 1074 < 10 ^ 1383 := by decide +kernel
  generalize 5 ^ 1074 = unit at hlow hhigh ⊢
  generalize 10 ^ 743 = low at hlow ⊢
  generalize 10 ^ 1383 = high at hhigh ⊢
  have hpow : 2 ^ x.scale ≤ 2 ^ maxScale := Nat.pow_le_pow_right (by decide) hs
  constructor
  · have hpos : 1 ≤ x.mantissa * 2 ^ x.scale :=
      Nat.mul_pos (Nat.pos_of_ne_zero hm) (Nat.two_pow_pos _)
    exact Nat.lt_of_lt_of_le hlow (Nat.le_mul_of_pos_left _ hpos)
  · exact Nat.lt_of_le_of_lt
      (Nat.mul_le_mul_right _ (Nat.mul_le_mul (Nat.le_of_lt hx.below) hpow)) hhigh

theorem value_exactDigits (x : Binary64) :
    Digit.value x.exactDigits = x.mantissa * 2 ^ x.scale * 5 ^ 1074 := by
  exact Digit.value_ofNat (x.mantissa * 2 ^ x.scale * 5 ^ 1074)

theorem exactDigits_ne_zero {x : Binary64} (hm : x.mantissa ≠ 0) :
    ∃ d ds, x.exactDigits = d :: ds ∧ d ≠ 0 := by
  have hfive : 5 ^ 1074 ≠ 0 := by decide +kernel
  have hpow : 2 ^ x.scale ≠ 0 := Nat.ne_of_gt (Nat.two_pow_pos _)
  exact Digit.ofNat_ne_zero (Nat.mul_ne_zero (Nat.mul_ne_zero hm hpow) hfive)

theorem exactDigits_length {x : Binary64} (hx : Canonical x) (hs : x.scale ≤ maxScale)
    (hm : x.mantissa ≠ 0) : 743 < x.exactDigits.length ∧ x.exactDigits.length ≤ 1383 := by
  obtain ⟨hlow, hhigh⟩ := exact_row_bounds hx hs hm
  obtain ⟨d, ds, hds, hd⟩ := exactDigits_ne_zero hm
  rw [← value_exactDigits] at hlow hhigh
  refine ⟨Digit.lt_length_of_pow_lt hlow, ?_⟩
  rw [hds] at hhigh ⊢
  exact Digit.length_le_of_lt_pow hd hhigh

theorem exact_quotient (k : Nat) : k * 5 ^ 1074 * 10 ^ 0 * 2 ^ 1074 = 10 ^ 1074 * k := by
  have hten : 10 ^ 1074 = 5 ^ 1074 * 2 ^ 1074 := by decide +kernel
  rw [hten]
  generalize 5 ^ 1074 = a
  generalize 2 ^ 1074 = b
  ring

theorem ofDecimal?_exact {x : Binary64} (hx : Canonical x) (hs : x.scale ≤ maxScale)
    (hm : x.mantissa ≠ 0) : ofDecimal? x.exactDigits (-1074) = some x := by
  obtain ⟨hlong, hshort⟩ := exactDigits_length hx hs hm
  obtain ⟨d, ds, hds, hd⟩ := exactDigits_ne_zero hm
  have hvalue := value_exactDigits x
  rw [hds] at hlong hshort hvalue ⊢
  have hlow : ¬ 310 < ((d :: ds).length : Int) + -1074 := by clear hvalue; omega
  have hhigh : ¬ ((d :: ds).length : Int) + -1074 < -330 := by clear hvalue; omega
  have hzero : (-1074 : Int).toNat = 0 := rfl
  have hpower : (- -1074 : Int).toNat = 1074 := rfl
  have hpos : 0 < 10 ^ 1074 := by decide +kernel
  rw [ofDecimal?_of_ne_zero hd, if_neg hlow, if_neg hhigh, hvalue, hzero, hpower, exact_quotient,
    ofQuotient_exact hx hpos]
  exact if_pos hs

end Binary64

namespace Decimal

theorem exists_zeros (ds : List Digit) :
    ∃ k, ds = (ds.reverse.dropWhile (· = 0)).reverse ++ List.replicate k 0 := by
  refine ⟨(ds.reverse.takeWhile (· = 0)).length, ?_⟩
  have hzeros : (ds.reverse.takeWhile (· = 0)).reverse =
      List.replicate (ds.reverse.takeWhile (· = 0)).length 0 := by
    rw [List.eq_replicate_iff]
    refine ⟨List.length_reverse, fun d hd => ?_⟩
    simpa using List.mem_takeWhile_imp (List.mem_reverse.1 hd)
  rw [← hzeros, ← List.reverse_append, List.takeWhile_append_dropWhile, List.reverse_reverse]

theorem magnitude?_ofNat (c : Nat) (e : Int) :
    (ofNat c e).magnitude? = Binary64.ofDecimal? (Digit.ofNat c) e := by
  obtain ⟨k, hk⟩ := exists_zeros (Digit.ofNat c)
  have hlen := congrArg List.length hk
  rw [List.length_append, List.length_replicate] at hlen
  rw [magnitude?, ← Binary64.ofDecimal?_append_zeros k]
  simp only [ofNat]
  rw [← hk]
  congr 1
  omega

theorem digits_ofNat {c : Nat} (hc : c ≠ 0) (e : Int) :
    ∃ d ds, (ofNat c e).digits = d :: ds ∧ d ≠ 0 := by
  obtain ⟨d, ds, hds, hd⟩ := Digit.ofNat_ne_zero hc
  obtain ⟨k, hk⟩ := exists_zeros (Digit.ofNat c)
  cases hrow : ((Digit.ofNat c).reverse.dropWhile (· = 0)).reverse with
  | nil =>
    rw [hrow, hds, List.nil_append] at hk
    exact absurd (List.eq_of_mem_replicate (hk ▸ List.mem_cons_self)) hd
  | cons d' ds' =>
    rw [hrow, hds, List.cons_append, List.cons.injEq] at hk
    exact ⟨d', ds', hrow, hk.1 ▸ hd⟩

theorem magnitude?_zero (e : Int) : (ofNat 0 e).magnitude? = some Binary64.zero := by
  rw [magnitude?_ofNat, Digit.ofNat_zero]
  rfl

end Decimal

namespace Binary64

theorem mem_pair {c : Nat} {e : Int} {d : Decimal}
    (h : d ∈ [Decimal.ofNat c e, Decimal.ofNat (c + 1) e]) : ∃ c, d = Decimal.ofNat c e := by
  rw [List.mem_cons, List.mem_singleton] at h
  rcases h with h | h
  · exact ⟨c, h⟩
  · exact ⟨c + 1, h⟩

theorem mem_neighbours {tie : Tie} {ds : List Digit} {n : Nat} {d : Decimal}
    (h : d ∈ neighbours tie ds n) :
    ∃ c, d = Decimal.ofNat c (ds.length - 1074 - n) := by
  simp only [neighbours] at h
  split at h
  · exact mem_pair h
  · exact mem_pair (List.mem_reverse.1 h)

theorem readsBack_iff {x : Binary64} {d : Decimal} :
    x.readsBack d = true ↔ d.magnitude? = some x :=
  decide_eq_true_iff

theorem found?_reads_back {tie : Tie} {x : Binary64} {d : Decimal} (h : x.found? tie = some d) :
    ∃ c e, d = Decimal.ofNat c e ∧ (Decimal.ofNat c e).magnitude? = some x := by
  rw [found?] at h
  obtain ⟨n, -, hn⟩ := List.exists_of_findSome?_eq_some h
  obtain ⟨c, rfl⟩ := mem_neighbours (List.mem_of_find?_eq_some hn)
  exact ⟨c, _, rfl, readsBack_iff.1 (List.find?_some hn)⟩

theorem ofNat_value_exactDigits (x : Binary64) :
    Digit.ofNat (Digit.value x.exactDigits) = x.exactDigits := by
  rw [exactDigits, Digit.value_ofNat]

theorem shortest_reads_back {x : Binary64} (hx : Canonical x) (hs : x.scale ≤ maxScale)
    (hm : x.mantissa ≠ 0) :
    ∃ c e, x.shortest = Decimal.ofNat c e ∧ (Decimal.ofNat c e).magnitude? = some x := by
  cases h : x.found? .even with
  | some d =>
    obtain ⟨c, e, rfl, hback⟩ := found?_reads_back h
    exact ⟨c, e, by rw [shortest, shortestBy, h, Option.getD_some], hback⟩
  | none =>
    refine ⟨_, _, by rw [shortest, shortestBy, h, Option.getD_none], ?_⟩
    rw [Decimal.magnitude?_ofNat, ofNat_value_exactDigits, ofDecimal?_exact hx hs hm]

theorem digits_shortest {x : Binary64} (hx : Canonical x) (hs : x.scale ≤ maxScale)
    (hm : x.mantissa ≠ 0) : ∃ d ds, x.shortest.digits = d :: ds ∧ d ≠ 0 := by
  obtain ⟨c, e, hshort, hback⟩ := shortest_reads_back hx hs hm
  rw [hshort]
  apply Decimal.digits_ofNat
  rintro rfl
  rw [Decimal.magnitude?_zero] at hback
  exact hm (Option.some.inj hback ▸ rfl)

theorem magnitude?_shortest {x : Binary64} (hx : Canonical x) (hs : x.scale ≤ maxScale)
    (hm : x.mantissa ≠ 0) : x.shortest.magnitude? = some x := by
  obtain ⟨c, e, hshort, hback⟩ := shortest_reads_back hx hs hm
  rw [hshort, hback]

end Binary64

end WorkflowManifest
