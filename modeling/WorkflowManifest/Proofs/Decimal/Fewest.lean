import WorkflowManifest.Proofs.Decimal.Monotone

namespace WorkflowManifest

namespace Decimal

def value (d : Decimal) : ℚ := Digit.value d.digits * 10 ^ (d.point - d.digits.length)

theorem value_ofNat (c : Nat) (e : Int) : (ofNat c e).value = c * 10 ^ e := by
  obtain ⟨k, hk⟩ := exists_zeros (Digit.ofNat c)
  have hvalue := congrArg Digit.value hk
  have hlen := congrArg List.length hk
  rw [Digit.value_ofNat, Digit.value_append_zeros] at hvalue
  rw [List.length_append, List.length_replicate] at hlen
  simp only [value, ofNat]
  generalize ((Digit.ofNat c).reverse.dropWhile (· = 0)).reverse = row at hvalue hlen ⊢
  rw [hlen, show ((row.length + k : Nat) : Int) + e - row.length = k + e by omega,
    zpow_add₀ (by norm_num), zpow_natCast, hvalue]
  push_cast
  ring

theorem length_digits_ofNat_le {c n : Nat} (hn : 0 < n) (hc : c ≤ 10 ^ n) (e : Int) :
    (ofNat c e).digits.length ≤ n := by
  rcases Nat.lt_or_eq_of_le hc with hlt | rfl
  · have hstrip : (ofNat c e).digits.length ≤ (Digit.ofNat c).length := by
      simpa [ofNat] using (List.dropWhile_suffix (l := (Digit.ofNat c).reverse) (· = 0)).length_le
    refine hstrip.trans ?_
    cases hrow : Digit.ofNat c with
    | nil => exact Nat.zero_le n
    | cons d ds =>
      have hne : c ≠ 0 := by
        rintro rfl
        simp at hrow
      obtain ⟨d', ds', hrow', hd⟩ := Digit.ofNat_ne_zero hne
      obtain ⟨rfl, rfl⟩ := List.cons.inj (hrow.symm.trans hrow')
      exact Digit.length_le_of_lt_pow hd (by rwa [← hrow, Digit.value_ofNat])
  · have hrow : Digit.ofNat (10 ^ n) = 1 :: List.replicate n 0 := by
      have hvalue : Digit.value (1 :: List.replicate n 0) = 10 ^ n := by
        rw [Digit.value_cons, Digit.value_zeros, List.length_replicate]
        simp
      rw [← hvalue, Digit.ofNat_value]
      rfl
    simpa [ofNat, hrow] using Nat.succ_le_of_lt hn

variable {x : Binary64} {a b c : Decimal}

theorem magnitude?_between (ha : a.magnitude? = some x) (hc : c.magnitude? = some x)
    (hab : a.value ≤ b.value) (hbc : b.value ≤ c.value) : b.magnitude? = some x :=
  Binary64.ofDecimal?_between ha hc hab hbc

end Decimal

namespace Binary64

/-- Reads back with the fewest digits, and no other of so many digits is nearer. -/
structure Shortest (x : Binary64) (d : Decimal) : Prop where
  readsBack : d.magnitude? = some x
  fewest : ∀ e : Decimal, e.magnitude? = some x → d.digits.length ≤ e.digits.length
  nearest : ∀ e : Decimal, e.magnitude? = some x → e.digits.length = d.digits.length →
    |d.value - x.value| ≤ |e.value - x.value|

def exactDecimal (x : Binary64) : Decimal := ⟨x.exactDigits, x.exactDigits.length - 1074⟩

theorem magnitude?_exactDecimal {x : Binary64} (hx : Canonical x) (hs : x.scale ≤ maxScale)
    (hm : x.mantissa ≠ 0) : x.exactDecimal.magnitude? = some x := by
  rw [Decimal.magnitude?, exactDecimal,
    show (x.exactDigits.length : Int) - 1074 - x.exactDigits.length = -1074 by omega]
  exact ofDecimal?_exact hx hs hm

theorem ten_zpow_mul_five_pow (n : Nat) : (10 : ℚ) ^ (-n : Int) * 5 ^ n = 2 ^ (-n : Int) := by
  rw [show (10 : ℚ) = 2 * 5 by norm_num, mul_zpow, mul_assoc, zpow_neg 5, zpow_natCast,
    inv_mul_cancel₀ (pow_ne_zero n (by norm_num)), mul_one]

theorem value_eq_exactDigits (x : Binary64) :
    x.value = Digit.value x.exactDigits * 10 ^ (-1074 : Int) := by
  have hten : (10 : ℚ) ^ (-1074 : Int) * 5 ^ 1074 = 2 ^ (-1074 : Int) :=
    ten_zpow_mul_five_pow 1074
  rw [value, unit, value_exactDigits, sub_eq_add_neg, zpow_add₀ (by norm_num), zpow_natCast,
    ← hten, Nat.cast_mul, Nat.cast_mul, Nat.cast_pow, Nat.cast_pow, Nat.cast_ofNat, Nat.cast_ofNat]
  generalize (5 : ℚ) ^ 1074 = fives
  ring

theorem value_exactDecimal (x : Binary64) : x.exactDecimal.value = x.value := by
  rw [value_eq_exactDigits, Decimal.value, exactDecimal,
    show (x.exactDigits.length : Int) - 1074 - x.exactDigits.length = -1074 by omega]

theorem onto_grid {g f : Int} (h : g ≤ f) (a : Nat) :
    ((a * 10 ^ (f - g).toNat : Nat) : ℚ) * 10 ^ g = a * 10 ^ f := by
  rw [Nat.cast_mul, Nat.cast_pow, Nat.cast_ofNat, mul_assoc, ← zpow_natCast,
    ← zpow_add₀ (by norm_num)]
  congr 2
  omega

section Grid

def gridExponent (x : Binary64) (n : Nat) : Int := x.exactDigits.length - 1074 - n

def below (x : Binary64) (n : Nat) : Decimal :=
  .ofNat (Digit.value (x.exactDigits.take n)) (x.gridExponent n)

def above (x : Binary64) (n : Nat) : Decimal :=
  .ofNat (Digit.value (x.exactDigits.take n) + 1) (x.gridExponent n)

variable {x : Binary64} {n : Nat}

theorem value_below (x : Binary64) (n : Nat) :
    (x.below n).value = Digit.value (x.exactDigits.take n) * 10 ^ x.gridExponent n :=
  Decimal.value_ofNat _ _

theorem value_above (x : Binary64) (n : Nat) :
    (x.above n).value = (Digit.value (x.exactDigits.take n) + 1) * 10 ^ x.gridExponent n := by
  rw [above, Decimal.value_ofNat, Nat.cast_add_one]

theorem sub_below (hn : n ≤ x.exactDigits.length) :
    x.value - (x.below n).value = Digit.value (x.exactDigits.drop n) * 10 ^ (-1074 : Int) ∧
      (x.above n).value - x.value =
        ((10 ^ (x.exactDigits.drop n).length : Nat) - Digit.value (x.exactDigits.drop n) : ℚ) *
          10 ^ (-1074 : Int) := by
  have hsplit : Digit.value x.exactDigits =
      Digit.value (x.exactDigits.take n) * 10 ^ (x.exactDigits.drop n).length +
        Digit.value (x.exactDigits.drop n) := by
    rw [← Digit.value_append, List.take_append_drop]
  have hstep : (10 : ℚ) ^ x.gridExponent n =
      (10 ^ (x.exactDigits.drop n).length : Nat) * 10 ^ (-1074 : Int) := by
    rw [Nat.cast_pow, Nat.cast_ofNat, ← zpow_natCast, ← zpow_add₀ (by norm_num), gridExponent,
      List.length_drop]
    congr 1
    omega
  rw [value_below, value_above, value_eq_exactDigits, hsplit, hstep]
  push_cast
  constructor <;> ring

theorem below_le (hn : n ≤ x.exactDigits.length) : (x.below n).value ≤ x.value := by
  rw [← sub_nonneg, (sub_below hn).1]
  exact mul_nonneg (Nat.cast_nonneg _) (zpow_nonneg (by norm_num) _)

theorem lt_above (hn : n ≤ x.exactDigits.length) : x.value < (x.above n).value := by
  rw [← sub_pos, (sub_below hn).2]
  have hlt := Digit.value_lt (x.exactDigits.drop n)
  exact mul_pos (sub_pos.2 (by exact_mod_cast hlt)) (zpow_pos (by norm_num) _)

/-- No decimal of `n` digits lies between the two of the grid, as a finer one is less than the first
digit of the magnitude. -/
theorem outside (hm : x.mantissa ≠ 0) (hpos : 0 < n) (hn : n ≤ x.exactDigits.length)
    {d : Decimal} (hd : d.digits.length ≤ n) :
    d.value ≤ (x.below n).value ∨ (x.above n).value ≤ d.value := by
  have hlt : Digit.value d.digits < 10 ^ n :=
    (Digit.value_lt d.digits).trans_le (Nat.pow_le_pow_right (by decide) hd)
  rw [value_below, value_above, Decimal.value]
  generalize Digit.value d.digits = v at hlt ⊢
  generalize d.point - d.digits.length = e
  have hstep (k : Int) : (0 : ℚ) < 10 ^ k := zpow_pos (by norm_num) k
  by_cases hfine : e < x.gridExponent n
  · left
    obtain ⟨k, rfl⟩ : ∃ k, n = k + 1 := ⟨n - 1, by omega⟩
    obtain ⟨first, rest, hrow, hfirst⟩ := exactDigits_ne_zero hm
    have hlead : 10 ^ k ≤ Digit.value (x.exactDigits.take (k + 1)) := by
      have hlength : (rest.take k).length = k := by
        rw [hrow, List.length_cons] at hn
        exact List.length_take_of_le (Nat.le_of_succ_le_succ hn)
      have hle := Digit.le_value hfirst (rest.take k)
      rwa [hlength, ← List.take_succ_cons, ← hrow] at hle
    calc
      (v * 10 ^ e : ℚ) ≤ 10 ^ (k + 1) * 10 ^ (x.gridExponent (k + 1) - 1) :=
        mul_le_mul (by exact_mod_cast hlt.le) (zpow_le_zpow_right₀ (by norm_num) (by omega))
          (hstep e).le (by positivity)
      _ = 10 ^ k * 10 ^ x.gridExponent (k + 1) := by
        rw [← zpow_natCast, ← zpow_natCast, ← zpow_add₀ (by norm_num), ← zpow_add₀ (by norm_num)]
        congr 1
        push_cast
        ring
      _ ≤ Digit.value (x.exactDigits.take (k + 1)) * 10 ^ x.gridExponent (k + 1) :=
        mul_le_mul_of_nonneg_right (by exact_mod_cast hlead) (hstep _).le
  · rw [← onto_grid (Int.not_lt.1 hfine)]
    rcases Nat.lt_or_ge (Digit.value (x.exactDigits.take n))
      (v * 10 ^ (e - x.gridExponent n).toNat) with h | h
    · right
      exact mul_le_mul_of_nonneg_right (by exact_mod_cast h) (hstep _).le
    · left
      exact mul_le_mul_of_nonneg_right (by exact_mod_cast h) (hstep _).le

theorem neighbour_reads_back (hx : Canonical x) (hs : x.scale ≤ maxScale) (hm : x.mantissa ≠ 0)
    (hpos : 0 < n) (hn : n ≤ x.exactDigits.length) {d : Decimal} (hback : d.magnitude? = some x)
    (hd : d.digits.length ≤ n) :
    ((x.below n).magnitude? = some x ∧ |(x.below n).value - x.value| ≤ |d.value - x.value|) ∨
      ((x.above n).magnitude? = some x ∧ |(x.above n).value - x.value| ≤ |d.value - x.value|) := by
  have hexact := magnitude?_exactDecimal hx hs hm
  have hbelow := below_le hn
  have habove := lt_above hn
  -- The decimal is on one side of both neighbours, and the nearer of them lies in between.
  rcases outside hm hpos hn hd with h | h
  · left
    refine ⟨Decimal.magnitude?_between hback hexact h (by rwa [value_exactDecimal]), ?_⟩
    rw [abs_of_nonpos (sub_nonpos.2 hbelow), abs_of_nonpos (sub_nonpos.2 (h.trans hbelow))]
    linarith
  · right
    refine ⟨Decimal.magnitude?_between hexact hback (by rw [value_exactDecimal]; exact habove.le) h,
      ?_⟩
    rw [abs_of_pos (sub_pos.2 habove), abs_of_pos (sub_pos.2 (habove.trans_le h))]
    linarith

theorem neighbours_cases (tie : Tie) (hn : n ≤ x.exactDigits.length) :
    (neighbours tie x.exactDigits n = [x.below n, x.above n] ∧
        |(x.below n).value - x.value| ≤ |(x.above n).value - x.value|) ∨
      (neighbours tie x.exactDigits n = [x.above n, x.below n] ∧
        |(x.above n).value - x.value| ≤ |(x.below n).value - x.value|) := by
  obtain ⟨hlow, hhigh⟩ := sub_below hn
  have hscale : (0 : ℚ) < 10 ^ (-1074 : Int) := zpow_pos (by norm_num) _
  rw [abs_sub_comm, abs_of_nonneg (sub_nonneg.2 (below_le hn)), hlow,
    abs_of_pos (sub_pos.2 (lt_above hn)), hhigh]
  simp only [mul_le_mul_iff_left₀ hscale, neighbours]
  split
  next h =>
    refine .inl ⟨rfl, ?_⟩
    have hle : Digit.value (x.exactDigits.drop n) + Digit.value (x.exactDigits.drop n) ≤
        10 ^ (x.exactDigits.drop n).length := by omega
    rw [le_sub_iff_add_le]
    exact_mod_cast hle
  next h =>
    refine .inr ⟨rfl, ?_⟩
    have hge : 10 ^ (x.exactDigits.drop n).length ≤
        Digit.value (x.exactDigits.drop n) + Digit.value (x.exactDigits.drop n) := by omega
    rw [sub_le_iff_le_add]
    exact_mod_cast hge

end Grid

section Search

theorem exists_of_findSome?_range {β : Type} {f : Nat → Option β} {n : Nat} {b : β}
    (h : (List.range n).findSome? f = some b) :
    ∃ k < n, f k = some b ∧ ∀ j < k, f j = none := by
  obtain ⟨before, k, after, hrange, hk, hbefore⟩ := List.findSome?_eq_some_iff.1 h
  rw [List.range_eq_range'] at hrange
  obtain ⟨m, hm, rfl, hrest⟩ := List.range'_eq_append_iff.1 hrange
  obtain ⟨r, hr⟩ : ∃ r, n - m = r + 1 := by
    refine ⟨n - m - 1, Nat.eq_add_of_sub_eq (Nat.one_le_iff_ne_zero.2 fun h0 => ?_) rfl⟩
    rw [h0] at hrest
    cases hrest
  rw [hr, List.range'_succ, List.cons.injEq] at hrest
  obtain ⟨rfl, -⟩ := hrest
  refine ⟨_, by omega, hk, fun j hj => hbefore j (List.mem_range'_1.2 (by omega))⟩

variable {x : Binary64} {n : Nat}

/-- Of two decimals, the nearer first, the one that is found is the nearest that reads back. -/
theorem nearest_of_pair {a b d : Decimal} (hle : |a.value - x.value| ≤ |b.value - x.value|)
    (h : (a.magnitude? = some x ∧ |a.value - x.value| ≤ |d.value - x.value|) ∨
      (b.magnitude? = some x ∧ |b.value - x.value| ≤ |d.value - x.value|)) :
    ∃ e ∈ [a, b].find? x.readsBack, |e.value - x.value| ≤ |d.value - x.value| := by
  by_cases ha : a.magnitude? = some x
  · refine ⟨a, List.find?_cons_of_pos (readsBack_iff.2 ha), ?_⟩
    rcases h with ⟨-, hd⟩ | ⟨-, hd⟩
    · exact hd
    · exact hle.trans hd
  · obtain ⟨hb, hd⟩ := h.resolve_left fun h => ha h.1
    refine ⟨b, ?_, hd⟩
    rw [List.find?_cons_of_neg (mt readsBack_iff.1 ha), List.find?_cons_of_pos (readsBack_iff.2 hb)]
    rfl

theorem nearest_of_find? (hx : Canonical x) (hs : x.scale ≤ maxScale) (hm : x.mantissa ≠ 0)
    (hpos : 0 < n) (hn : n ≤ x.exactDigits.length) {tie : Tie} {f : Option Decimal}
    (hf : (neighbours tie x.exactDigits n).find? x.readsBack = f) {d : Decimal}
    (hback : d.magnitude? = some x) (hd : d.digits.length ≤ n) :
    ∃ e ∈ f, |e.value - x.value| ≤ |d.value - x.value| := by
  have hside := neighbour_reads_back hx hs hm hpos hn hback hd
  subst hf
  rcases neighbours_cases tie hn with ⟨hpair, hle⟩ | ⟨hpair, hle⟩
  · rw [hpair]
    exact nearest_of_pair hle hside
  · rw [hpair]
    exact nearest_of_pair hle hside.symm

theorem length_of_mem_neighbours {tie : Tie} (hpos : 0 < n) (hn : n ≤ x.exactDigits.length)
    {d : Decimal} (hd : d ∈ neighbours tie x.exactDigits n) : d.digits.length ≤ n := by
  have hlt : Digit.value (x.exactDigits.take n) < 10 ^ n := by
    simpa [List.length_take_of_le hn] using Digit.value_lt (x.exactDigits.take n)
  have hpair : d = x.below n ∨ d = x.above n := by
    rcases neighbours_cases tie hn with ⟨hpair, -⟩ | ⟨hpair, -⟩
    · simpa [hpair] using hd
    · simpa [hpair, or_comm] using hd
  rcases hpair with rfl | rfl
  · exact Decimal.length_digits_ofNat_le hpos hlt.le _
  · exact Decimal.length_digits_ofNat_le hpos hlt _

theorem digits_ne_nil {d : Decimal} (hm : x.mantissa ≠ 0) (hback : d.magnitude? = some x) :
    0 < d.digits.length := by
  rw [List.length_pos_iff]
  intro hnil
  rw [Decimal.magnitude?, hnil] at hback
  exact hm (Option.some.inj hback ▸ rfl)

theorem shortest_of_found? (hx : Canonical x) (hs : x.scale ≤ maxScale) (hm : x.mantissa ≠ 0)
    {tie : Tie} {f : Decimal} (hf : x.found? tie = some f) : x.Shortest f := by
  obtain ⟨k, hk, hfind, hbefore⟩ := exists_of_findSome?_range hf
  have hlength := length_of_mem_neighbours k.succ_pos hk (List.mem_of_find?_eq_some hfind)
  refine ⟨readsBack_iff.1 (List.find?_some hfind), fun e he => ?_,
    fun e he hsame => ?_⟩
  · by_contra hlt
    obtain ⟨j, hj⟩ : ∃ j, e.digits.length = j + 1 :=
      ⟨e.digits.length - 1, by have := digits_ne_nil hm he; omega⟩
    obtain ⟨e', he', -⟩ :=
      nearest_of_find? hx hs hm j.succ_pos (by omega) (hbefore j (by omega)) he (by omega)
    cases he'
  · obtain ⟨e', he', hle⟩ :=
      nearest_of_find? hx hs hm k.succ_pos hk hfind he (hsame.trans_le hlength)
    cases he'
    exact hle

theorem shortestBy_shortest (tie : Tie) (hx : Canonical x) (hs : x.scale ≤ maxScale)
    (hm : x.mantissa ≠ 0) : x.Shortest (x.shortestBy tie) := by
  -- The search does not fail, as the magnitude itself is among the decimals of all digits.
  have hexact := magnitude?_exactDecimal hx hs hm
  have hpos := digits_ne_nil hm hexact
  cases h : x.found? tie with
  | some f =>
    rw [shortestBy, h]
    exact shortest_of_found? hx hs hm h
  | none =>
    obtain ⟨k, hk⟩ : ∃ k, x.exactDigits.length = k + 1 :=
      ⟨x.exactDigits.length - 1, (Nat.sub_add_cancel hpos).symm⟩
    rw [found?, List.findSome?_eq_none_iff] at h
    obtain ⟨e, he, -⟩ := nearest_of_find? hx hs hm k.succ_pos hk.ge
      (h k (List.mem_range.2 (by omega))) hexact hk.le
    cases he

end Search

end Binary64

end WorkflowManifest
