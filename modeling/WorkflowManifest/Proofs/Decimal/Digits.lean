import WorkflowManifest.Decimal.Digit
import Mathlib.Data.List.Induction
import Mathlib.Tactic.Ring

namespace WorkflowManifest.Digit

theorem value_append_singleton (ds : List Digit) (d : Digit) :
    value (ds ++ [d]) = 10 * value ds + d.val := by
  simp [value, List.foldl_append]

theorem value_append (ds es : List Digit) :
    value (ds ++ es) = value ds * 10 ^ es.length + value es := by
  induction es using List.reverseRecOn with
  | nil => simp [value]
  | append_singleton es e ih =>
    rw [← List.append_assoc, value_append_singleton, ih, value_append_singleton, List.length_append,
      List.length_singleton, Nat.pow_succ]
    ring

theorem value_cons (d : Digit) (ds : List Digit) :
    value (d :: ds) = d.val * 10 ^ ds.length + value ds := by
  have h := value_append [d] ds
  simpa [value] using h

@[simp] theorem value_zeros (k : Nat) : value (List.replicate k 0) = 0 := by
  induction k with
  | zero => rfl
  | succ k ih =>
    rw [List.replicate_succ, value_cons, ih]
    simp

theorem value_append_zeros (ds : List Digit) (k : Nat) :
    value (ds ++ List.replicate k 0) = value ds * 10 ^ k := by
  rw [value_append, value_zeros, List.length_replicate, Nat.add_zero]

theorem value_zeros_append (k : Nat) (ds : List Digit) :
    value (List.replicate k 0 ++ ds) = value ds := by
  rw [value_append, value_zeros, Nat.zero_mul, Nat.zero_add]

theorem value_lt (ds : List Digit) : value ds < 10 ^ ds.length := by
  induction ds with
  | nil => simp [value]
  | cons d ds ih =>
    rw [value_cons, List.length_cons, Nat.pow_succ]
    have hd : d.val * 10 ^ ds.length ≤ 9 * 10 ^ ds.length := Nat.mul_le_mul_right _ (by omega)
    omega

theorem le_value {d : Digit} (hd : d ≠ 0) (ds : List Digit) :
    10 ^ ds.length ≤ value (d :: ds) := by
  have hpos : 1 ≤ d.val := Nat.one_le_iff_ne_zero.2 fun h => hd (Fin.ext h)
  rw [value_cons]
  exact (Nat.le_mul_of_pos_left _ hpos).trans (Nat.le_add_right _ _)

theorem lt_length_of_pow_lt {k : Nat} {ds : List Digit} (h : 10 ^ k < value ds) :
    k < ds.length := by
  by_contra hk
  have hpow := Nat.pow_le_pow_right (n := 10) (by decide) (Nat.le_of_not_lt hk)
  exact Nat.lt_irrefl _ (Nat.lt_of_lt_of_le (Nat.lt_trans h (value_lt ds)) hpow)

theorem length_le_of_lt_pow {k : Nat} {d : Digit} (hd : d ≠ 0) {ds : List Digit}
    (h : value (d :: ds) < 10 ^ k) : (d :: ds).length ≤ k := by
  by_contra hk
  have hpow := Nat.pow_le_pow_right (n := 10) (by decide)
    (Nat.le_of_lt_succ (Nat.lt_of_not_le hk))
  exact Nat.lt_irrefl _ (Nat.lt_of_le_of_lt (hpow.trans (le_value hd ds)) h)

theorem value_prepend (n : Nat) (ds : List Digit) :
    value (prepend n ds) = n * 10 ^ ds.length + value ds := by
  induction n, ds using prepend.induct with
  | case1 ds => simp [prepend]
  | case2 n ds hn ih =>
    rw [prepend, if_neg hn, ih, value_cons, List.length_cons, Nat.pow_succ]
    have := Nat.div_add_mod n 10
    calc
      n / 10 * (10 ^ ds.length * 10) + (n % 10 * 10 ^ ds.length + value ds) =
          (10 * (n / 10) + n % 10) * 10 ^ ds.length + value ds := by ring
      _ = n * 10 ^ ds.length + value ds := by rw [this]

@[simp] theorem value_ofNat (n : Nat) : value (ofNat n) = n := by
  rw [ofNat, value_prepend]
  simp [value]

theorem head_prepend_ne_zero {n : Nat} (hn : n ≠ 0) (ds : List Digit) :
    ∃ e es, prepend n ds = e :: es ∧ e ≠ 0 := by
  induction n, ds using prepend.induct with
  | case1 ds => exact absurd rfl hn
  | case2 n ds _ ih =>
    rw [prepend, if_neg hn]
    by_cases hdiv : n / 10 = 0
    · refine ⟨⟨n % 10, Nat.mod_lt _ (by decide)⟩, ds, by rw [hdiv, prepend, if_pos rfl], ?_⟩
      have : n % 10 ≠ 0 := by omega
      simpa [Fin.ext_iff] using this
    · exact ih hdiv

theorem ofNat_ne_zero {n : Nat} (hn : n ≠ 0) : ∃ d ds, ofNat n = d :: ds ∧ d ≠ 0 :=
  head_prepend_ne_zero hn []

theorem prepend_append (n : Nat) (ds es : List Digit) :
    prepend n (ds ++ es) = prepend n ds ++ es := by
  induction n, ds using prepend.induct with
  | case1 ds => simp [prepend]
  | case2 n ds hn ih =>
    rw [prepend, if_neg hn, prepend.eq_def n ds, if_neg hn]
    exact ih

@[simp] theorem ofNat_zero : ofNat 0 = [] := by rw [ofNat, prepend, if_pos rfl]

theorem ofNat_push {n : Nat} {d : Digit} (h : n ≠ 0 ∨ d ≠ 0) :
    ofNat (10 * n + d.val) = ofNat n ++ [d] := by
  have hne : 10 * n + d.val ≠ 0 := by
    rcases h with h | h
    · omega
    · have hd : d.val ≠ 0 := fun h' => h (Fin.ext h')
      omega
  have hdiv : (10 * n + d.val) / 10 = n := by omega
  have hmod : (⟨(10 * n + d.val) % 10, Nat.mod_lt _ (by decide)⟩ : Digit) = d := by
    apply Fin.ext
    show (10 * n + d.val) % 10 = d.val
    omega
  rw [ofNat, prepend, if_neg hne, hdiv, hmod, ofNat, ← prepend_append, List.nil_append]

theorem ofNat_value (ds : List Digit) : ofNat (value ds) = ds.dropWhile (· = 0) := by
  induction ds using List.reverseRecOn with
  | nil => exact ofNat_zero
  | append_singleton ds d ih =>
    rw [value_append_singleton, List.dropWhile_append, ← ih]
    by_cases hn : value ds = 0
    · rw [hn, ofNat_zero]
      by_cases hd : d = 0
      · simp [hd]
      · have hpush := ofNat_push (n := 0) (.inr hd)
        simpa [hd] using hpush
    · obtain ⟨e, es, hes, -⟩ := ofNat_ne_zero hn
      rw [ofNat_push (.inl hn), hes]
      rfl

end WorkflowManifest.Digit
