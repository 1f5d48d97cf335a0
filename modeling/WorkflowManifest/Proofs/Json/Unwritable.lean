import WorkflowManifest.Proofs.Decimal.Overflow
import WorkflowManifest.Proofs.Json.Exact
import WorkflowManifest.Proofs.Json.MachineInteger
import Mathlib.Algebra.Order.Group.Abs

namespace WorkflowManifest.Json

namespace Number

def value (n : Number) : ℚ :=
  (if n.negative then -1 else 1) * Digit.value (n.whole.digits ++ n.fraction) * 10 ^ n.scale

/-- An integer outside of 128 bits, or any other number that is rounded to infinity. -/
def Unwritable (n : Number) : Prop :=
  if n.isInteger then n.value < -2 ^ 127 ∨ 2 ^ 128 - 1 < n.value
  else 2 ^ 1024 - 2 ^ 970 ≤ |n.value|

def refusal (n : Number) : WriteError :=
  if n.isInteger then .integerTooLarge n.text else .notFinite n.text

theorem message_refusal (n : Number) : n.refusal.message =
    if n.isInteger then "integer " ++ n.text ++ " is too large to be written exactly"
    else "number " ++ n.text ++ " cannot be represented as a float" := by
  unfold refusal
  split <;> rfl

theorem value_of_isInteger {n : Number} (h : n.isInteger = true) : n.value = n.wholeValue := by
  obtain ⟨negative, whole, fraction, exponent⟩ := n
  obtain ⟨rfl, rfl⟩ : fraction = [] ∧ exponent = none := by simpa [isInteger] using h
  cases negative <;> simp [value, wholeValue, scale]

theorem abs_value (n : Number) :
    |n.value| = Digit.value (n.whole.digits ++ n.fraction) * 10 ^ n.scale := by
  have hnonneg : (0 : ℚ) ≤ Digit.value (n.whole.digits ++ n.fraction) * 10 ^ n.scale :=
    mul_nonneg (Nat.cast_nonneg _) (zpow_nonneg (by norm_num) _)
  rw [value, mul_assoc, abs_mul, abs_of_nonneg hnonneg]
  split <;> simp

theorem magnitude?_eq_none_iff (n : Number) :
    n.magnitude? = none ↔ (2 ^ 1024 - 2 ^ 970 : ℚ) ≤ |n.value| := by
  rw [magnitude?, Binary64.ofDecimal?_eq_none_iff, abs_value]

theorem within_iff {n : Number} (h : n.isInteger = true) :
    (smallestInteger ≤ n.wholeValue ∧ n.wholeValue ≤ largestInteger) ↔ ¬ n.Unwritable := by
  have hsmallest : (smallestInteger : ℚ) = -2 ^ 127 := by norm_num [smallestInteger]
  have hlargest : (largestInteger : ℚ) = 2 ^ 128 - 1 := by norm_num [largestInteger]
  rw [Unwritable, if_pos h, value_of_isInteger h, ← hsmallest, ← hlargest, not_or, not_lt, not_lt,
    Int.cast_le, Int.cast_le]

end Number

inductive FirstUnwritable : List Number → Number → Prop
  | here {n : Number} {ns : List Number} (h : n.Unwritable) : FirstUnwritable (n :: ns) n
  | later {m n : Number} {ns : List Number} (hm : ¬ m.Unwritable) (h : FirstUnwritable ns n) :
      FirstUnwritable (m :: ns) n

namespace FirstUnwritable

variable {ms ns : List Number} {m n : Number}

theorem exists_mem (h : FirstUnwritable ns n) : ∃ m ∈ ns, m.Unwritable := by
  induction h with
  | here h => exact ⟨_, List.mem_cons_self, h⟩
  | later _ _ ih =>
    obtain ⟨m, hm, hun⟩ := ih
    exact ⟨m, List.mem_cons_of_mem _ hm, hun⟩

theorem unique (hm : FirstUnwritable ns m) (hn : FirstUnwritable ns n) : m = n := by
  induction hm with
  | here hm =>
    cases hn with
    | here _ => rfl
    | later hnot _ => exact absurd hm hnot
  | later hnot _ ih =>
    cases hn with
    | here hn => exact absurd hn hnot
    | later _ hn => exact ih hn

theorem append (h : FirstUnwritable ms n) (ns : List Number) : FirstUnwritable (ms ++ ns) n := by
  induction h with
  | here h => exact .here h
  | later hm _ ih => exact .later hm ih

theorem append_iff (hms : ∀ m ∈ ms, ¬ m.Unwritable) :
    FirstUnwritable (ms ++ ns) n ↔ FirstUnwritable ns n := by
  induction ms with
  | nil => rfl
  | cons m ms ih =>
    obtain ⟨hm, hms⟩ := List.forall_mem_cons.1 hms
    rw [List.cons_append, ← ih hms]
    constructor
    · intro h
      cases h with
      | here h => exact absurd h hm
      | later _ h => exact h
    · exact .later hm

end FirstUnwritable

/-- Writing succeeds if all of the numbers can be written, and otherwise refuses the first that
cannot. -/
def Decides {α : Type} (ns : List Number) : Except WriteError α → Prop
  | .ok _ => ∀ n ∈ ns, ¬ n.Unwritable
  | .error e => ∃ n, FirstUnwritable ns n ∧ e = n.refusal

namespace Decides

variable {α β : Type} {ms ns : List Number}

theorem pure (a : α) : Decides [] (.ok a) := by simp [Decides]

theorem number (n : Number) : Decides [n] n.exact := by
  rw [Number.exact_eq]
  split
  next hint =>
    split
    next h => simpa [Decides] using (Number.within_iff hint).1 h
    next h =>
      have hn : n.Unwritable := not_not.1 (mt (Number.within_iff hint).2 h)
      exact ⟨n, .here hn, by rw [Number.refusal, if_pos hint]⟩
  next hint =>
    have hunwritable : n.Unwritable ↔ n.magnitude? = none := by
      rw [Number.Unwritable, if_neg hint, Number.magnitude?_eq_none_iff]
    split
    next x hx => simp [Decides, hunwritable, hx]
    next hx => exact ⟨n, .here (hunwritable.2 hx), by rw [Number.refusal, if_neg hint]⟩

theorem map {r : Except WriteError α} (h : Decides ns r) (f : α → β) : Decides ns (r.map f) := by
  cases r with
  | ok a => exact h
  | error e => exact h

theorem append_iff {r : Except WriteError α} (hms : ∀ m ∈ ms, ¬ m.Unwritable) :
    Decides (ms ++ ns) r ↔ Decides ns r := by
  cases r with
  | ok a => simpa [Decides, or_imp, forall_and] using fun _ => hms
  | error e => simp only [Decides, FirstUnwritable.append_iff hms]

theorem bind {r : Except WriteError α} {k : α → Except WriteError β} (h : Decides ms r)
    (hk : ∀ a, Decides ns (k a)) : Decides (ms ++ ns) (r >>= k) := by
  cases r with
  | ok a => exact (append_iff h).2 (hk a)
  | error e =>
    obtain ⟨n, hn, he⟩ := h
    exact ⟨n, hn.append ns, he⟩

theorem error_iff {r : Except WriteError α} (h : Decides ns r) (e : WriteError) :
    r = .error e ↔ ∃ n, FirstUnwritable ns n ∧ e = n.refusal := by
  cases r with
  | ok a =>
    refine iff_of_false (by simp) ?_
    rintro ⟨n, hn, -⟩
    obtain ⟨m, hm, hun⟩ := hn.exists_mem
    exact h m hm hun
  | error e' =>
    obtain ⟨m, hm, rfl⟩ := h
    constructor
    · intro he
      exact ⟨m, hm, (Except.error.inj he).symm⟩
    · rintro ⟨n, hn, rfl⟩
      rw [hn.unique hm]

theorem ok_iff {r : Except WriteError α} (h : Decides ns r) :
    (∃ a, r = .ok a) ↔ ∀ n ∈ ns, ¬ n.Unwritable := by
  cases r with
  | ok a => exact iff_of_true ⟨a, rfl⟩ h
  | error e =>
    obtain ⟨n, hn, -⟩ := h
    obtain ⟨m, hm, hun⟩ := hn.exists_mem
    exact iff_of_false (by simp) fun hall => hall m hm hun

theorem eq_ok_iff {r : Except WriteError α} (h : Decides ns r) {a : α}
    (hunique : ∀ b, r = .ok b → b = a) (b : α) :
    r = .ok b ↔ (∀ n ∈ ns, ¬ n.Unwritable) ∧ b = a := by
  rw [← h.ok_iff]
  constructor
  · intro hb
    exact ⟨⟨b, hb⟩, hunique b hb⟩
  · rintro ⟨⟨c, hc⟩, rfl⟩
    rw [hc, hunique c hc]

theorem fails_iff {r : Except WriteError α} (h : Decides ns r) :
    (∃ e, r = .error e) ↔ ∃ n ∈ ns, n.Unwritable := by
  cases r with
  | ok a => simpa [Decides] using h
  | error e =>
    obtain ⟨n, hn, -⟩ := h
    exact iff_of_true ⟨e, rfl⟩ hn.exists_mem

end Decides

mutual

def numbers : Json → List Number
  | .null | .bool _ | .str _ => []
  | .num n => [n]
  | .arr xs => itemNumbers xs
  | .obj es => entryNumbers es

def itemNumbers : List Json → List Number
  | [] => []
  | x :: xs => numbers x ++ itemNumbers xs

def entryNumbers : List (String × Json) → List Number
  | [] => []
  | (_, x) :: es => numbers x ++ entryNumbers es

end

theorem itemNumbers_append (xs ys : List Json) :
    itemNumbers (xs ++ ys) = itemNumbers xs ++ itemNumbers ys := by
  induction xs with
  | nil => rfl
  | cons x xs ih => rw [List.cons_append, itemNumbers, itemNumbers, ih, List.append_assoc]

@[simp] theorem entryNumbers_append (es fs : List (String × Json)) :
    entryNumbers (es ++ fs) = entryNumbers es ++ entryNumbers fs := by
  induction es with
  | nil => rfl
  | cons e es ih => simp [entryNumbers, ih]

mutual

theorem decides_exact : ∀ j : Json, Decides (numbers j) (exact j)
  | .null => by simpa [numbers, exact] using Decides.pure Json.null
  | .bool b => by simpa [numbers, exact] using Decides.pure (Json.bool b)
  | .str s => by simpa [numbers, exact] using Decides.pure (Json.str s)
  | .num n => by simpa only [numbers, exact] using (Decides.number n).map _
  | .arr xs => by simpa only [numbers, exact] using (decides_exactItems xs).map _
  | .obj es => by simpa only [numbers, exact] using (decides_exactEntries es).map _

theorem decides_exactItems : ∀ xs : List Json, Decides (itemNumbers xs) (exactItems xs)
  | [] => by simpa [itemNumbers, exactItems] using Decides.pure ([] : List Json)
  | x :: xs => by
    rw [itemNumbers, exactItems, ← List.append_nil (itemNumbers xs)]
    exact (decides_exact x).bind fun y =>
      (decides_exactItems xs).bind fun ys => .pure (y :: ys)

theorem decides_exactEntries : ∀ es : List (String × Json),
    Decides (entryNumbers es) (exactEntries es)
  | [] => by simpa [entryNumbers, exactEntries] using Decides.pure ([] : List (String × Json))
  | (k, x) :: es => by
    rw [entryNumbers, exactEntries, ← List.append_nil (entryNumbers es)]
    exact (decides_exact x).bind fun y =>
      (decides_exactEntries es).bind fun fs => .pure ((k, y) :: fs)

end

end WorkflowManifest.Json
