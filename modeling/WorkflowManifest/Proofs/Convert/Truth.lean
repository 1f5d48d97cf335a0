import WorkflowManifest.Proofs.Convert.Again
import WorkflowManifest.Proofs.Decimal.Rounding
import WorkflowManifest.Proofs.Json.Unwritable

namespace WorkflowManifest

namespace Json

/-- Null, false, zero and whatever is empty. -/
@[mk_iff]
inductive Nothing : Json → Prop
  | null : Nothing .null
  | untrue : Nothing (.bool false)
  | zero {n : Number} (h : n.value = 0) : Nothing (.num n)
  | blank : Nothing (.str "")
  | noItems : Nothing (.arr [])
  | noEntries : Nothing (.obj [])

namespace Number

/-- Rounded to zero or to infinity, zero itself included. -/
def Lost (n : Number) : Prop :=
  |n.value| ≤ 2 ^ (-1075 : Int) ∨ 2 ^ 1024 - 2 ^ 970 ≤ |n.value|

theorem value_eq_zero_iff (n : Number) :
    n.value = 0 ↔ Digit.value (n.whole.digits ++ n.fraction) = 0 := by
  have hten : (10 : ℚ) ^ n.scale ≠ 0 := zpow_ne_zero _ (by norm_num)
  rw [← abs_eq_zero, abs_value, mul_eq_zero, or_iff_left hten, Nat.cast_eq_zero]

theorem lost_of_value_eq_zero {n : Number} (h : n.value = 0) : n.Lost := by
  left
  rw [h, abs_zero]
  exact zpow_nonneg (by norm_num) _

theorem isTruthy_iff (n : Number) : (Json.num n).isTruthy = true ↔ ¬ n.Lost := by
  have hlarge := n.magnitude?_eq_none_iff
  rw [Json.isTruthy]
  split
  next x hx =>
    have hsmall := Binary64.isZero_ofDecimal?_iff hx
    rw [← abs_value] at hsmall
    rw [Lost, ← hsmall, ← hlarge, hx]
    simp
  next hnone =>
    have hlost : n.Lost := .inr (hlarge.1 hnone)
    simp [hlost]

end Number

theorem isTruthy_iff (v : Json) :
    v.isTruthy = true ↔ ¬ v.Nothing ∧ ∀ n, v = .num n → ¬ n.Lost := by
  cases v with
  | num n =>
    have hzero : n.value = 0 → n.Lost := Number.lost_of_value_eq_zero
    rw [n.isTruthy_iff]
    simpa [nothing_iff] using mt hzero
  | _ => simp [isTruthy, nothing_iff]

end Json

namespace Converter

open Json (Nothing)

theorem find?_data (c : Converter) {d : Document} (hd : (Entries.keys d.entries).Nodup)
    {key : String} (hkey : key = "staticData" ∨ key = "pinData") :
    Entries.find? key (c.convert d).workflow.entries = (d.find? key).filter Json.isTruthy := by
  obtain ⟨-, -, -, -, hstatic, hpin⟩ := (c.workflow d).find?_entries
  rw [workflow_eq c hd] at hstatic hpin
  rw [convert]
  dsimp only
  rw [workflow_eq c hd]
  rcases hkey with rfl | rfl
  · exact hstatic
  · exact hpin

/-- Static and pinned data are carried as they are unless they count as nothing or are a number that
its double loses. Then no field is left of them. -/
theorem convert_carries (c : Converter) {d : Document} (hd : (Entries.keys d.entries).Nodup)
    {key : String} (hkey : key = "staticData" ∨ key = "pinData") {v : Json}
    (hv : d.find? key = some v) :
    (Entries.find? key (c.convert d).workflow.entries = some v ↔
        ¬ v.Nothing ∧ ∀ n, v = .num n → ¬ n.Lost) ∧
      (Entries.find? key (c.convert d).workflow.entries = none ↔
        v.Nothing ∨ ∃ n, v = .num n ∧ n.Lost) := by
  have hcarried : Entries.find? key (c.convert d).workflow.entries =
      if v.isTruthy then some v else none := by
    rw [c.find?_data hd hkey, hv]
    rfl
  rw [hcarried, ← v.isTruthy_iff]
  constructor
  · simp
  · have hnot := not_congr v.isTruthy_iff
    simp only [not_and_or, not_not, not_forall, exists_prop] at hnot
    rw [← hnot]
    simp

def faint : Json.Number :=
  { negative := false, whole := .ofDigit 3, exponent := some ⟨true, 3, [2, 4]⟩ }

theorem convert_carries_faint :
    (Entries.keys [("pinData", Json.num faint)]).Nodup ∧
      Document.find? ⟨[("pinData", .num faint)]⟩ "pinData" = some (.num faint) ∧
      Entries.find? "pinData" ((ofOptions {}).convert ⟨[("pinData", .num faint)]⟩).workflow.entries =
        some (.num faint) := by
  have hkeys : (Entries.keys [("pinData", Json.num faint)]).Nodup := by simp [Entries.keys]
  have htruthy : (Json.num faint).isTruthy = true := by decide +kernel
  have hcarried := convert_carries (ofOptions {}) (d := ⟨_⟩) hkeys (.inr rfl) rfl
  exact ⟨hkeys, rfl, hcarried.1.2 ((Json.num faint).isTruthy_iff.1 htruthy)⟩

def huge : Json.Number :=
  { negative := false, whole := .ofDigit 1, exponent := some ⟨false, 4, [0, 0]⟩ }

/-- Far from zero, and gone. -/
theorem huge_dropped :
    ∃ d, Document.read "\x7b\"staticData\":1e400\x7d" = .ok d ∧
      d.find? "staticData" = some (.num huge) ∧ huge.value ≠ 0 ∧
      Entries.find? "staticData" ((ofOptions {}).convert d).workflow.entries = none := by
  have hne : huge.value ≠ 0 := by
    rw [Ne, huge.value_eq_zero_iff]
    decide
  have hfalsy : (Json.num huge).isTruthy = false := by decide +kernel
  refine ⟨⟨[("staticData", .num huge)]⟩, rfl, rfl, hne, ?_⟩
  rw [find?_data (ofOptions {}) (by simp [Entries.keys]) (.inl rfl)]
  simp [Document.find?, Entries.find?, hfalsy]

end Converter

end WorkflowManifest
