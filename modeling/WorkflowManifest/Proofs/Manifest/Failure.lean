import WorkflowManifest.Proofs.Json.Unwritable
import WorkflowManifest.Proofs.Json.WrittenNumber

namespace WorkflowManifest

namespace Json

@[simp] theorem entryNumbers_optionalEntry (key : String) (x : Option Json) :
    entryNumbers (optionalEntry key x) = x.elim [] numbers := by
  cases x <;> simp [optionalEntry, entryNumbers]

theorem elim_map_eq_nil {α : Type} {f : α → Json} (h : ∀ a, numbers (f a) = []) (x : Option α) :
    (x.map f).elim [] numbers = [] := by
  cases x <;> simp [h]

@[simp] theorem numbers_str (s : String) : numbers (.str s) = [] := by rw [numbers]

@[simp] theorem elim_map_str (x : Option String) : (x.map .str).elim [] numbers = [] :=
  elim_map_eq_nil numbers_str x

theorem Number.not_unwritable_ofNat {k : Nat} (hk : k < 2 ^ 16) :
    ¬ Unwritable { negative := false, whole := .ofDigits (Digit.ofNat k) } := by
  rw [← within_iff rfl, wholeValue_ofDigits, smallestInteger, largestInteger]
  omega

end Json

open Json (numbers entryNumbers)

def Workflow.numbers (w : Workflow) : List Json.Number :=
  [w.nodes, w.connections, w.settings, w.staticData, w.pinData].flatMap fun kept =>
    kept.elim [] Json.numbers

theorem Workflow.entryNumbers_entries (w : Workflow) : entryNumbers w.entries = w.numbers := by
  simp [entries, Workflow.numbers, Json.entryNumbers, Json.numbers]

theorem SecretKey.numbers_tree (s : SecretKey) : numbers s.tree = [] := by
  simp only [tree, Json.numbers, entryNumbers, Json.entryNumbers_optionalEntry, Json.elim_map_str,
    List.append_nil]

theorem InstanceRef.numbers_tree (ref : InstanceRef) :
    ∀ n ∈ numbers ref.tree, ¬ n.Unwritable := by
  have hnumbers : numbers ref.tree =
      ref.port.elim [] fun p => numbers (.ofNat p.toNat) := by
    simp only [tree, Json.numbers, Json.entryNumbers_append, Json.entryNumbers_optionalEntry,
      Json.elim_map_eq_nil SecretKey.numbers_tree, Json.elim_map_str]
    cases ref.port <;> simp
  rw [hnumbers]
  cases ref.port with
  | none => simp
  | some p =>
    simpa [Json.ofNat, Json.numbers] using Json.Number.not_unwritable_ofNat p.toNat_lt

namespace Resource

theorem numbers_headEntries (r : Resource) :
    ∀ n ∈ entryNumbers r.headEntries, ¬ n.Unwritable := by
  have hnumbers : entryNumbers r.headEntries =
      r.instanceRef.elim [] fun ref => numbers ref.tree := by
    simp only [headEntries, List.cons_append, entryNumbers, Json.entryNumbers_append,
      Json.entryNumbers_optionalEntry, Json.numbers,
      Json.elim_map_eq_nil fun p : SyncPolicy => Json.numbers_str p.name]
    cases r.instanceRef <;> simp
  rw [hnumbers]
  cases r.instanceRef with
  | none => simp
  | some ref => exact ref.numbers_tree

theorem decides_written (r : Resource) : Json.Decides r.workflow.numbers r.written := by
  have h := Json.decides_exactEntries r.entries
  have hnumbers : entryNumbers r.entries = entryNumbers r.headEntries ++ r.workflow.numbers := by
    simp [entries, entryNumbers, Json.numbers, Workflow.entryNumbers_entries]
  rw [hnumbers, Json.Decides.append_iff r.numbers_headEntries] at h
  exact h

/-- Both texts of a resource are there unless some number of a kept section is an integer outside
of 128 bits or is rounded to infinity. Then both fail in the same way, and the message names the
first such number. -/
theorem fails_together (r : Resource) :
    (∀ e, r.yaml = .error e ↔ r.json = .error e) ∧
      ((∃ e, r.yaml = .error e) ↔ ∃ n ∈ r.workflow.numbers, n.Unwritable) ∧
      ∀ e, r.yaml = .error e ↔
        ∃ n, Json.FirstUnwritable r.workflow.numbers n ∧ e = n.refusal ∧
          e.message = if n.isInteger then
            "integer " ++ n.text ++ " is too large to be written exactly"
          else "number " ++ n.text ++ " cannot be represented as a float" := by
  have hyaml : Json.Decides r.workflow.numbers r.yaml := r.decides_written.map _
  have hjson : Json.Decides r.workflow.numbers r.json := r.decides_written.map _
  refine ⟨fun e => ?_, hyaml.fails_iff, fun e => ?_⟩
  · rw [hyaml.error_iff, hjson.error_iff]
  · rw [hyaml.error_iff]
    constructor
    · rintro ⟨n, hn, rfl⟩
      exact ⟨n, hn, rfl, n.message_refusal⟩
    · rintro ⟨n, hn, he, -⟩
      exact ⟨n, hn, he⟩

end Resource

end WorkflowManifest
