import WorkflowManifest.Proofs.Json.Rebuilt
import WorkflowManifest.Proofs.Json.RoundTrip

namespace WorkflowManifest.Document

open Json.Reader

/-- A document is made from a text, from a value or a map that was read from one, or by taking a
value out of the document before. -/
inductive Step where
  | new
  | read (text : String)
  | ofValue (text : String)
  | ofMap (text : String)
  | take (key : String)

inductive StepError where
  | text (failure : Json.Failure)
  | value (cause : Json.Cause)

def readValue (text : String) : Except StepError Document :=
  match Json.read text.toList with
  | .error f => .error (.text f)
  | .ok j => (ofJson j).mapError .value

def replace (d : Document) : Except StepError Document → Except StepError (Option Json) × Document
  | .ok e => (.ok none, e)
  | .error f => (.error f, d)

def perform (d : Document) : Step → Except StepError (Option Json) × Document
  | .new => d.replace (.ok .empty)
  | .read text => d.replace ((read text).mapError .text)
  | .ofValue text => d.replace (readValue text)
  | .ofMap text => d.replace (((readEntries text).map ofEntries).mapError .text)
  | .take key => ((d.take key).map .ok id)

def reached (steps : List Step) : Document :=
  steps.foldl (fun d step => (d.perform step).2) .empty

theorem storable_of_readEntries {text : String} {es : Entries String Json}
    (h : readEntries text = .ok es) : (ofEntries es).Storable := by
  rw [readEntries] at h
  split at h
  · cases h
  next fs hread =>
    cases h
    have hs : State.Sound (.value .document) := trivial
    exact readFrom_whole hs hread es rfl
  · cases h

theorem storable_of_read {text : String} {d : Document} (h : read text = .ok d) :
    d.Storable := by
  rw [read] at h
  cases hes : readEntries text with
  | ok es =>
    rw [hes] at h
    cases h
    exact storable_of_readEntries hes
  | error f =>
    rw [hes] at h
    cases h

theorem storable_of_readValue {text : String} {d : Document} (h : readValue text = .ok d) :
    d.Storable := by
  rw [readValue] at h
  split at h
  · cases h
  next j hread =>
    have hs : State.Sound (.value (.inside [])) := trivial
    cases j with
    | obj es =>
      cases h
      exact (readFrom_whole hs hread es rfl).rebuilt
    | _ => cases h

theorem replace_storable {d : Document} {made : Except StepError Document} (h : d.Storable)
    (hmade : ∀ e, made = .ok e → e.Storable) : (d.replace made).2.Storable := by
  cases made with
  | ok e => exact hmade e rfl
  | error f => exact h

theorem perform_storable {d : Document} (h : d.Storable) (step : Step) :
    (d.perform step).2.Storable := by
  cases step with
  | new => exact .empty
  | read text =>
    apply replace_storable h
    intro e he
    exact storable_of_read (mapError_eq_ok_iff.1 he)
  | ofValue text =>
    apply replace_storable h
    intro e he
    exact storable_of_readValue he
  | ofMap text =>
    apply replace_storable h
    intro e he
    exact storable_of_read (mapError_eq_ok_iff.1 he)
  | take key => exact h.take key

theorem reached_storable (steps : List Step) : (reached steps).Storable := by
  have hall {d : Document} (h : d.Storable) :
      (steps.foldl (fun d step => (d.perform step).2) d).Storable := by
    induction steps generalizing d with
    | nil => exact h
    | cons step steps ih => exact ih (perform_storable h step)
  exact hall .empty

theorem read_text {d : Document} (h : d.Storable) : read d.text = .ok d := by
  have hchars : d.text.toList = Json.chars (.obj d.entries) := String.toList_ofList
  rw [read, readEntries, hchars, readFrom_chars h]
  rfl

theorem perform_error {d : Document} {step : Step} {f : StepError}
    (h : (d.perform step).1 = .error f) : (d.perform step).2 = d := by
  have hreplace {made : Except StepError Document} (hm : (d.replace made).1 = .error f) :
      (d.replace made).2 = d := by
    cases made with
    | ok e => cases hm
    | error g => rfl
  cases step with
  | new => exact hreplace h
  | read text => exact hreplace h
  | ofValue text => exact hreplace h
  | ofMap text => exact hreplace h
  | take key => cases h

theorem take_absent {d : Document} {key : String} (h : d.find? key = none) :
    (d.take key).2 = d := by
  rw [find?, Entries.find?_eq_none_iff] at h
  rw [take, Entries.erase_of_not_mem h]

/-- Whatever steps led to a document, its keys are unique at every level, and its text is read as
the same document again. Neither a step that fails nor taking a key that is not there changes it. -/
theorem reached_restorable (steps : List Step) :
    (Json.obj (reached steps).entries).WellFormed ∧
      read (reached steps).text = .ok (reached steps) ∧
      (∀ step f, ((reached steps).perform step).1 = .error f →
        ((reached steps).perform step).2 = reached steps) ∧
      ∀ key, (reached steps).find? key = none →
        ((reached steps).perform (.take key)).2 = reached steps := by
  have h := reached_storable steps
  refine ⟨h.wellFormed, read_text h, ?_, ?_⟩
  · intro step f hf
    exact perform_error hf
  · intro key hkey
    exact take_absent hkey

end WorkflowManifest.Document
