import WorkflowManifest.Proofs.Document.Grammar
import WorkflowManifest.Proofs.Document.Steps

namespace WorkflowManifest.Document

open Json
open Json.Grammar
open Json.Reader (numberKey)

section Ways

variable {text : String}

theorem read_obj_iff {ds : Entries String Json}
    (h : ∀ es, Text text.toList (.obj es) → (Entries.keys es).head? ≠ some numberKey) :
    Json.read text.toList = .ok (.obj ds) ↔ readEntries text = .ok ds := by
  rw [readEntries_iff]
  constructor
  · intro hread
    obtain ⟨i, htext, hi⟩ := text_of_read hread
    cases hi with
    | @obj es fs _ hfs => exact ⟨es, fs, htext, hfs, rfl⟩
  · rintro ⟨es, fs, htext, hfs, rfl⟩
    exact read_of_text htext (.obj (h es htext) hfs)

theorem readValue_eq_ok_iff {e : Document} :
    readValue text = .ok e ↔ ∃ es, Json.read text.toList = .ok (.obj es) ∧
      e.entries = rebuiltEntries es := by
  obtain ⟨fs⟩ := e
  rw [readValue]
  cases Json.read text.toList with
  | error f => simp
  | ok j => cases j <;> simp [ofJson, Except.mapError, eq_comm]

/-- Unless the object at the top holds a number, the three ways take the same texts. The first two
give one document, and the third gives it with its numbers respelled, which changes nothing just in
case each of them keeps its spelling, and no double in any case. -/
theorem ways_agree
    (h : ∀ es, Text text.toList (.obj es) → (Entries.keys es).head? ≠ some numberKey) :
    (∀ d, read text = .ok d ↔ (readEntries text).map ofEntries = .ok d) ∧
      (∀ e, readValue text = .ok e ↔
        ∃ d, read text = .ok d ∧ e.entries = rebuiltEntries d.entries) ∧
      (∀ d, read text = .ok d →
        (readValue text = .ok d ↔ ∀ n ∈ entryNumbers d.entries, n.rebuilt = n)) ∧
      ∀ n : Number, n.Respelled n.rebuilt := by
  have hvalue (e : Document) : readValue text = .ok e ↔
      ∃ d, read text = .ok d ∧ e.entries = rebuiltEntries d.entries := by
    rw [readValue_eq_ok_iff]
    constructor
    · rintro ⟨es, hes, he⟩
      exact ⟨⟨es⟩, read_iff.2 ((read_obj_iff h).1 hes), he⟩
    · rintro ⟨d, hd, he⟩
      exact ⟨d.entries, (read_obj_iff h).2 (read_iff.1 hd), he⟩
  refine ⟨fun d => Iff.rfl, hvalue, ?_, Number.respelled_rebuilt⟩
  intro d hd
  rw [hvalue, ← rebuiltEntries_eq_self_iff]
  constructor
  · rintro ⟨e, he, hde⟩
    obtain rfl : d = e := Except.ok.inj (hd.symm.trans he)
    exact hde.symm
  · intro hsame
    exact ⟨d, hd, hsame.symm⟩

end Ways

def tiny : String := "\x7b\"b\":[],\"a\":0.0000001,\"b\":0.00001\x7d"

theorem tiny_top (es : List (String × Json)) (h : Text tiny.toList (.obj es)) :
    (Entries.keys es).head? ≠ some numberKey :=
  head?_ne_numberKey (numberKey_not_mem_text h ⟨by decide +kernel, by decide +kernel⟩)

/-- As a value the decimal comes out with an exponent. -/
theorem tiny_respelled :
    ∃ d e, read tiny = .ok d ∧ readValue tiny = .ok e ∧
      d.text = "\x7b\"b\":0.00001,\"a\":0.0000001\x7d" ∧
      e.text = "\x7b\"b\":0.00001,\"a\":1e-7\x7d" := by
  have hread : (read tiny).toOption.map Document.text =
      some "\x7b\"b\":0.00001,\"a\":0.0000001\x7d" := by decide +kernel
  have hvalue : (readValue tiny).toOption.map Document.text =
      some "\x7b\"b\":0.00001,\"a\":1e-7\x7d" := by decide +kernel
  obtain ⟨d, hd, hdtext⟩ := Option.map_eq_some_iff.1 hread
  obtain ⟨e, he, hetext⟩ := Option.map_eq_some_iff.1 hvalue
  exact ⟨d, e, ok_of_toOption hd, ok_of_toOption he, hdtext, hetext⟩

theorem ways_agree_tiny :
    (∀ es, Text tiny.toList (.obj es) → (Entries.keys es).head? ≠ some numberKey) ∧
      ∃ d e, (readEntries tiny).map ofEntries = .ok d ∧ readValue tiny = .ok e ∧
        e.entries = rebuiltEntries d.entries := by
  have hread : (read tiny).toOption.isSome := by decide +kernel
  obtain ⟨d, hd⟩ := Option.isSome_iff_exists.1 hread
  obtain ⟨hmap, hvalue, _⟩ := ways_agree tiny_top
  have hread := ok_of_toOption hd
  exact ⟨tiny_top, d, ofEntries (rebuiltEntries d.entries), (hmap d).1 hread,
    (hvalue _).2 ⟨d, hread, rfl⟩, rfl⟩

end WorkflowManifest.Document
