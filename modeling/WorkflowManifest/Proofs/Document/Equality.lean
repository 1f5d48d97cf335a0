import WorkflowManifest.Proofs.Document.Steps
import WorkflowManifest.Proofs.Json.Printed
import WorkflowManifest.Proofs.Json.Sorted

namespace WorkflowManifest.Document

def sortedText (d : Document) : String := (Json.obj d.entries).sorted.text

/-- Documents as they come about. In a value or a map that one is made from, every object has each
of its keys once. -/
inductive Made : Document → Prop
  | new : Made .empty
  | read {text : String} {d : Document} (h : read text = .ok d) : Made d
  | ofValue {j : Json} {d : Document} (hj : j.WellFormed) (h : ofJson j = .ok d) : Made d
  | ofMap {es : Entries String Json} (h : (Json.obj es).WellFormed) : Made (ofEntries es)
  | take {d : Document} (h : Made d) (key : String) : Made (d.take key).2

variable {d e f : Document}

theorem wellFormed_ofJson {j : Json} (hj : j.WellFormed) (h : ofJson j = .ok d) :
    (Json.obj d.entries).WellFormed := by
  cases j with
  | obj es =>
    cases h
    exact Json.WellFormed.rebuilt _ hj
  | _ => cases h

theorem wellFormed_take (h : (Json.obj d.entries).WellFormed) (key : String) :
    (Json.obj (d.take key).2.entries).WellFormed := by
  obtain ⟨hkeys, hvalues⟩ := Json.wellFormed_obj_iff.1 h
  refine Json.wellFormed_obj_iff.2 ⟨Entries.nodup_keys_erase hkeys key, ?_⟩
  intro e he
  exact hvalues e ((Entries.erase_subperm key d.entries).subset he)

theorem Made.wellFormed (h : d.Made) : (Json.obj d.entries).WellFormed := by
  induction h with
  | new => exact Storable.empty.wellFormed
  | read h => exact (storable_of_read h).wellFormed
  | ofValue hj h => exact wellFormed_ofJson hj h
  | ofMap h => exact h
  | take _ key ih => exact wellFormed_take ih key

theorem same_iff_sortedText (hd : (Json.obj d.entries).WellFormed)
    (he : (Json.obj e.entries).WellFormed) : d.same e ↔ d.sortedText = e.sortedText := by
  rw [same, Json.same_iff_sorted hd he]
  constructor
  · intro h
    rw [sortedText, h, sortedText]
  · exact Json.text_injective

/-- However documents came about, they are equal just in case their texts are, once the keys of
every object are in order. In particular every document is equal to itself, and equality goes
either way and from one document to the next. -/
theorem made_same_iff (hd : d.Made) (he : e.Made) (hf : f.Made) :
    (d.same e ↔ d.sortedText = e.sortedText) ∧
      d.same d ∧ (d.same e → e.same d) ∧ (d.same e → e.same f → d.same f) := by
  have hde := same_iff_sortedText hd.wellFormed he.wellFormed
  have hed := same_iff_sortedText he.wellFormed hd.wellFormed
  have hef := same_iff_sortedText he.wellFormed hf.wellFormed
  have hdf := same_iff_sortedText hd.wellFormed hf.wellFormed
  refine ⟨hde, ?_, ?_, ?_⟩
  · exact (same_iff_sortedText hd.wellFormed hd.wellFormed).2 rfl
  · intro h
    exact hed.2 (hde.1 h).symm
  · intro h h'
    exact hdf.2 ((hde.1 h).trans (hef.1 h'))

def labelled : Document :=
  ofEntries
    [("id", .str "7"), ("name", .str "Ärger\n\"\\"),
      ("settings", .obj [("b", .num ⟨true, .zero, [1], none⟩), ("a", .arr [.null, .bool true])])]

def tidy : Document :=
  ofEntries
    [("name", .str "Ärger\n\"\\"),
      ("settings", .obj [("a", .arr [.null, .bool true]), ("b", .num ⟨true, .zero, [1], none⟩)])]

theorem made_same_iff_tidy :
    (labelled.take "id").2.Made ∧ tidy.Made ∧ (labelled.take "id").2.text ≠ tidy.text ∧
      (labelled.take "id").2.same tidy ∧ tidy.same (labelled.take "id").2 := by
  have hlabelled : (labelled.take "id").2.Made := by
    apply Made.take
    apply Made.ofMap
    simp [Json.WellFormed, Json.WellFormedItems, Json.WellFormedEntries, Entries.keys]
  have htidy : tidy.Made := by
    apply Made.ofMap
    simp [Json.WellFormed, Json.WellFormedItems, Json.WellFormedEntries, Entries.keys]
  have htext : (labelled.take "id").2.sortedText = tidy.sortedText := by decide +kernel
  obtain ⟨hiff, -, hsymm, -⟩ := made_same_iff hlabelled htidy htidy
  exact ⟨hlabelled, htidy, by decide +kernel, hiff.2 htext, hsymm (hiff.2 htext)⟩

end WorkflowManifest.Document
