import WorkflowManifest.Proofs.Convert.Projection
import WorkflowManifest.Proofs.Document.Steps
import WorkflowManifest.Proofs.Manifest.Layout
import WorkflowManifest.Proofs.Settings

/-!
Converting the workflow that a resource holds gives the resource again: the sections pass through a
second conversion as they are, and their numbers through a second writing.
-/

namespace WorkflowManifest

theorem Json.Written.filter_isTruthy {x y : Option Json} (h : Written x y)
    (hx : x.filter Json.isTruthy = x) : y.filter Json.isTruthy = y := by
  cases h with
  | none => rfl
  | some h =>
    rw [Option.filter_some_eq_some] at hx ⊢
    rw [Json.isTruthy_of_exact h, hx]

namespace Settings

variable {fields : List String}

theorem filter_of_exact {x y : Json} (hy : Json.exact x = .ok y) (h : filter fields x = some x) :
    filter fields y = some y := by
  have hsource := Json.source_of_exact hy
  cases y with
  | obj fs =>
    obtain ⟨es, rfl, hes⟩ := hsource
    rw [filter_obj_eq_self] at h ⊢
    rwa [Json.keys_of_exact hes]
  | _ => rfl

theorem bind_of_written {x y : Option Json} (h : Json.Written x y)
    (hx : x.bind (filter fields) = x) : y.bind (filter fields) = y := by
  cases h with
  | none => rfl
  | some h => exact filter_of_exact h hx

theorem fits_of_filter {room : Nat} {j x : Json} (h : j.Fits room) (hx : filter fields j = some x)
    (hheld : ∀ es, x = .obj es → (Entries.keys es).head? ≠ some Json.Reader.numberKey) :
    x.Fits room := by
  cases j with
  | obj es =>
    obtain ⟨-, rfl⟩ := filter_obj_eq_some.1 hx
    cases room with
    | zero => simp [Json.Fits] at h
    | succ room =>
      rw [Json.Fits] at h ⊢
      obtain ⟨hnodup, -, hes⟩ := h
      have hsub : (kept fields es).Sublist es := List.filter_sublist
      refine ⟨Entries.nodup_of_subperm hsub.subperm hnodup, hheld _ rfl, ?_⟩
      rw [Json.fitsEntries_iff] at hes ⊢
      intro e he
      exact hes e (hsub.subset he)
  | _ =>
    obtain rfl := Option.some.inj hx
    exact h

end Settings

structure Workflow.Settled (fields : List String) (w : Workflow) : Prop where
  settings : w.settings.bind (Settings.filter fields) = w.settings
  staticData : w.staticData.filter Json.isTruthy = w.staticData
  pinData : w.pinData.filter Json.isTruthy = w.pinData

namespace Workflow

theorem Settled.of_writes {fields : List String} {w w' : Workflow} (h : w.Settled fields)
    (hw : w.Writes w') : w'.Settled fields := by
  constructor
  · exact Settings.bind_of_written hw.settings h.settings
  · exact hw.staticData.filter_isTruthy h.staticData
  · exact hw.pinData.filter_isTruthy h.pinData

theorem nodup_keys_entries (w : Workflow) : (Entries.keys w.entries).Nodup := by
  have hsub : (Entries.keys w.entries).Sublist sectionKeys := by
    simp only [entries, List.cons_append, List.append_assoc, Entries.keys_cons,
      Entries.keys_append]
    apply List.Sublist.cons_cons
    apply (Entries.keys_optional _ _).append
    apply (Entries.keys_optional _ _).append
    apply (Entries.keys_optional _ _).append
    exact (Entries.keys_optional _ _).append (Entries.keys_optional _ _)
  exact hsub.nodup (by decide)

theorem find?_entries (w : Workflow) :
    Entries.find? "name" w.entries = some (.str w.name) ∧
      Entries.find? "nodes" w.entries = w.nodes ∧
      Entries.find? "connections" w.entries = w.connections ∧
      Entries.find? "settings" w.entries = w.settings ∧
      Entries.find? "staticData" w.entries = w.staticData ∧
      Entries.find? "pinData" w.entries = w.pinData := by
  simp [entries, Entries.find?, Entries.find?_append, Entries.find?_optional,
    Entries.find?_optional_of_ne]

end Workflow

namespace Converter

variable {d : Document}

theorem settled_workflow (c : Converter) (h : (Entries.keys d.entries).Nodup) :
    (c.workflow d).Settled c.dropped := by
  rw [workflow_eq c h]
  constructor
  · cases hx : (d.find? "settings").bind (Settings.filter c.dropped) with
    | none => rfl
    | some x =>
      obtain ⟨j, -, hj⟩ := Option.bind_eq_some_iff.1 hx
      exact Settings.filter_filter hj
  · simp [Option.filter_filter]
  · simp [Option.filter_filter]

theorem workflow_entries {c : Converter} {w : Workflow} (h : w.Settled c.dropped) :
    c.workflow ⟨w.entries⟩ = w := by
  obtain ⟨hname, hnodes, hconnections, hsettings, hstatic, hpin⟩ := w.find?_entries
  rw [workflow_eq (d := ⟨w.entries⟩) c w.nodup_keys_entries]
  simp only [Document.find?, hname, hnodes, hconnections, hsettings, hstatic, hpin, workflowName,
    h.settings, h.staticData, h.pinData]

theorem convert_entries {c : Converter} {w : Workflow} (h : w.Settled c.dropped)
    (hname : w.name = (c.workflow d).name) :
    c.convert ⟨w.entries⟩ = { c.convert d with workflow := w } := by
  simp only [convert, workflow_entries h, hname]

theorem fits_workflow {c : Converter} (h : d.Storable)
    (hheld : ∀ es, (c.workflow d).settings = some (.obj es) →
      (Entries.keys es).head? ≠ some Json.Reader.numberKey) :
    Json.FitsEntries (Json.Reader.maxDepth - 1) (c.workflow d).entries := by
  have hfind {key : String} {x : Json} (hx : d.find? key = some x) :
      x.Fits (Json.Reader.maxDepth - 1) :=
    Json.fitsEntries_iff.1 h.fits (key, x) ((Entries.find?_eq_some_iff h.nodup).1 hx)
  rw [Json.fitsEntries_iff]
  rw [workflow_eq c h.nodup] at hheld ⊢
  rintro ⟨key, x⟩ he
  simp only [Workflow.entries, List.cons_append, List.mem_cons, List.mem_append] at he
  rcases he with he | (((he | he) | he) | he) | he
  · obtain ⟨rfl, rfl⟩ := Prod.mk.inj he
    trivial
  · exact hfind (Entries.mem_optional he)
  · exact hfind (Entries.mem_optional he)
  -- Settings are the one section that need not be as it was read.
  · have hx := Entries.mem_optional he
    obtain ⟨j, hj, hfilter⟩ := Option.bind_eq_some_iff.1 hx
    apply Settings.fits_of_filter (hfind hj) hfilter
    rintro es rfl
    exact hheld es hx
  · exact hfind (Option.filter_eq_some_iff.1 (Entries.mem_optional he)).1
  · exact hfind (Option.filter_eq_some_iff.1 (Entries.mem_optional he)).1

/-- The workflow that stands in the text of a resource can be read and converted again, which gives
the same texts. Only settings that begin with the key that stands for a number, once the filter has
dropped what came before it, would be read as something else. -/
theorem convert_again (o : Options) {source text : String} {d : Document}
    (hread : Document.read source = .ok d) (hjson : ((ofOptions o).convert d).json = .ok text)
    (hheld : ∀ es, ((ofOptions o).convert d).workflow.settings = some (.obj es) →
      (Entries.keys es).head? ≠ some Json.Reader.numberKey) :
    ∃ es inner e yaml, ((ofOptions o).convert d).written = .ok es ∧ (Json.obj es).text = text ∧
      (Json.obj es).follow? ["spec", "workflow"] = some inner ∧
      (∃ before, text = before ++ inner.text ++ "\x7d\x7d") ∧
      Document.read inner.text = .ok e ∧
      ((ofOptions o).convert e).json = .ok text ∧
      ((ofOptions o).convert d).yaml = .ok yaml ∧ ((ofOptions o).convert e).yaml = .ok yaml := by
  have hd := Document.storable_of_read hread
  obtain ⟨es, hes, rfl⟩ := Resource.json_ok hjson
  obtain ⟨w, hw, hws, hfollow, htext, hagain⟩ := Resource.written_again hes
  have hsettled : w.Settled (ofOptions o).dropped := (settled_workflow _ hd.nodup).of_writes hw
  have hstorable : (⟨w.entries⟩ : Document).Storable :=
    ⟨w.nodup_keys_entries, .of_exact hws (fits_workflow hd hheld)⟩
  have hwritten : ((ofOptions o).convert ⟨w.entries⟩).written = .ok es := by
    rw [convert_entries hsettled hw.name]
    exact hagain
  refine ⟨es, .obj w.entries, ⟨w.entries⟩, Yaml.document es, hes, rfl, hfollow, htext,
    Document.read_text hstorable, ?_, ?_, ?_⟩
  · rw [Resource.json, hwritten]
    rfl
  · rw [Resource.yaml, hes]
    rfl
  · rw [Resource.yaml, hwritten]
    rfl

def limited : Document :=
  ⟨[("settings", .obj [("availableInMCP", .bool true),
    ("limit", .num ⟨false, .ofDigits [1], [5, 0], none⟩)])]⟩

def limitedText : String :=
  "\x7b\"apiVersion\":\"n8n.slys.dev/v1alpha1\",\"kind\":\"N8nWorkflow\"," ++
  "\"metadata\":\x7b\"name\":\"unnamed-workflow\",\"namespace\":\"n8n\"\x7d," ++
  "\"spec\":\x7b\"active\":true,\"workflow\":" ++
  "\x7b\"name\":\"unnamed-workflow\",\"settings\":\x7b\"limit\":1.5\x7d\x7d\x7d\x7d"

theorem convert_again_limited :
    ∃ inner e yaml, (∃ before, limitedText = before ++ Json.text inner ++ "\x7d\x7d") ∧
      Document.read inner.text = .ok e ∧
      ((ofOptions {}).convert e).json = .ok limitedText ∧
      ((ofOptions {}).convert limited).yaml = .ok yaml ∧
      ((ofOptions {}).convert e).yaml = .ok yaml := by
  have hread : Document.read
      "\x7b\"settings\":\x7b\"availableInMCP\":true,\"limit\":1.50\x7d\x7d" = .ok limited := rfl
  have hjson : ((ofOptions {}).convert limited).json = .ok limitedText := by decide +kernel
  have hheld : ∀ es, ((ofOptions {}).convert limited).workflow.settings = some (.obj es) →
      (Entries.keys es).head? ≠ some Json.Reader.numberKey := by
    rintro es ⟨⟩
    decide
  obtain ⟨_, inner, e, yaml, -, -, -, htext, hagain⟩ := convert_again {} hread hjson hheld
  exact ⟨inner, e, yaml, htext, hagain⟩

end Converter

end WorkflowManifest
