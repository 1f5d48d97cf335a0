import WorkflowManifest.Convert
import WorkflowManifest.Proofs.Entries

/-!
Conversion takes its sections out of a document one after the other, and each removal reorders what
the next look-up sees. What comes of it is what look-ups in the untouched document make.
-/

namespace WorkflowManifest

def sectionKeys : List String :=
  ["name", "nodes", "connections", "settings", "staticData", "pinData"]

def Document.sections (d : Document) : Entries String Json :=
  d.entries.filter fun e => e.1 ∈ sectionKeys

def Resource.ofValues (o : Options) (value : String → Option Json) : Resource :=
  let name :=
    match value "name" with
    | none | some .null => "unnamed-workflow"
    | some (.str s) => s
    | some j => j.text
  { name := Slug.slugify name
    inNamespace := o.inNamespace
    active := o.active
    syncPolicy := o.syncPolicy
    instanceRef := o.instanceRef.filter fun r => r ≠ {}
    workflow := {
      name
      nodes := value "nodes"
      connections := value "connections"
      settings := (value "settings").bind (Settings.filter Settings.exportedFields)
      staticData := (value "staticData").filter Json.isTruthy
      pinData := (value "pinData").filter Json.isTruthy } }

theorem InstanceRef.isEmpty_eq (r : InstanceRef) : r.isEmpty = decide (r = {}) := by
  rw [Bool.eq_iff_iff]
  cases r
  simp [isEmpty, and_assoc]

namespace Converter

variable {d e : Document}

theorem workflow_eq (c : Converter) (h : (Entries.keys d.entries).Nodup) :
    c.workflow d = {
      name := workflowName (d.find? "name")
      nodes := d.find? "nodes"
      connections := d.find? "connections"
      settings := (d.find? "settings").bind (Settings.filter c.dropped)
      staticData := (d.find? "staticData").filter Json.isTruthy
      pinData := (d.find? "pinData").filter Json.isTruthy } := by
  have hfind (taken : List String) (key : String) (hkey : key ∉ taken) :
      d.find? key = Entries.find? key (Entries.eraseAll taken d.entries) :=
    (Entries.find?_eraseAll hkey h).symm
  rw [hfind ["name"] "nodes" (by decide), hfind ["name", "nodes"] "connections" (by decide),
    hfind ["name", "nodes", "connections"] "settings" (by decide),
    hfind ["name", "nodes", "connections", "settings"] "staticData" (by decide),
    hfind ["name", "nodes", "connections", "settings", "staticData"] "pinData" (by decide)]
  rfl

theorem convert_eq (o : Options) (h : (Entries.keys d.entries).Nodup) :
    (ofOptions o).convert d = .ofValues o d.find? := by
  have hname : workflowName (d.find? "name") = (Resource.ofValues o d.find?).workflow.name := by
    simp only [workflowName, Resource.ofValues]
    split <;> simp_all [unnamedWorkflow]
  have href : (o.instanceRef.filter fun r => !r.isEmpty) =
      o.instanceRef.filter fun r => r ≠ {} := by
    congr 1
    funext r
    rw [InstanceRef.isEmpty_eq, decide_not]
  simp only [convert, workflow_eq _ h, hname]
  simp only [ofOptions, href]
  rfl

theorem find?_eq_of_sections (hd : (Entries.keys d.entries).Nodup)
    (h : d.sections.Perm e.sections) {key : String} (hkey : key ∈ sectionKeys) :
    e.find? key = d.find? key := by
  have hkeep (d : Document) : Entries.find? key d.sections = d.find? key :=
    Entries.find?_filter (p := fun k => k ∈ sectionKeys) (by simpa using hkey) d.entries
  have hsub : (Entries.keys d.sections).Nodup :=
    Entries.nodup_of_subperm List.filter_sublist.subperm hd
  rw [← hkeep d, ← hkeep e, Entries.find?_perm h hsub]

theorem convert_of_sections (o : Options) (hd : (Entries.keys d.entries).Nodup)
    (he : (Entries.keys e.entries).Nodup) (h : d.sections.Perm e.sections) :
    (ofOptions o).convert e = (ofOptions o).convert d := by
  have hvalue (key : String) (hkey : key ∈ sectionKeys) : e.find? key = d.find? key :=
    find?_eq_of_sections hd h hkey
  rw [convert_eq o hd, convert_eq o he]
  simp only [Resource.ofValues, hvalue "name" (by decide), hvalue "nodes" (by decide),
    hvalue "connections" (by decide), hvalue "settings" (by decide),
    hvalue "staticData" (by decide), hvalue "pinData" (by decide)]

/-- A conversion is made of look-ups in the document as it was. Documents whose entries under the
six keys are the same, in any order and among any others, become the same resource and text. -/
theorem convert_projects (o : Options) {d : Document} (hd : (Entries.keys d.entries).Nodup) :
    (ofOptions o).convert d = .ofValues o d.find? ∧
      ∀ e : Document, (Entries.keys e.entries).Nodup → d.sections.Perm e.sections →
        (ofOptions o).convert e = (ofOptions o).convert d ∧
          ((ofOptions o).convert e).yaml = ((ofOptions o).convert d).yaml := by
  refine ⟨convert_eq o hd, ?_⟩
  intro e he h
  have heq := convert_of_sections o hd he h
  exact ⟨heq, congrArg Resource.yaml heq⟩

def exported : Document :=
  ⟨[("id", .str "x1"), ("name", .str "Orders"), ("nodes", .arr [.null])]⟩

def rearranged : Document :=
  ⟨[("nodes", .arr [.null]), ("tags", .arr []), ("name", .str "Orders")]⟩

theorem convert_projects_rearranged :
    (ofOptions {}).convert exported = .ofValues {} exported.find? ∧
      (ofOptions {}).convert rearranged = (ofOptions {}).convert exported ∧
      ((ofOptions {}).convert rearranged).yaml = ((ofOptions {}).convert exported).yaml := by
  have hexported : (Entries.keys exported.entries).Nodup := by decide
  have hrearranged : (Entries.keys rearranged.entries).Nodup := by decide
  have hperm : exported.sections.Perm rearranged.sections := .swap _ _ []
  obtain ⟨hvalues, hsame⟩ := convert_projects {} hexported
  exact ⟨hvalues, hsame rearranged hrearranged hperm⟩

end Converter

end WorkflowManifest
