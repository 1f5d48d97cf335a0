import WorkflowManifest.Proofs.Convert.Projection
import WorkflowManifest.Proofs.Json.Same

namespace WorkflowManifest

open Json (SameOption)

namespace Document

variable {d e : Document}

theorem same_iff (hd : (Entries.keys d.entries).Nodup) (he : (Entries.keys e.entries).Nodup) :
    d.same e ↔ ∀ key, SameOption (d.find? key) (e.find? key) :=
  Json.same_obj_iff hd he

theorem find?_take (hd : (Entries.keys d.entries).Nodup) (key l : String) :
    (d.take key).2.find? l = if l = key then none else d.find? l :=
  Entries.find?_erase hd key l

theorem take_of_same (hd : (Entries.keys d.entries).Nodup) (he : (Entries.keys e.entries).Nodup)
    (h : d.same e) (key : String) :
    SameOption (d.take key).1 (e.take key).1 ∧ (d.take key).2.same (e.take key).2 := by
  have hfind := (same_iff hd he).1 h
  refine ⟨hfind key, ?_⟩
  refine (same_iff (d := (d.take key).2) (e := (e.take key).2)
    (Entries.nodup_keys_erase hd key) (Entries.nodup_keys_erase he key)).2 ?_
  intro l
  rw [find?_take hd, find?_take he]
  split
  · trivial
  · exact hfind l

theorem nodup_keys (hd : (Json.obj d.entries).WellFormed) : (Entries.keys d.entries).Nodup :=
  (Json.wellFormed_obj_iff.1 hd).1

theorem wellFormed_of_find? (hd : (Json.obj d.entries).WellFormed) {key : String} {x : Json}
    (h : d.find? key = some x) : x.WellFormed := by
  obtain ⟨hkeys, hvalues⟩ := Json.wellFormed_obj_iff.1 hd
  exact hvalues _ ((Entries.find?_eq_some_iff hkeys).1 h)

end Document

def PlainName : Option Json → Prop
  | some (.arr _) | some (.obj _) => False
  | _ => True

theorem workflowName_of_same {x y : Option Json} (h : SameOption x y) (hx : PlainName x) :
    workflowName x = workflowName y := by
  cases x with
  | none => cases y <;> simp_all [SameOption]
  | some x =>
    cases y with
    | none => cases h
    | some y =>
      rw [SameOption] at h
      cases x <;> cases y <;> simp_all [Json.same, PlainName]

example : workflowName (some (.obj [("a", .null), ("b", .null)])) ≠
    workflowName (some (.obj [("b", .null), ("a", .null)])) := by
  decide +kernel

structure Resource.SameButNames (r s : Resource) : Prop where
  inNamespace : r.inNamespace = s.inNamespace
  active : r.active = s.active
  syncPolicy : r.syncPolicy = s.syncPolicy
  instanceRef : r.instanceRef = s.instanceRef
  nodes : SameOption r.workflow.nodes s.workflow.nodes
  connections : SameOption r.workflow.connections s.workflow.connections
  settings : SameOption r.workflow.settings s.workflow.settings
  staticData : SameOption r.workflow.staticData s.workflow.staticData
  pinData : SameOption r.workflow.pinData s.workflow.pinData

namespace Converter

variable {d e : Document}

theorem settings_of_same (c : Converter) {x y : Option Json}
    (hx : ∀ j, x = some j → j.WellFormed) (hy : ∀ j, y = some j → j.WellFormed)
    (h : SameOption x y) :
    SameOption (x.bind (Settings.filter c.dropped)) (y.bind (Settings.filter c.dropped)) := by
  cases x with
  | none => cases y <;> simp_all [SameOption]
  | some x =>
    cases y with
    | none => cases h
    | some y => exact Json.filter_of_same c.dropped (hx x rfl) (hy y rfl) h

theorem convert_of_same (c : Converter) (hd : (Json.obj d.entries).WellFormed)
    (he : (Json.obj e.entries).WellFormed) (h : d.same e) :
    (c.convert d).SameButNames (c.convert e) := by
  have hdkeys := Document.nodup_keys hd
  have hekeys := Document.nodup_keys he
  have hfind := (Document.same_iff hdkeys hekeys).1 h
  have htruthy : ∀ x y : Json, x.same y → x.isTruthy = y.isTruthy :=
    fun _ _ => Json.isTruthy_of_same
  simp only [convert, workflow_eq c hdkeys, workflow_eq c hekeys]
  exact
    { inNamespace := rfl
      active := rfl
      syncPolicy := rfl
      instanceRef := rfl
      nodes := hfind "nodes"
      connections := hfind "connections"
      settings := c.settings_of_same (fun _ => Document.wellFormed_of_find? hd)
        (fun _ => Document.wellFormed_of_find? he) (hfind "settings")
      staticData := (hfind "staticData").filter htruthy
      pinData := (hfind "pinData").filter htruthy }

theorem names_of_same (c : Converter) (hd : (Entries.keys d.entries).Nodup)
    (he : (Entries.keys e.entries).Nodup) (h : d.same e) (hname : PlainName (d.find? "name")) :
    (c.convert d).name = (c.convert e).name ∧
      (c.convert d).workflow.name = (c.convert e).workflow.name := by
  have heq := workflowName_of_same ((Document.same_iff hd he).1 h "name") hname
  simp only [convert, workflow_eq c hd, workflow_eq c he]
  exact ⟨congrArg Slug.slugify heq, heq⟩

end Converter

/-- Equal documents stay equal, whatever key is taken, and become resources that are equal in all
but their names, and in their names as well where the name is plain. -/
theorem same_respected {d e : Document} (hd : (Json.obj d.entries).WellFormed)
    (he : (Json.obj e.entries).WellFormed) (h : d.same e) :
    (∀ key, SameOption (d.take key).1 (e.take key).1 ∧ (d.take key).2.same (e.take key).2) ∧
      ∀ c : Converter,
        (c.convert d).SameButNames (c.convert e) ∧
          (PlainName (d.find? "name") →
            (c.convert d).name = (c.convert e).name ∧
              (c.convert d).workflow.name = (c.convert e).workflow.name) := by
  have hdkeys := Document.nodup_keys hd
  have hekeys := Document.nodup_keys he
  constructor
  · exact Document.take_of_same hdkeys hekeys h
  · intro c
    exact ⟨c.convert_of_same hd he h, c.names_of_same hdkeys hekeys h⟩

namespace Document

def ordered : Document :=
  ⟨[("name", .str "Orders"), ("nodes", .arr []),
    ("settings", .obj [("timezone", .str "UTC"), ("executionOrder", .str "v1")])]⟩

def reordered : Document :=
  ⟨[("settings", .obj [("executionOrder", .str "v1"), ("timezone", .str "UTC")]),
    ("name", .str "Orders"), ("nodes", .arr [])]⟩

theorem same_respected_reordered :
    (ordered.take "name").2.same (reordered.take "name").2 ∧
      ∀ c : Converter,
        (c.convert ordered).SameButNames (c.convert reordered) ∧
          (c.convert ordered).name = (c.convert reordered).name := by
  have hordered : (Json.obj ordered.entries).WellFormed := by
    simp [ordered, Json.WellFormed, Json.WellFormedItems, Json.WellFormedEntries, Entries.keys]
  have hreordered : (Json.obj reordered.entries).WellFormed := by
    simp [reordered, Json.WellFormed, Json.WellFormedEntries, Json.WellFormedItems, Entries.keys]
  have hsame : ordered.same reordered := by decide +kernel
  obtain ⟨htake, hconvert⟩ := same_respected hordered hreordered hsame
  refine ⟨(htake "name").2, ?_⟩
  intro c
  obtain ⟨hfields, hnames⟩ := hconvert c
  exact ⟨hfields, (hnames trivial).1⟩

end Document

end WorkflowManifest
