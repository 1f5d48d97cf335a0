import WorkflowManifest.Document
import WorkflowManifest.Log.Event
import WorkflowManifest.Resource
import WorkflowManifest.Settings

/-!
From an export to a resource. Nodes and connections are kept whenever they are there, settings if
the filter leaves any, static and pinned data if they count as something.
-/

namespace WorkflowManifest

def unnamedWorkflow : String := "unnamed-workflow"

def workflowName : Option Json → String
  | none | some .null => unnamedWorkflow
  | some (.str s) => s
  | some j => j.text

structure Converter where
  options : Options := {}
  dropped : List String := Settings.exportedFields

namespace Converter

def ofOptions (options : Options) : Converter := { options }

def ofNamespace (inNamespace : String) (active : Bool) : Converter :=
  { options := { inNamespace, active } }

/-- The sections are taken one after the other, each from what the ones before it left. -/
def workflow (c : Converter) (d : Document) : Workflow :=
  let (name, d) := d.take "name"
  let (nodes, d) := d.take "nodes"
  let (connections, d) := d.take "connections"
  let (settings, d) := d.take "settings"
  let (staticData, d) := d.take "staticData"
  let (pinData, _) := d.take "pinData"
  { name := workflowName name
    nodes
    connections
    settings := settings.bind (Settings.filter c.dropped)
    staticData := staticData.filter Json.isTruthy
    pinData := pinData.filter Json.isTruthy }

def convert (c : Converter) (d : Document) : Resource :=
  let workflow := c.workflow d
  { name := Slug.slugify workflow.name
    inNamespace := c.options.inNamespace
    active := c.options.active
    syncPolicy := c.options.syncPolicy
    instanceRef := c.options.instanceRef.filter fun r => !r.isEmpty
    workflow }

end Converter

def nameKindEvents : Option Json → List Event
  | none | some .null | some (.str _) => []
  | some j => [.nameNotString j]

def resourceNameEvents (name : String) : List Event :=
  let slug := Slug.normalize name
  if slug.isEmpty then [.nameUnusable name]
  else if Slug.maxLength < slug.length then [.nameTruncated slug]
  else []

def Workflow.sections (w : Workflow) : Sections where
  nodes := w.nodes.isSome
  connections := w.connections.isSome
  settings := w.settings.isSome
  staticData := w.staticData.isSome
  pinData := w.pinData.isSome

def Converter.events (c : Converter) (d : Document) : List Event :=
  let resource := c.convert d
  nameKindEvents (d.find? "name") ++ resourceNameEvents resource.workflow.name ++
    [.converted resource.name resource.workflow.sections]

end WorkflowManifest
