import WorkflowManifest.Json.Exact
import WorkflowManifest.Json.Printer
import WorkflowManifest.Yaml.Block

namespace WorkflowManifest

def apiVersion : String := "n8n.slys.dev/v1alpha1"

def resourceKind : String := "N8nWorkflow"

def defaultNamespace : String := "n8n"

inductive SyncPolicy where
  | always
  | createOnly
  | manual
  deriving DecidableEq

namespace SyncPolicy

def all : List SyncPolicy := [.always, .createOnly, .manual]

def name : SyncPolicy → String
  | .always => "Always"
  | .createOnly => "CreateOnly"
  | .manual => "Manual"

end SyncPolicy

structure SecretKey where
  name : String
  key : Option String
  deriving DecidableEq

structure InstanceRef where
  url : Option String := none
  name : Option String := none
  inNamespace : Option String := none
  port : Option UInt16 := none
  secret : Option SecretKey := none
  deriving DecidableEq

namespace InstanceRef

def isEmpty (r : InstanceRef) : Bool :=
  r.url.isNone && r.name.isNone && r.inNamespace.isNone && r.port.isNone && r.secret.isNone

end InstanceRef

structure Options where
  inNamespace : String := defaultNamespace
  active : Bool := true
  syncPolicy : Option SyncPolicy := none
  instanceRef : Option InstanceRef := none
  deriving DecidableEq

/-- The sections of a workflow that a resource keeps. A section that is there may be null. -/
structure Workflow where
  name : String
  nodes : Option Json := none
  connections : Option Json := none
  settings : Option Json := none
  staticData : Option Json := none
  pinData : Option Json := none

structure Resource where
  name : String
  inNamespace : String
  active : Bool
  syncPolicy : Option SyncPolicy
  instanceRef : Option InstanceRef
  workflow : Workflow

def optionalEntry (key : String) : Option Json → List (String × Json)
  | none => []
  | some j => [(key, j)]

def Json.ofNat (n : Nat) : Json := .num { negative := false, whole := .ofDigits (Digit.ofNat n) }

def SecretKey.tree (s : SecretKey) : Json :=
  .obj (("name", .str s.name) :: optionalEntry "key" (s.key.map .str))

def InstanceRef.tree (r : InstanceRef) : Json :=
  .obj (optionalEntry "url" (r.url.map .str) ++ optionalEntry "name" (r.name.map .str) ++
    optionalEntry "namespace" (r.inNamespace.map .str) ++
    optionalEntry "port" (r.port.map fun p => .ofNat p.toNat) ++
    optionalEntry "secretRef" (r.secret.map SecretKey.tree))

def Workflow.entries (w : Workflow) : List (String × Json) :=
  ("name", .str w.name) :: optionalEntry "nodes" w.nodes ++
    optionalEntry "connections" w.connections ++ optionalEntry "settings" w.settings ++
    optionalEntry "staticData" w.staticData ++ optionalEntry "pinData" w.pinData

namespace Resource

def headEntries (r : Resource) : List (String × Json) :=
  ("active", .bool r.active) ::
    optionalEntry "syncPolicy" (r.syncPolicy.map fun p => .str p.name) ++
    optionalEntry "n8nRef" (r.instanceRef.map InstanceRef.tree)

/-- The manifest layout, numbers not yet made exact. -/
def entries (r : Resource) : List (String × Json) :=
  [("apiVersion", .str apiVersion), ("kind", .str resourceKind),
    ("metadata", .obj [("name", .str r.name), ("namespace", .str r.inNamespace)]),
    ("spec", .obj (r.headEntries ++ [("workflow", .obj r.workflow.entries)]))]

def written (r : Resource) : Except Json.WriteError (List (String × Json)) :=
  Json.exactEntries r.entries

def yaml (r : Resource) : Except Json.WriteError String := r.written.map Yaml.document

def json (r : Resource) : Except Json.WriteError String :=
  r.written.map fun es => (Json.obj es).text

end Resource

end WorkflowManifest
