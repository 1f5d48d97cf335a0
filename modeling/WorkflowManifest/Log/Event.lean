import WorkflowManifest.Json.Printer
import WorkflowManifest.Slug
import WorkflowManifest.Text.Quoted

namespace WorkflowManifest

inductive Level where
  | error
  | warn
  | info
  | debug
  | trace
  deriving DecidableEq

namespace Level

def name : Level → String
  | .error => "ERROR"
  | .warn => "WARN"
  | .info => "INFO"
  | .debug => "DEBUG"
  | .trace => "TRACE"

def weight : Level → Nat
  | .error => 1
  | .warn => 2
  | .info => 3
  | .debug => 4
  | .trace => 5

end Level

inductive Colour where
  | default
  | gray
  | cyan
  deriving DecidableEq

structure Span where
  colour : Colour
  text : String
  deriving DecidableEq

namespace Span

def plain (text : String) : Span := ⟨.default, text⟩
def gray (text : String) : Span := ⟨.gray, text⟩
def cyan (text : String) : Span := ⟨.cyan, text⟩

def coloured (s : Span) : String :=
  match s.colour with
  | .default => s.text
  | .gray => "\x1b[90m" ++ s.text ++ "\x1b[39m"
  | .cyan => "\x1b[36m" ++ s.text ++ "\x1b[39m"

end Span

structure Sections where
  nodes : Bool
  connections : Bool
  settings : Bool
  staticData : Bool
  pinData : Bool
  deriving DecidableEq

def Sections.text (s : Sections) : String :=
  s!": nodes={s.nodes} connections={s.connections} settings={s.settings} " ++
    s!"staticData={s.staticData} pinData={s.pinData}"

inductive Event where
  | nameNotString (value : Json)
  | nameUnusable (name : String)
  | nameTruncated (name : String)
  | converted (name : String) (sections : Sections)
  | extracting
  | extracted (count : Nat)
  | nothingExtracted
  | transforming
  | loading
  | loaded (count : Nat)
  | reading (path : String)
  | parsed (keys : Nat)
  | wrote (path : String)
  | converting (path : String) (active : Bool) (inNamespace : String)
  | finished (count : Nat)

namespace Event

def level : Event → Level
  | .nameNotString _ | .nameUnusable _ | .nameTruncated _ | .nothingExtracted => .warn
  | .wrote _ | .converting _ _ _ | .finished _ => .info
  | _ => .debug

def source : Event → String
  | .nameNotString _ | .nameUnusable _ | .nameTruncated _ | .converted _ _ =>
    "n8n_workflow_converter::transform::converter"
  | .extracting | .extracted _ | .nothingExtracted | .transforming | .loading | .loaded _ =>
    "n8n_workflow_converter::etl::pipeline"
  | .reading _ | .parsed _ => "n8n_workflow_converter::storage::workflow_file"
  | .wrote _ => "n8n_workflow_converter::storage::manifest_writer"
  | .converting _ _ _ | .finished _ => "n8n_workflow_converter::cli"

def spans : Event → List Span
  | .nameNotString value => [.plain s!"Workflow name is not a string, using {value.text}"]
  | .nameUnusable name =>
    [.plain (s!"Workflow name {Text.quoted name} has no usable characters, " ++
      "metadata.name will be empty")]
  | .nameTruncated name =>
    [.plain "Resource name ", .gray name, .plain s!" truncated to {Slug.maxLength} characters"]
  | .converted name sections => [.plain "Workflow ", .gray name, .plain sections.text]
  | .extracting => [.plain "Extracting from source..."]
  | .extracted count => [.plain s!"Extracted {count} item(s)"]
  | .nothingExtracted => [.plain "No items extracted, nothing to write"]
  | .transforming => [.plain "Transforming items..."]
  | .loading => [.plain "Loading to destination..."]
  | .loaded count => [.plain s!"Loaded {count} item(s)"]
  | .reading path => [.plain "Reading workflow file: ", .gray path]
  | .parsed keys => [.plain s!"Parsed workflow with {keys} top-level key(s)"]
  | .wrote path => [.plain "Wrote manifest to ", .gray path]
  | .converting path active inNamespace =>
    [.plain "Converting ", .gray path, .plain " into ",
      .cyan (if active then "active" else "inactive"), .plain " namespace ", .gray inNamespace]
  | .finished count => [.plain s!"✓ Converted {count} workflow(s)"]

def colouredText (e : Event) : String := String.join (e.spans.map Span.coloured)

end Event

end WorkflowManifest
