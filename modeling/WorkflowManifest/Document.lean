import WorkflowManifest.Json.Reader
import WorkflowManifest.Json.Printer
import WorkflowManifest.Json.Rebuilt

namespace WorkflowManifest

structure Document where
  entries : Entries String Json

namespace Document

def empty : Document := ⟨[]⟩

def ofEntries (es : Entries String Json) : Document := ⟨es⟩

/-- What a value that stands alone is called when it should have been an object. -/
def detachedKind : Json → Json.Kind
  | .num _ => .number
  | j => j.kind

/-- The values of the object are read once more on the way. -/
def ofJson : Json → Except Json.Cause Document
  | .obj es => .ok ⟨Json.rebuiltEntries es⟩
  | j => .error (.wrongType (detachedKind j) .map)

def readEntries (text : String) : Except Json.Failure (Entries String Json) :=
  match Json.Reader.readFrom (.value .document) text.toList with
  | .error f => .error f
  | .ok (.obj es) => .ok es
  | .ok j => .error ⟨.wrongType j.kind .map, Position.start.after text.toList⟩

def read (text : String) : Except Json.Failure Document := (readEntries text).map ofEntries

def text (d : Document) : String := (Json.obj d.entries).text

def size (d : Document) : Nat := d.entries.length

def isEmpty (d : Document) : Bool := d.entries.isEmpty

def find? (d : Document) (key : String) : Option Json := d.entries.find? key

/-- The value of a key, and the document without it: its last entry moves into the hole. -/
def take (d : Document) (key : String) : Option Json × Document :=
  (d.find? key, ⟨d.entries.erase key⟩)

def same (d e : Document) : Bool := (Json.obj d.entries).same (.obj e.entries)

end Document

end WorkflowManifest
