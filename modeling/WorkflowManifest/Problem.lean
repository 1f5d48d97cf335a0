import WorkflowManifest.FileSystem.Error
import WorkflowManifest.Json.Exact
import WorkflowManifest.Json.Failure

namespace WorkflowManifest

inductive ReadError where
  | system (error : SystemError)
  | notText
  deriving DecidableEq

def ReadError.message : ReadError → String
  | .system error => error.message
  | .notText => "stream did not contain valid UTF-8"

inductive Problem where
  | unread (path : String) (error : ReadError)
  | unparsed (path : String) (failure : Json.Failure)
  | unwritable (name : String) (error : Json.WriteError)
  | noDirectory (path : String) (error : SystemError)
  | unwritten (path : String) (error : SystemError)
  | unprinted (error : SystemError)
  | keyWithoutSecret (key : String)
  deriving DecidableEq

structure Report where
  message : String
  causes : List String
  deriving DecidableEq

def Problem.report : Problem → Report
  | .unread path error => ⟨s!"Failed to read workflow file: {path}", [error.message]⟩
  | .unparsed path failure => ⟨s!"Failed to parse workflow JSON: {path}", [failure.message]⟩
  | .unwritable name error => ⟨s!"Failed to serialize custom resource: {name}", [error.message]⟩
  | .noDirectory path error => ⟨s!"Failed to create output directory: {path}", [error.message]⟩
  | .unwritten path error => ⟨s!"Failed to write manifest: {path}", [error.message]⟩
  | .unprinted error => ⟨"Failed to write manifest to stdout", [error.message]⟩
  | .keyWithoutSecret key => ⟨s!"API key secret key '{key}' given without a secret name", []⟩

namespace Report

def indent (before : Nat → String) : Nat → Bool → List Char → List Char
  | _, _, [] => []
  | line, fresh, c :: cs =>
    if c = '\n' then '\n' :: indent before (line + 1) true cs
    else (if fresh then (before line).toList else []) ++ c :: indent before line false cs

def indented (before : Nat → String) (text : String) : String :=
  String.ofList (indent before 0 true text.toList)

def uniform (_ : Nat) : String := "    "

def numbered (n line : Nat) : String :=
  if line = 0 then String.ofList (List.replicate (4 - (toString n).length) ' ') ++ s!"{n}: "
  else "      "

def causesText : List String → String
  | [] => ""
  | [cause] => "\n\nCaused by:\n" ++ indented uniform cause
  | causes => "\n\nCaused by:" ++
    String.join (causes.mapIdx fun n cause => "\n" ++ indented (numbered n) cause)

def locationText : Option String → String
  | none => ""
  | some location => "\n\nLocation:\n" ++ indented uniform location

/-- The location is where the report was made, if that is known. -/
def text (r : Report) (location : Option String := none) : String :=
  "Error: " ++ r.message ++ causesText r.causes ++ locationText location ++ "\n"

end Report

end WorkflowManifest
