import WorkflowManifest.Log.Event
import WorkflowManifest.Pattern.Basic
import WorkflowManifest.Text.Blank
import WorkflowManifest.Text.Split

/-!
Which events are shown. A specification lists levels for parts of the program;
of those that fit an event the one with the longest name decides.
-/

namespace WorkflowManifest

structure Directive where
  name : Option String
  level : Option Level
  deriving DecidableEq

structure LogFilter where
  directives : List Directive
  pattern : Option Pattern.Expr := none
  warnings : List String := []
  deriving DecidableEq

namespace LogFilter

def trimmed (s : String) : String :=
  let cs := s.toList.dropWhile Text.isBlank
  String.ofList (cs.reverse.dropWhile Text.isBlank).reverse

def level? (s : String) : Option (Option Level) :=
  let name := s.toList.map Char.toUpper
  if name = "OFF".toList then some none
  else ([Level.error, .warn, .info, .debug, .trace].find? (·.name.toList = name)).map some

inductive Reading where
  | nothing
  | directive (d : Directive)
  | invalid (text : String)

def readDirective (text : String) : Reading :=
  if text.isEmpty then .nothing
  else match Text.pieces '=' text with
    | [word] =>
      match level? word with
      | some level => .directive ⟨none, level⟩
      | none => .directive ⟨some word, some .trace⟩
    | [name, value] =>
      let value := trimmed value
      if value.isEmpty then .directive ⟨some name, some .trace⟩
      else match level? value with
        | some level => .directive ⟨some name, level⟩
        | none => .invalid value
    | _ => .invalid text

def insert (d : Directive) : List Directive → List Directive
  | [] => [d]
  | e :: es => if e.name = d.name then d :: es else e :: insert d es

def warning (text : String) : String := s!"warning: {text}, ignoring it"

def warn (f : LogFilter) (text : String) : LogFilter :=
  { f with warnings := f.warnings ++ [warning text] }

def add (f : LogFilter) (text : String) : LogFilter :=
  match readDirective (trimmed text) with
  | .nothing => f
  | .directive d => { f with directives := insert d f.directives }
  | .invalid text => f.warn s!"invalid logging spec '{text}'"

def withDefault (f : LogFilter) : LogFilter :=
  if f.directives.isEmpty then { f with directives := [⟨none, some .error⟩] } else f

def addPattern (f : LogFilter) (text : String) : LogFilter :=
  match Pattern.read text with
  | .ok e => { f with pattern := some e }
  | .error r => f.warn ("invalid regex filter - " ++ r.text text)

def ofDirectives (text : String) : LogFilter := (Text.pieces ',' text).foldl add ⟨[], none, []⟩

/-- After a slash stands a pattern that messages have to match somewhere. -/
def ofText (spec : String) : LogFilter :=
  match Text.pieces '/' spec with
  | [directives] => (ofDirectives directives).withDefault
  | [directives, pattern] => ((ofDirectives directives).addPattern pattern).withDefault
  | _ => (warn ⟨[], none, []⟩ s!"invalid logging spec '{spec}' (too many '/'s)").withDefault

def fits (source : String) (d : Directive) : Bool :=
  match d.name with
  | none => true
  | some name => name.toList.isPrefixOf source.toList

def nameLength (d : Directive) : Nat := (d.name.map String.utf8ByteSize).getD 0

def deciding (source : String) (directives : List Directive) : Option Directive :=
  (directives.filter (fits source)).foldl (fun best d =>
    match best with
    | none => some d
    | some b => if nameLength b ≤ nameLength d then some d else some b) none

def shows (f : LogFilter) (e : Event) : Bool :=
  (match deciding e.source f.directives with
  | some ⟨_, some level⟩ => e.level.weight ≤ level.weight
  | _ => false) &&
  f.pattern.all (·.occursIn e.colouredText)

end LogFilter

end WorkflowManifest
