import WorkflowManifest.Text.Hex
import WorkflowManifest.Text.Split

/-!
Ranges of code points, written in hexadecimal digits with blanks between them: `5F` is one code
point, `41-5A` a range, and `100-12E/2` every second one of a range.
-/

namespace WorkflowManifest.Text

structure CodeRange where
  first : Nat
  last : Nat
  step : Nat
  deriving DecidableEq

namespace CodeRange

def has (r : CodeRange) (code : Nat) : Bool :=
  r.first ≤ code && code ≤ r.last && (code - r.first) % r.step = 0

def ofEnds (step : Nat) (ends : List Char) : CodeRange :=
  match split '-' ends with
  | [first, last] => ⟨hexNumber first, hexNumber last, step⟩
  | _ => ⟨hexNumber ends, hexNumber ends, step⟩

def ofWord (word : List Char) : CodeRange :=
  match split '/' word with
  | [ends, step] => ofEnds (hexNumber step) ends
  | _ => ofEnds 1 word

def ofText (text : String) : List CodeRange := (split ' ' text.toList).map ofWord

def edges (r : CodeRange) : List Nat :=
  if r.step = 1 then [r.first, r.last + 1]
  else (List.range ((r.last - r.first) / r.step + 1)).flatMap fun n =>
    [r.first + n * r.step, r.first + n * r.step + 1]

end CodeRange

end WorkflowManifest.Text
