import WorkflowManifest.Decimal.Digit

/-!
Tables that give every code point from zero on a letter. Code points in a row that share one are a
run, written as the letter and the length of the run; no length means one.
-/

namespace WorkflowManifest.Text

structure Run where
  letter : Char
  length : Nat
  deriving DecidableEq

namespace Run

def readAfter (letter : Char) (length : Nat) : List Char → List Run
  | [] => [⟨letter, max 1 length⟩]
  | c :: cs =>
    match Digit.ofChar? c with
    | some d => readAfter letter (10 * length + d.val) cs
    | none => ⟨letter, max 1 length⟩ :: readAfter c 0 cs

def ofLines (lines : List String) : List Run :=
  match lines.flatMap String.toList with
  | [] => []
  | c :: cs => readAfter c 0 cs

def letterAt? (code : Nat) : List Run → Option Char
  | [] => none
  | r :: rs => if code < r.length then some r.letter else letterAt? (code - r.length) rs

def starts (start : Nat) : List Run → List Nat
  | [] => []
  | r :: rs => start :: starts (start + r.length) rs

end Run

end WorkflowManifest.Text
