import WorkflowManifest.Pattern.Syntax
import WorkflowManifest.Text.Blank

namespace WorkflowManifest.Pattern

/-- What is left of the pattern, how much came before, whether white space and comments are passed
over, and the group names so far. -/
structure Cursor where
  rest : List Char
  offset : Nat := 0
  ignoreSpace : Bool := false
  names : List (String × Extent) := []

def afterSpace (inComment : Bool) : List Char → List Char
  | [] => []
  | c :: cs =>
    if inComment then afterSpace (c ≠ '\n') cs
    else if Text.isBlank c then afterSpace false cs
    else if c = '#' then afterSpace true cs
    else c :: cs

def firstSolid? (afterSign : Bool) : List Char → Option Char
  | [] => none
  | c :: cs =>
    if Text.isBlank c then firstSolid? afterSign cs
    else if !afterSign && c = '#' then firstSolid? true cs
    else some c

namespace Cursor

def ofText (pattern : String) : Cursor := { rest := pattern.toList }

def next (k : Cursor) : Cursor :=
  match k.rest with
  | [] => k
  | _ :: cs => { k with rest := cs, offset := k.offset + 1 }

def passSpace (k : Cursor) : Cursor :=
  if k.ignoreSpace then
    let rest := afterSpace false k.rest
    { k with rest, offset := k.offset + (k.rest.length - rest.length) }
  else k

def second? (k : Cursor) : Option Char := k.rest.tail.head?

def secondSolid? (k : Cursor) : Option Char :=
  if k.ignoreSpace then (firstSolid? false k.rest.tail).or k.second? else k.second?

end Cursor

abbrev Reader := StateT Cursor (Except Failure)

namespace Reader

def current? : Reader (Option Char) := do return (← get).rest.head?

def offset : Reader Nat := do return (← get).offset

def next : Reader Unit := modify Cursor.next

def passSpace : Reader Unit := modify Cursor.passSpace

def nextSolid : Reader Unit := do
  next
  passSpace

def fail (cause : Cause) (e : Extent) : Reader α := throw { cause, extent := e }

def since (start : Nat) : Reader Extent := do return ⟨start, ← offset⟩

def failSince (cause : Cause) (start : Nat) : Reader α := do fail cause (← since start)

def failHere (cause : Cause) : Reader α := do failSince cause (← offset)

def failAtCharacter (cause : Cause) : Reader α := do
  let o ← offset
  fail cause ⟨o, o + 1⟩

def takeWhile (fits : Char → Bool) (move : Reader Unit) : Nat → Reader (List Char)
  | 0 => return []
  | fuel + 1 => do
    match ← current? with
    | none => return []
    | some c =>
      if fits c then
        move
        return c :: (← takeWhile fits move fuel)
      else return []

def fuel : Reader Nat := do return (← get).rest.length + 1

def takeSolid (fits : Char → Bool) : Reader (List Char) := do takeWhile fits nextSolid (← fuel)

def take (fits : Char → Bool) : Reader (List Char) := do takeWhile fits next (← fuel)

end Reader

end WorkflowManifest.Pattern
