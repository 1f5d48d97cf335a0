import WorkflowManifest.Decimal.Digit
import WorkflowManifest.Pattern.Cursor
import WorkflowManifest.Text.Hex

namespace WorkflowManifest.Pattern

inductive Atom where
  | literal (l : Literal)
  | dot (extent : Extent)
  | assertion (extent : Extent) (kind : Assertion)
  | plain (c : PlainClass)
  deriving DecidableEq

namespace Atom

def extent : Atom → Extent
  | .literal l => l.extent
  | .dot e => e
  | .assertion e _ => e
  | .plain c => c.extent

def node : Atom → Node
  | .literal l => .literal l
  | .dot e => .dot e
  | .assertion e k => .assertion e k
  | .plain c => .plain c

end Atom

def isSpecial (c : Char) : Bool := "\\.+*?()|[]\x7b\x7d^$#&-~".toList.contains c

def isEscapable (c : Char) : Bool :=
  isSpecial c || (c.toNat < 0x80 && !c.isAlphanum && c ≠ '<' && c ≠ '>')

def controlOf? : Char → Option Char
  | 'a' => some '\x07'
  | 'f' => some '\x0c'
  | 't' => some '\t'
  | 'n' => some '\n'
  | 'r' => some '\r'
  | 'v' => some '\x0b'
  | _ => none

def assertionOf? : Char → Option Assertion
  | 'A' => some .textStart
  | 'z' => some .textEnd
  | 'b' => some .wordBoundary
  | 'B' => some .notWordBoundary
  | '<' => some .wordStart
  | '>' => some .wordEnd
  | _ => none

def letterClassOf? : Char → Option (Bool × LetterClass)
  | 'd' => some (false, .digit)
  | 'D' => some (true, .digit)
  | 's' => some (false, .space)
  | 'S' => some (true, .space)
  | 'w' => some (false, .word)
  | 'W' => some (true, .word)
  | _ => none

def boundaryOf? (name : String) : Option Assertion :=
  if name = "start" then some .wordStart
  else if name = "end" then some .wordEnd
  else if name = "start-half" then some .wordStartHalf
  else if name = "end-half" then some .wordEndHalf
  else none

def hexLengthOf? : Char → Option Nat
  | 'x' => some 2
  | 'u' => some 4
  | 'U' => some 8
  | _ => none

def charOf? (code : Nat) : Option Char :=
  if h : code.isValidChar then some (Char.ofNatAux code h) else none

def cutAt? (mark : List Char) : List Char → Option (List Char × List Char)
  | [] => none
  | c :: cs =>
    if mark.isPrefixOf (c :: cs) then some ([], (c :: cs).drop mark.length)
    else (cutAt? mark cs).map fun (before, after) => (c :: before, after)

def queryOf (name : List Char) : PropertyQuery × Bool :=
  match cutAt? ['!', '='] name with
  | some (p, v) => (.valued (String.ofList p) (String.ofList v), true)
  | none =>
    match (cutAt? [':'] name).or (cutAt? ['='] name) with
    | some (p, v) => (.valued (String.ofList p) (String.ofList v), false)
    | none => (.named (String.ofList name), false)

namespace Reader

def isHex (c : Char) : Bool := (Text.hexValue? c).isSome

def hexDigits : Nat → Reader (List Char)
  | 0 => return []
  | n + 1 => do
    match ← current? with
    | none => failHere .escapeUnfinished
    | some c =>
      if isHex c then
        nextSolid
        return c :: (← hexDigits n)
      else failAtCharacter .hexInvalidDigit

def hexFixed (start length : Nat) : Reader Literal := do
  let first ← offset
  let digits ← hexDigits length
  match charOf? (Text.hexNumber digits) with
  | some char => return { extent := ← since start, char, byte := length = 2 }
  | none => failSince .hexInvalid first

def hexBraced (start : Nat) : Reader Literal := do
  let brace ← offset
  nextSolid
  let digits ← takeSolid isHex
  match ← current? with
  | none => failSince .escapeUnfinished brace
  | some '\x7d' =>
    let stop ← offset
    nextSolid
    if digits.isEmpty then failSince .hexEmpty brace
    else match charOf? (Text.hexNumber digits) with
      | some char => return { extent := ← since start, char }
      | none => fail .hexInvalid ⟨brace + 1, stop⟩
  | some _ => failAtCharacter .hexInvalidDigit

def hex (start length : Nat) : Reader Literal := do
  nextSolid
  match ← current? with
  | none => failHere .escapeUnfinished
  | some '\x7b' => hexBraced start
  | some _ => hexFixed start length

def property (start : Nat) (capital : Bool) : Reader PlainClass := do
  nextSolid
  match ← current? with
  | none => failHere .escapeUnfinished
  | some '\\' => failAtCharacter .unicodeClassInvalid
  | some '\x7b' =>
    nextSolid
    let name ← takeSolid (· ≠ '\x7d')
    match ← current? with
    | none => failHere .escapeUnfinished
    | some _ =>
      next
      let (query, contrary) := queryOf name
      return .property (← since start) (capital != contrary) query
  | some c =>
    nextSolid
    return .property (← since start) capital (.named (String.singleton c))

def specialBoundary? (start : Nat) : Reader (Option Assertion) := do
  let before ← get
  nextSolid
  let first ← offset
  let fits := fun (c : Char) => c.isAlpha || c = '-'
  match ← current? with
  | none => failSince .boundaryOrRepetitionUnfinished start
  | some c =>
    if fits c then
      let name ← takeSolid fits
      if (← current?) = some '\x7d' then
        let stop ← offset
        next
        match boundaryOf? (String.ofList name) with
        | some kind => return some kind
        | none => fail .boundaryUnrecognized ⟨first, stop⟩
      else failSince .boundaryUnclosed before.offset
    else
      set before
      return none

def assertion (start : Nat) (kind : Assertion) : Reader Atom := do
  if kind = .wordBoundary && (← current?) = some '\x7b' then
    let plain ← since start
    match ← specialBoundary? start with
    | some special => return .assertion (← since start) special
    | none => return .assertion plain kind
  else return .assertion (← since start) kind

def shortEscape (start : Nat) (c : Char) : Reader Atom := do
  next
  if isEscapable c then return .literal { extent := ← since start, char := c }
  else match controlOf? c, assertionOf? c with
    | some char, _ => return .literal { extent := ← since start, char }
    | none, some kind => assertion start kind
    | none, none => failSince .escapeUnrecognized start

def escape : Reader Atom := do
  let start ← offset
  next
  match ← current? with
  | none => failSince .escapeUnfinished start
  | some c =>
    if c.isDigit then fail .backreference ⟨start, (← offset) + 1⟩
    else match hexLengthOf? c, letterClassOf? c with
      | some length, _ => return .literal (← hex start length)
      | none, some (negated, kind) =>
        next
        return .plain (.letter (← since start) negated kind)
      | none, none =>
        if c = 'p' || c = 'P' then return .plain (← property start (c = 'P'))
        else shortEscape start c

def verbatim (char : Char) : Reader Literal := do
  let start ← offset
  next
  return { extent := ← since start, char }

def atom (c : Char) : Reader Atom := do
  let start ← offset
  match c with
  | '\\' => escape
  | '.' =>
    next
    return .dot (← since start)
  | '^' =>
    next
    return .assertion (← since start) .lineStart
  | '$' =>
    next
    return .assertion (← since start) .lineEnd
  | c => return .literal (← verbatim c)

end Reader

end WorkflowManifest.Pattern
