import WorkflowManifest.Decimal.Digit
import WorkflowManifest.Json.Failure

/-!
Number literals. A literal is kept as written, down to trailing zeros and the digits of its
exponent; only the spelling of the exponent mark is not kept.
-/

namespace WorkflowManifest.Json

inductive Whole where
  | zero
  | lead (first : Fin 9) (rest : List Digit)
  deriving DecidableEq

namespace Whole

def digits : Whole → List Digit
  | .zero => [0]
  | .lead first rest => first.succ :: rest

def ofDigit (d : Digit) : Whole :=
  if h : d = 0 then .zero else .lead (d.pred h) []

def push? : Whole → Digit → Option Whole
  | .zero, _ => none
  | .lead first rest, d => some (.lead first (rest ++ [d]))

end Whole

structure Exponent where
  negative : Bool
  first : Digit
  rest : List Digit
  deriving DecidableEq

/-- A literal without a fraction has no fraction digits: a point is never written alone. -/
structure Number where
  negative : Bool
  whole : Whole
  fraction : List Digit := []
  exponent : Option Exponent := none
  deriving DecidableEq

def Exponent.charsWith (plus : List Char) (e : Exponent) : List Char :=
  'e' :: (if e.negative then ['-'] else plus) ++ (e.first :: e.rest).map Digit.char

namespace Number

def fractionChars : List Digit → List Char
  | [] => []
  | ds => '.' :: ds.map Digit.char

def exponentChars (plus : List Char) : Option Exponent → List Char
  | none => []
  | some e => e.charsWith plus

def charsWith (plus : List Char) (n : Number) : List Char :=
  (if n.negative then ['-'] else []) ++ n.whole.digits.map Digit.char ++
    fractionChars n.fraction ++ exponentChars plus n.exponent

def chars (n : Number) : List Char := n.charsWith ['+']

def text (n : Number) : String := String.ofList n.chars

def isInteger (n : Number) : Bool := n.fraction.isEmpty && n.exponent.isNone

def pushWhole? (n : Number) (d : Digit) : Option Number :=
  (n.whole.push? d).map fun w => { n with whole := w }

def pushFraction (n : Number) (d : Digit) : Number := { n with fraction := n.fraction ++ [d] }

def startExponent (n : Number) (negative : Bool) (d : Digit) : Number :=
  { n with exponent := some ⟨negative, d, []⟩ }

def pushExponent (n : Number) (d : Digit) : Number :=
  { n with exponent := n.exponent.map fun e => { e with rest := e.rest ++ [d] } }

inductive Scan where
  | minus
  | whole (n : Number)
  | point (n : Number)
  | fraction (n : Number)
  | mark (n : Number)
  | sign (n : Number) (negative : Bool)
  | exponent (n : Number)

inductive Scan.Move where
  | more (s : Scan)
  | finished (n : Number)
  | refused (consumed : Bool)

namespace Scan

def start? (c : Char) : Option Scan :=
  if c = '-' then some .minus
  else (Digit.ofChar? c).map fun d => .whole { negative := false, whole := .ofDigit d }

def isMark (c : Char) : Bool := c = 'e' || c = 'E'

def move : Scan → Char → Move
  | .minus, c =>
    match Digit.ofChar? c with
    | some d => .more (.whole { negative := true, whole := .ofDigit d })
    | none => .refused true
  | .whole n, c =>
    match Digit.ofChar? c with
    | some d => match n.pushWhole? d with
      | some n' => .more (.whole n')
      | none => .refused false
    | none =>
      if c = '.' then .more (.point n) else if isMark c then .more (.mark n) else .finished n
  | .point n, c =>
    match Digit.ofChar? c with
    | some d => .more (.fraction (n.pushFraction d))
    | none => .refused false
  | .fraction n, c =>
    match Digit.ofChar? c with
    | some d => .more (.fraction (n.pushFraction d))
    | none => if isMark c then .more (.mark n) else .finished n
  | .mark n, c =>
    match Digit.ofChar? c with
    | some d => .more (.exponent (n.startExponent false d))
    | none =>
      if c = '+' then .more (.sign n false)
      else if c = '-' then .more (.sign n true)
      else .refused true
  | .sign n negative, c =>
    match Digit.ofChar? c with
    | some d => .more (.exponent (n.startExponent negative d))
    | none => .refused true
  | .exponent n, c =>
    match Digit.ofChar? c with
    | some d => .more (.exponent (n.pushExponent d))
    | none => .finished n

def finish? : Scan → Option Number
  | .whole n | .fraction n | .exponent n => some n
  | .minus | .point _ | .mark _ | .sign _ _ => none

/-- Reads a text that has to be one literal and nothing more. What is left over counts against it
first, whatever the literal itself lacks. -/
def read (place : Position) : Scan → List Char → Except Failure Number
  | s, [] =>
    match s.finish? with
    | some n => .ok n
    | none => .error ⟨.endOfValue, place⟩
  | s, c :: cs =>
    match s.move c with
    | .more s' => read (place.next c) s' cs
    | .finished _ => .error ⟨.invalidNumber, place.ahead 1 (c :: cs)⟩
    | .refused consumed =>
      .error ⟨.invalidNumber, place.ahead (if consumed then 2 else 1) (c :: cs)⟩

end Scan

def read : List Char → Except Failure Number
  | [] => .error ⟨.endOfValue, .start⟩
  | c :: cs =>
    match Scan.start? c with
    | some s => s.read (Position.start.next c) cs
    | none => .error ⟨.invalidNumber, Position.start.ahead 1 (c :: cs)⟩

end Number

end WorkflowManifest.Json
