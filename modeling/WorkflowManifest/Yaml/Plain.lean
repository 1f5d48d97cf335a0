import WorkflowManifest.Decimal.Binary64
import WorkflowManifest.Text.Hex

namespace WorkflowManifest.Yaml

def words : List (List Char) :=
  ["null", "Null", "NULL", "~", "true", "True", "TRUE", "false", "False", "FALSE"].map
    String.toList

def isDigitRow (cs : List Char) : Bool := !cs.isEmpty && cs.all Char.isDigit

def dropSign : List Char → List Char
  | '+' :: cs => cs
  | '-' :: cs => cs
  | cs => cs

def isPaddedRow (cs : List Char) : Bool :=
  match dropSign cs with
  | '0' :: d :: ds => isDigitRow (d :: ds)
  | _ => false

def rowValue? (base : Nat) : List Char → Option Nat
  | [] => none
  | cs => cs.foldl (fun n c => do
      let n ← n
      let d ← Text.hexValue? c
      if d < base then some (base * n + d) else none) (some 0)

def maxUnsigned : Nat := 0xffffffffffffffffffffffffffffffff
def maxNegated : Nat := 0x80000000000000000000000000000000

def inBase (base limit : Nat) (cs : List Char) : Bool :=
  match rowValue? base cs with
  | some n => n ≤ limit
  | none => false

def isUnsigned (limit : Nat) : List Char → Bool
  | '0' :: 'x' :: cs => inBase 16 limit cs
  | '0' :: 'o' :: cs => inBase 8 limit cs
  | '0' :: 'b' :: cs => inBase 2 limit cs
  | cs => inBase 10 limit cs

def isInteger : List Char → Bool
  | '+' :: cs => isUnsigned maxUnsigned cs
  | '-' :: cs => isUnsigned maxNegated cs
  | cs => isUnsigned maxUnsigned cs

def infinities : List (List Char) := [".inf", ".Inf", ".INF"].map String.toList

def bareWords : List (List Char) :=
  ["-.inf", "-.Inf", "-.INF", ".nan", ".NaN", ".NAN"].map String.toList

def power? (cs : List Char) : Option Int :=
  let ds := dropSign cs
  if isDigitRow ds then
    let n : Int := Digit.value (ds.filterMap Digit.ofChar?)
    some (if cs.head? = some '-' then -n else n)
  else none

def isFiniteDecimal (cs : List Char) : Bool :=
  let whole := cs.takeWhile Char.isDigit
  let rest := cs.dropWhile Char.isDigit
  let fraction := match rest with
    | '.' :: r => r.takeWhile Char.isDigit
    | _ => []
  let rest := match rest with
    | '.' :: r => r.dropWhile Char.isDigit
    | r => r
  let digits := (whole ++ fraction).filterMap Digit.ofChar?
  let finite (power : Int) : Bool := (Binary64.ofDecimal? digits (power - fraction.length)).isSome
  if whole.isEmpty && fraction.isEmpty then false
  else match rest with
    | [] => finite 0
    | 'e' :: r | 'E' :: r =>
      match power? r with
      | some n => finite n
      | none => false
    | _ => false

def isFloat (cs : List Char) : Bool :=
  match cs with
  | '+' :: r => infinities.contains r || isFiniteDecimal r
  | '-' :: r => bareWords.contains cs || isFiniteDecimal r
  | _ => infinities.contains cs || bareWords.contains cs || isFiniteDecimal cs

def looksOther (cs : List Char) : Bool :=
  cs.isEmpty || words.contains cs || isPaddedRow cs || isInteger cs || isFloat cs

end WorkflowManifest.Yaml
