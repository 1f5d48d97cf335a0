import WorkflowManifest.Decimal.Binary64

namespace WorkflowManifest

-- Powers are those of the core library, also beside a library with powers of its own.
attribute [local instance (high)] instPowNat

structure Decimal where
  digits : List Digit
  point : Int
  deriving DecidableEq

namespace Decimal

def ofNat (coefficient : Nat) (exponent : Int) : Decimal :=
  let ds := Digit.ofNat coefficient
  ⟨(ds.reverse.dropWhile (· = 0)).reverse, ds.length + exponent⟩

def magnitude? (d : Decimal) : Option Binary64 :=
  Binary64.ofDecimal? d.digits (d.point - d.digits.length)

end Decimal

namespace Binary64

def exactDigits (x : Binary64) : List Digit :=
  Digit.ofNat (x.mantissa * 2 ^ x.scale * 5 ^ (1074 : Nat))

/-- Which of two decimals that are equally near comes first. -/
inductive Tie where
  | even
  | up
  deriving DecidableEq

def neighbours (tie : Tie) (ds : List Digit) (n : Nat) : List Decimal :=
  let exponent : Int := ds.length - 1074 - n
  let below := Digit.value (ds.take n)
  let rest := 2 * Digit.value (ds.drop n)
  let unit := 10 ^ (ds.drop n).length
  let pair := [Decimal.ofNat below exponent, Decimal.ofNat (below + 1) exponent]
  if rest < unit ∨ (rest = unit ∧ tie = .even ∧ below % 2 = 0) then pair else pair.reverse

def readsBack (x : Binary64) (d : Decimal) : Bool := d.magnitude? = some x

def found? (tie : Tie) (x : Binary64) : Option Decimal :=
  let ds := x.exactDigits
  (List.range ds.length).findSome? fun n => (neighbours tie ds (n + 1)).find? x.readsBack

def shortestBy (tie : Tie) (x : Binary64) : Decimal :=
  (x.found? tie).getD (Decimal.ofNat (Digit.value x.exactDigits) (-1074))

def shortest (x : Binary64) : Decimal := x.shortestBy .even

end Binary64

end WorkflowManifest
