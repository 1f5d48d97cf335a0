import WorkflowManifest.Decimal.Shortest
import WorkflowManifest.Json.Basic

/-!
Numbers as they are written out. Integers keep every digit within 128 bits; other numbers become
the shortest literal of the nearest double. A number that fits neither cannot be written.
-/

namespace WorkflowManifest.Json

inductive WriteError where
  | integerTooLarge (literal : String)
  | notFinite (literal : String)
  deriving DecidableEq

def WriteError.message : WriteError → String
  | .integerTooLarge literal => s!"integer {literal} is too large to be written exactly"
  | .notFinite literal => s!"number {literal} cannot be represented as a float"

namespace Exponent

def value (e : Exponent) : Int :=
  if e.negative then -(Digit.value (e.first :: e.rest)) else Digit.value (e.first :: e.rest)

def ofInt (n : Int) : Exponent :=
  match Digit.ofNat n.natAbs with
  | [] => ⟨false, 0, []⟩
  | d :: ds => ⟨n < 0, d, ds⟩

end Exponent

def Whole.ofDigits : List Digit → Whole
  | [] => .zero
  | d :: ds => if h : d = 0 then .zero else .lead (d.pred h) ds

namespace Number

def scale (n : Number) : Int :=
  (match n.exponent with
  | none => 0
  | some e => e.value) - n.fraction.length

def magnitude? (n : Number) : Option Binary64 :=
  Binary64.ofDecimal? (n.whole.digits ++ n.fraction) n.scale

/-- Positional from five zeros after the point up to sixteen digits before it, with at least one
digit after the point; otherwise one digit before the point and an exponent. -/
def ofDecimal (negative : Bool) (d : Decimal) : Number :=
  let count : Int := d.digits.length
  if count ≤ d.point ∧ d.point ≤ 16 then
    { negative, whole := .ofDigits (d.digits ++ List.replicate (d.point - count).toNat 0),
      fraction := [0] }
  else if 0 < d.point ∧ d.point ≤ 16 then
    { negative, whole := .ofDigits (d.digits.take d.point.toNat),
      fraction := d.digits.drop d.point.toNat }
  else if -5 < d.point ∧ d.point ≤ 0 then
    { negative, whole := .zero, fraction := List.replicate (-d.point).toNat 0 ++ d.digits }
  else
    { negative, whole := .ofDigits (d.digits.take 1), fraction := d.digits.drop 1,
      exponent := some (.ofInt (d.point - 1)) }

def ofBinary64 (negative : Bool) (x : Binary64) : Number :=
  if x.isZero then { negative, whole := .zero, fraction := [0] } else ofDecimal negative x.shortest

def ofInt (i : Int) : Number := { negative := i < 0, whole := .ofDigits (Digit.ofNat i.natAbs) }

end Number

structure IntegerType where
  least : Int
  greatest : Int

namespace IntegerType

def signed64 : IntegerType := ⟨-0x8000000000000000, 0x7fffffffffffffff⟩
def unsigned64 : IntegerType := ⟨0, 0xffffffffffffffff⟩

def signed128 : IntegerType :=
  ⟨-0x80000000000000000000000000000000, 0x7fffffffffffffffffffffffffffffff⟩

def unsigned128 : IntegerType := ⟨0, 0xffffffffffffffffffffffffffffffff⟩

/-- Where no number is negative, no sign is read, not even that of a zero. -/
def read? (t : IntegerType) (n : Number) : Option Int :=
  if n.isInteger ∧ (n.negative → t.least < 0) ∧ t.least ≤ n.wholeValue ∧
      n.wholeValue ≤ t.greatest then
    some n.wholeValue
  else none

def firstRead? (ts : List IntegerType) (n : Number) : Option Int := ts.findSome? (·.read? n)

end IntegerType

namespace Number

open IntegerType

def exact (n : Number) : Except WriteError Number :=
  match firstRead? [signed64, unsigned64] n with
  | some i => .ok (ofInt i)
  | none =>
    if n.isInteger then
      match firstRead? [signed128, unsigned128] n with
      | some i => .ok (ofInt i)
      | none => .error (.integerTooLarge n.text)
    else
      match n.magnitude? with
      | some x => .ok (ofBinary64 n.negative x)
      | none => .error (.notFinite n.text)

end Number

mutual

/-- Every number as it is written out. The first that cannot be, in writing order, decides. -/
def exact : Json → Except WriteError Json
  | .null => .ok .null
  | .bool b => .ok (.bool b)
  | .num n => n.exact.map .num
  | .str s => .ok (.str s)
  | .arr items => (exactItems items).map .arr
  | .obj entries => (exactEntries entries).map .obj

def exactItems : List Json → Except WriteError (List Json)
  | [] => .ok []
  | x :: xs => do return (← exact x) :: (← exactItems xs)

def exactEntries : List (String × Json) → Except WriteError (List (String × Json))
  | [] => .ok []
  | (k, x) :: es => do return (k, ← exact x) :: (← exactEntries es)

end

/-- Null, false, zero and whatever is empty count as nothing. A number counts by its double, so
that one beyond all doubles is nothing too. -/
def isTruthy : Json → Bool
  | .null => false
  | .bool b => b
  | .num n =>
    match n.magnitude? with
    | some x => !x.isZero
    | none => false
  | .str s => !s.isEmpty
  | .arr items => !items.isEmpty
  | .obj entries => !entries.isEmpty

end WorkflowManifest.Json
