import WorkflowManifest.Json.Exact

namespace WorkflowManifest.Json

namespace Number

/-- No exponent, however far the point is from the digits. -/
def ofDecimalPlain (negative : Bool) (d : Decimal) : Number :=
  let count : Int := d.digits.length
  if count ≤ d.point then
    { negative, whole := .ofDigits (d.digits ++ List.replicate (d.point - count).toNat 0) }
  else if 0 < d.point then
    { negative, whole := .ofDigits (d.digits.take d.point.toNat),
      fraction := d.digits.drop d.point.toNat }
  else
    { negative, whole := .zero, fraction := List.replicate (-d.point).toNat 0 ++ d.digits }

def display (negative : Bool) (x : Binary64) : Number :=
  if x.isZero then { negative, whole := .zero }
  else ofDecimalPlain negative (x.shortestBy .up)

/-- A literal that spells a machine number is handed on as that number, and any other as its
text. A double has two spellings, and comes out in that with an exponent. -/
def rebuilt (n : Number) : Number :=
  match IntegerType.firstRead? [.unsigned64, .signed64, .unsigned128, .signed128] n with
  | some i => ofInt i
  | none =>
    match n.magnitude? with
    | some x =>
      if n = ofBinary64 n.negative x ∨ n = display n.negative x then ofBinary64 n.negative x else n
    | none => n

end Number

mutual

/-- An object among the values that were read never begins with the key of a held number, so that
it is an object again. -/
def rebuilt : Json → Json
  | .null => .null
  | .bool b => .bool b
  | .num n => .num n.rebuilt
  | .str s => .str s
  | .arr items => .arr (rebuiltItems items)
  | .obj entries => .obj (rebuiltEntries entries)

def rebuiltItems : List Json → List Json
  | [] => []
  | x :: xs => rebuilt x :: rebuiltItems xs

def rebuiltEntries : List (String × Json) → List (String × Json)
  | [] => []
  | (k, x) :: es => (k, rebuilt x) :: rebuiltEntries es

end

end WorkflowManifest.Json
