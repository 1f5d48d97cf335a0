import WorkflowManifest.Decimal.Digit

/-!
Finite double-precision magnitudes in exact arithmetic, and the rounding of decimals to them.
-/

namespace WorkflowManifest

-- Powers are those of the core library, also beside a library with powers of its own.
attribute [local instance (high)] instPowNat

/-- The magnitude `mantissa * 2 ^ scale`, in units of `2 ^ -1074`. -/
structure Binary64 where
  mantissa : Nat
  scale : Nat
  deriving DecidableEq

namespace Binary64

def zero : Binary64 := ⟨0, 0⟩

def maxScale : Nat := 2045

def isZero (x : Binary64) : Bool := x.mantissa = 0

def roundQuotient (n d : Nat) : Nat :=
  if 2 * (n % d) < d then n / d
  else if d < 2 * (n % d) then n / d + 1
  else n / d + n / d % 2

def ofQuotient (n d : Nat) : Binary64 :=
  let scale := Nat.log2 (n / d) - 52
  let mantissa := roundQuotient n (d * 2 ^ scale)
  if mantissa = 2 ^ (53 : Nat) then ⟨2 ^ (52 : Nat), scale + 1⟩ else ⟨mantissa, scale⟩

/-- The magnitude nearest to a row of digits times a power of ten, unless that lies beyond all
finite ones. Where the first digit stands decides the far cases, so that no power of ten gets out
of hand. -/
def ofDecimal? (digits : List Digit) (exponent : Int) : Option Binary64 :=
  match digits.dropWhile (· = 0) with
  | [] => some zero
  | d :: ds =>
    let top := (d :: ds).length + exponent
    if 310 < top then none
    else if top < -330 then some zero
    else
      let x := ofQuotient (Digit.value (d :: ds) * 10 ^ exponent.toNat * 2 ^ (1074 : Nat))
        (10 ^ (-exponent).toNat)
      if x.scale ≤ maxScale then some x else none

end Binary64

end WorkflowManifest
