import WorkflowManifest.Decimal.Digit

namespace WorkflowManifest.CommandLine

inductive PortNumberError where
  | empty
  | invalidDigit
  | tooLarge
  | tooSmall
  | outOfRange (value : Int)
  deriving DecidableEq

def PortNumberError.message : PortNumberError → String
  | .empty => "cannot parse integer from empty string"
  | .invalidDigit => "invalid digit found in string"
  | .tooLarge => "number too large to fit in target type"
  | .tooSmall => "number too small to fit in target type"
  | .outOfRange value => s!"{value} is not in 0..=65535"

def readMagnitude (limit : Nat) (beyond : PortNumberError) (n : Nat) :
    List Char → Except PortNumberError Nat
  | [] => .ok n
  | c :: cs =>
    match Digit.ofChar? c with
    | none => .error .invalidDigit
    | some d =>
      if limit < 10 * n + d.val then .error beyond
      else readMagnitude limit beyond (10 * n + d.val) cs

def readInteger : List Char → Except PortNumberError Int
  | [] => .error .empty
  | ['+'] | ['-'] => .error .invalidDigit
  | '-' :: cs => (readMagnitude 0x8000000000000000 .tooSmall 0 cs).map fun n => -(n : Int)
  | '+' :: cs => (readMagnitude 0x7fffffffffffffff .tooLarge 0 cs).map fun n => (n : Int)
  | cs => (readMagnitude 0x7fffffffffffffff .tooLarge 0 cs).map fun n => (n : Int)

def readPortNumber (s : String) : Except PortNumberError UInt16 :=
  match readInteger s.toList with
  | .error e => .error e
  | .ok n => if 0 ≤ n ∧ n ≤ 65535 then .ok (.ofNat n.toNat) else .error (.outOfRange n)

end WorkflowManifest.CommandLine
