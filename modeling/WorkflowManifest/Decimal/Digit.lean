namespace WorkflowManifest

abbrev Digit := Fin 10

namespace Digit

instance : @NeZero Nat Zero.ofOfNat0 10 := ⟨by decide⟩

def char (d : Digit) : Char := Char.ofNat (48 + d)

def ofChar? (c : Char) : Option Digit :=
  if h : 48 ≤ c.toNat ∧ c.toNat < 58 then some ⟨c.toNat - 48, by omega⟩ else none

@[simp] theorem ofChar?_char (d : Digit) : ofChar? (char d) = some d := by
  revert d; decide

def value (ds : List Digit) : Nat := ds.foldl (fun (n : Nat) d => 10 * n + d.val) 0

def prepend (n : Nat) (ds : List Digit) : List Digit :=
  if n = 0 then ds else prepend (n / 10) (⟨n % 10, Nat.mod_lt _ (by decide)⟩ :: ds)
decreasing_by omega

def ofNat (n : Nat) : List Digit := prepend n []

end Digit

end WorkflowManifest
