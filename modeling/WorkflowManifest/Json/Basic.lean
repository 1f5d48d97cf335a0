import WorkflowManifest.Entries
import WorkflowManifest.Json.Number

namespace WorkflowManifest

inductive Json where
  | null
  | bool (b : Bool)
  | num (n : Json.Number)
  | str (s : String)
  | arr (items : List Json)
  | obj (entries : List (String × Json))

namespace Json

@[induction_eliminator]
theorem induct {motive : Json → Prop} (null : motive .null) (bool : ∀ b, motive (.bool b))
    (num : ∀ n, motive (.num n)) (str : ∀ s, motive (.str s))
    (arr : ∀ items, (∀ x ∈ items, motive x) → motive (.arr items))
    (obj : ∀ entries, (∀ e ∈ entries, motive e.2) → motive (.obj entries)) (x : Json) : motive x :=
  Json.rec null bool num str arr obj
    nofun (fun _ _ hx hxs => List.forall_mem_cons.2 ⟨hx, hxs⟩)
    nofun (fun _ _ he hes => List.forall_mem_cons.2 ⟨he, hes⟩)
    (fun _ _ hx => hx) x

mutual

/-- Equality up to the order of object entries at every level; numbers compare by literal. -/
def same : Json → Json → Bool
  | .null, .null => true
  | .bool a, .bool b => a = b
  | .num m, .num n => m = n
  | .str s, .str t => s = t
  | .arr xs, .arr ys => sameItems xs ys
  | .obj es, .obj fs => es.length = fs.length && sameEntries es fs
  | _, _ => false

def sameItems : List Json → List Json → Bool
  | [], [] => true
  | x :: xs, y :: ys => same x y && sameItems xs ys
  | _, _ => false

def sameEntries : List (String × Json) → Entries String Json → Bool
  | [], _ => true
  | (k, x) :: es, fs =>
    (match fs.find? k with
    | some y => same x y
    | none => false) && sameEntries es fs

end

mutual

def WellFormed : Json → Prop
  | .null | .bool _ | .num _ | .str _ => True
  | .arr xs => WellFormedItems xs
  | .obj es => (Entries.keys es).Nodup ∧ WellFormedEntries es

def WellFormedItems : List Json → Prop
  | [] => True
  | x :: xs => WellFormed x ∧ WellFormedItems xs

def WellFormedEntries : List (String × Json) → Prop
  | [] => True
  | (_, x) :: es => WellFormed x ∧ WellFormedEntries es

end

def literal (b : Bool) : List Char := (if b then "true" else "false").toList

def smallest64 : Int := -0x8000000000000000
def largest64 : Int := 0xffffffffffffffff

def Number.wholeValue (n : Number) : Int :=
  if n.negative then -(Digit.value n.whole.digits) else Digit.value n.whole.digits

def Number.kind (n : Number) : Kind :=
  if n.isInteger && !(n.negative && n.whole = .zero) &&
      smallest64 ≤ n.wholeValue && n.wholeValue ≤ largest64 then .integer n.text
  else .number

def kind : Json → Kind
  | .null => .null
  | .bool b => .bool b
  | .num n => n.kind
  | .str s => .string s
  | .arr _ => .sequence
  | .obj _ => .map

end Json

end WorkflowManifest
