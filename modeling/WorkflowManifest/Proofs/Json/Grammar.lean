import WorkflowManifest.Json.Basic
import WorkflowManifest.Text.Hex

/-!
The grammar of JSON texts, and the tree that a text denotes as it is written: an object has a
member for each of its keys in the text, repeated ones included.
-/

namespace WorkflowManifest.Json.Grammar

def Blank (cs : List Char) : Prop := ∀ c ∈ cs, c = ' ' ∨ c = '\t' ∨ c = '\n' ∨ c = '\r'

def shortEscapes : List (Char × Char) :=
  [('"', '"'), ('\\', '\\'), ('/', '/'), ('b', '\x08'), ('f', '\x0c'), ('n', '\n'), ('r', '\r'),
    ('t', '\t')]

structure Hex (hs : List Char) (code : Nat) : Prop where
  four : hs.length = 4
  digits : ∀ c ∈ hs, (Text.hexValue? c).isSome
  number : Text.hexNumber hs = code

structure Pair (high low : Nat) (c : Char) : Prop where
  isHigh : 0xD800 ≤ high ∧ high < 0xDC00
  isLow : 0xDC00 ≤ low ∧ low < 0xE000
  code : c.toNat = 0x10000 + (high - 0xD800) * 0x400 + (low - 0xDC00)

/-- What stands between quotes, and the characters that are meant. A single `\u` escape names a
character, so that neither half of a surrogate pair can stand alone. -/
inductive Chars : List Char → List Char → Prop
  | nil : Chars [] []
  | plain {c : Char} {cs ds : List Char} (hquote : c ≠ '"') (hslash : c ≠ '\\')
      (hcontrol : 0x20 ≤ c.toNat) (h : Chars cs ds) : Chars (c :: cs) (c :: ds)
  | short {e c : Char} {cs ds : List Char} (hc : (e, c) ∈ shortEscapes) (h : Chars cs ds) :
      Chars ('\\' :: e :: cs) (c :: ds)
  | unit {hs cs ds : List Char} {c : Char} (hc : Hex hs c.toNat) (h : Chars cs ds) :
      Chars ('\\' :: 'u' :: hs ++ cs) (c :: ds)
  | pair {hs ls cs ds : List Char} {high low : Nat} {c : Char} (hhigh : Hex hs high)
      (hlow : Hex ls low) (hc : Pair high low c) (h : Chars cs ds) :
      Chars ('\\' :: 'u' :: hs ++ '\\' :: 'u' :: ls ++ cs) (c :: ds)

def Str (cs : List Char) (s : String) : Prop :=
  ∃ body, cs = '"' :: body ++ ['"'] ∧ Chars body s.toList

inductive ExponentText : Option Exponent → List Char → Prop
  | none : ExponentText none []
  | some {e : Exponent} {mark : Char} {sign : List Char} (hmark : mark = 'e' ∨ mark = 'E')
      (hsign : if e.negative then sign = ['-'] else sign = [] ∨ sign = ['+']) :
      ExponentText (some e) (mark :: sign ++ (e.first :: e.rest).map Digit.char)

/-- The literals of a number, which differ in the spelling of the exponent's mark alone. -/
def NumberText (cs : List Char) (n : Number) : Prop :=
  ∃ tail, ExponentText n.exponent tail ∧
    cs = (if n.negative then ['-'] else []) ++ n.whole.digits.map Digit.char ++
      Number.fractionChars n.fraction ++ tail

mutual

/-- A value in whose text brackets are nested at most `depth` deep. -/
inductive Value : Nat → List Char → Json → Prop
  | null {depth : Nat} : Value depth "null".toList .null
  | bool {depth : Nat} (b : Bool) : Value depth (if b then "true" else "false").toList (.bool b)
  | num {depth : Nat} {cs : List Char} {n : Number} (h : NumberText cs n) :
      Value depth cs (.num n)
  | str {depth : Nat} {cs : List Char} {s : String} (h : Str cs s) : Value depth cs (.str s)
  | emptyArr {depth : Nat} {cs : List Char} (h : Blank cs) :
      Value (depth + 1) ('[' :: cs ++ [']']) (.arr [])
  | arr {depth : Nat} {cs : List Char} {xs : List Json} (h : Items depth cs xs) :
      Value (depth + 1) ('[' :: cs ++ [']']) (.arr xs)
  | emptyObj {depth : Nat} {cs : List Char} (h : Blank cs) :
      Value (depth + 1) ('\x7b' :: cs ++ ['\x7d']) (.obj [])
  | obj {depth : Nat} {cs : List Char} {es : List (String × Json)} (h : Members depth cs es) :
      Value (depth + 1) ('\x7b' :: cs ++ ['\x7d']) (.obj es)

inductive Item : Nat → List Char → Json → Prop
  | mk {depth : Nat} {before cs after : List Char} {x : Json} (hbefore : Blank before)
      (h : Value depth cs x) (hafter : Blank after) : Item depth (before ++ cs ++ after) x

inductive Items : Nat → List Char → List Json → Prop
  | one {depth : Nat} {cs : List Char} {x : Json} (h : Item depth cs x) : Items depth cs [x]
  | more {depth : Nat} {cs rest : List Char} {x : Json} {xs : List Json} (h : Item depth cs x)
      (hrest : Items depth rest xs) : Items depth (cs ++ ',' :: rest) (x :: xs)

inductive Member : Nat → List Char → String × Json → Prop
  | mk {depth : Nat} {before key between cs : List Char} {k : String} {x : Json}
      (hbefore : Blank before) (hkey : Str key k) (hbetween : Blank between)
      (h : Item depth cs x) : Member depth (before ++ key ++ between ++ ':' :: cs) (k, x)

inductive Members : Nat → List Char → List (String × Json) → Prop
  | one {depth : Nat} {cs : List Char} {e : String × Json} (h : Member depth cs e) :
      Members depth cs [e]
  | more {depth : Nat} {cs rest : List Char} {e : String × Json} {es : List (String × Json)}
      (h : Member depth cs e) (hrest : Members depth rest es) :
      Members depth (cs ++ ',' :: rest) (e :: es)

end

def Text (cs : List Char) (j : Json) : Prop :=
  ∃ before value after, cs = before ++ value ++ after ∧ Blank before ∧ Blank after ∧
    Value 127 value j

namespace Blank

theorem nil : Blank [] := by simp [Blank]

theorem cons {c : Char} {cs : List Char} (hc : c = ' ' ∨ c = '\t' ∨ c = '\n' ∨ c = '\r')
    (h : Blank cs) : Blank (c :: cs) :=
  List.forall_mem_cons.2 ⟨hc, h⟩

end Blank

end WorkflowManifest.Json.Grammar
