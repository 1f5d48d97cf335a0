import Mathlib.Algebra.Group.Nat.Defs
import WorkflowManifest.Proofs.Yaml.Indentation

namespace WorkflowManifest.Yaml

open Text

def keep (c : Char) : Option (List Char × List Char) → Option (List Char × List Char) :=
  Option.map fun (cs, rest) => (c :: cs, rest)

inductive Run where
  | text (skip : Nat)
  | quote

def readSingle (indent : Nat) : Run → List Char → Option (List Char × List Char)
  | .text _, [] => none
  | .quote, [] => some ([], [])
  | .text skip, c :: cs =>
    if isLineBreak c then keep c (readSingle indent (.text indent) cs)
    else if 0 < skip then readSingle indent (.text (skip - 1)) cs
    else if c = '\x27' then readSingle indent .quote cs
    else keep c (readSingle indent (.text 0) cs)
  | .quote, c :: cs =>
    if c = '\x27' then keep c (readSingle indent (.text 0) cs) else some ([], c :: cs)

def named? (c : Char) : Option Char :=
  match c with
  | '0' => some '\x00'
  | 'a' => some '\x07'
  | 'b' => some '\x08'
  | 't' => some '\t'
  | 'n' => some '\n'
  | 'v' => some '\x0b'
  | 'f' => some '\x0c'
  | 'r' => some '\r'
  | 'e' => some '\x1b'
  | '"' => some '"'
  | '\\' => some '\\'
  | 'N' => some '\u0085'
  | 'L' => some '\u2028'
  | 'P' => some '\u2029'
  | _ => none

def digitCount? (c : Char) : Option Nat :=
  match c with
  | 'x' => some 2
  | 'u' => some 4
  | 'U' => some 8
  | _ => none

inductive Escape where
  | none
  | letter
  | digits (left : Nat) (value : Nat)

def readDouble : Escape → List Char → Option (List Char × List Char)
  | _, [] => .none
  | .none, c :: cs =>
    if c = '"' then some ([], cs)
    else if c = '\\' then readDouble .letter cs
    else keep c (readDouble .none cs)
  | .letter, c :: cs =>
    match named? c, digitCount? c with
    | some d, _ => keep d (readDouble .none cs)
    | .none, some n => readDouble (.digits n 0) cs
    | .none, .none => .none
  | .digits left value, c :: cs =>
    match hexValue? c with
    | some d =>
      if left ≤ 1 then keep (Char.ofNat (16 * value + d)) (readDouble .none cs)
      else readDouble (.digits (left - 1) (16 * value + d)) cs
    | .none => .none

section Single

variable {indent : Nat}

theorem readSingle_break {c : Char} (hc : isLineBreak c = true) (skip : Nat) (cs : List Char) :
    readSingle indent (.text skip) (c :: cs) = keep c (readSingle indent (.text indent) cs) := by
  simp [readSingle, hc]

theorem readSingle_spaces (n : Nat) (cs : List Char) :
    readSingle indent (.text n) (spaces n ++ cs) = readSingle indent (.text 0) cs := by
  induction n with
  | zero => rfl
  | succ n ih =>
    have hb : isLineBreak ' ' = false := rfl
    rw [spaces, List.replicate_succ, List.cons_append, ← spaces]
    simpa [readSingle, hb] using ih

theorem readSingle_indentBroken {c : Char} (hc : isBreak c = isLineBreak c) (broken : Bool)
    (cs : List Char) :
    readSingle indent (.text (if broken then indent else 0))
        (indentBroken indent broken c ++ c :: cs) = readSingle indent (.text 0) (c :: cs) := by
  cases broken with
  | false => rfl
  | true =>
    cases hb : isBreak c with
    | true =>
      rw [hb] at hc
      simp [indentBroken, hb, readSingle_break hc.symm]
    | false => simpa [indentBroken, hb] using readSingle_spaces indent (c :: cs)

theorem readSingle_end {rest : List Char} (h : rest.head? ≠ some '\x27') :
    readSingle indent (.text 0) ('\x27' :: rest) = some ([], rest) := by
  have hb : isLineBreak '\x27' = false := rfl
  cases rest with
  | nil => simp [readSingle, hb]
  | cons c rest =>
    have hc : c ≠ '\x27' := by simpa using h
    simp [readSingle, hb, hc]

theorem readSingle_quotes (cs : List Char) :
    readSingle indent (.text 0) ('\x27' :: '\x27' :: cs) =
      keep '\x27' (readSingle indent (.text 0) cs) := by
  have hb : isLineBreak '\x27' = false := rfl
  simp [readSingle, hb]

theorem readSingle_plain {c : Char} (hb : isLineBreak c = false) (hc : c ≠ '\x27')
    (cs : List Char) :
    readSingle indent (.text 0) (c :: cs) = keep c (readSingle indent (.text 0) cs) := by
  simp [readSingle, hb, hc]

theorem readSingle_singleBody {cs : List Char} (h : ∀ c ∈ cs, isBreak c = isLineBreak c)
    (broken : Bool) {rest : List Char} (hrest : rest.head? ≠ some '\x27') :
    readSingle indent (.text (if broken then indent else 0))
      (singleBody indent broken cs ++ '\x27' :: rest) = some (cs, rest) := by
  have hq : isBreak '\x27' = isLineBreak '\x27' := rfl
  induction cs generalizing broken with
  | nil =>
    have hend : singleBody indent broken [] = indentBroken indent broken '\x27' := by
      cases broken <;> rfl
    rw [hend, readSingle_indentBroken hq, readSingle_end hrest]
  | cons c cs ih =>
    have hc := h c (by simp)
    have ih := ih (fun d hd => h d (by simp [hd])) (isBreak c)
    rw [singleBody, List.append_assoc, List.append_assoc]
    by_cases hquote : c = '\x27'
    · subst hquote
      rw [if_pos rfl, List.cons_append, readSingle_indentBroken hq]
      exact (readSingle_quotes _).trans (congrArg (keep _) ih)
    · rw [if_neg hquote, List.cons_append, readSingle_indentBroken hc, List.nil_append]
      cases hb : isBreak c with
      | true =>
        rw [hb] at hc ih
        rw [readSingle_break hc.symm]
        exact congrArg (keep c) ih
      | false =>
        rw [hb] at hc ih
        rw [readSingle_plain hc.symm hquote]
        exact congrArg (keep c) ih

end Single

section Double

theorem readDouble_named {m d : Char} (h : named? m = some d) (cs : List Char) :
    readDouble .none ('\\' :: m :: cs) = keep d (readDouble .none cs) := by
  simp [readDouble, h]

theorem readDouble_hexDigit {d : Nat} (hd : d < 16) (left value : Nat) (cs : List Char) :
    readDouble (.digits left value) ((hexDigit d).toUpper :: cs) =
      if left ≤ 1 then keep (Char.ofNat (16 * value + d)) (readDouble .none cs)
      else readDouble (.digits (left - 1) (16 * value + d)) cs := by
  have h : ∀ d < 16, hexValue? (hexDigit d).toUpper = some d := by decide
  simp [readDouble, h d hd]

theorem readDouble_upperHex (width left n value : Nat) (hn : n < 16 ^ width) (cs : List Char) :
    readDouble (.digits (width + (left + 1)) value) (upperHex width n ++ cs) =
      readDouble (.digits (left + 1) (16 ^ width * value + n)) cs := by
  induction width generalizing left n value cs with
  | zero =>
    obtain rfl : n = 0 := by omega
    simp [upperHex]
  | succ width ih =>
    have hdiv : n / 16 < 16 ^ width := by
      rw [Nat.pow_succ] at hn
      exact Nat.div_lt_of_lt_mul (by omega)
    have hvalue : 16 * (16 ^ width * value + n / 16) + n % 16 = 16 ^ (width + 1) * value + n := by
      rw [Nat.pow_succ]
      have := Nat.div_add_mod n 16
      grind
    have ih := ih (left + 1) (n / 16) value hdiv ((hexDigit (n % 16)).toUpper :: cs)
    rw [upperHex, List.append_assoc, List.singleton_append,
      show width + 1 + (left + 1) = width + (left + 1 + 1) by omega, ih,
      readDouble_hexDigit (Nat.mod_lt _ (by decide)), if_neg (by omega), hvalue]
    rfl

theorem readDouble_hexEscape {mark c : Char} {width : Nat} (hname : named? mark = none)
    (hmark : digitCount? mark = some (width + 1)) (hc : c.toNat < 16 ^ (width + 1))
    (cs : List Char) :
    readDouble .none ('\\' :: mark :: (upperHex (width + 1) c.toNat ++ cs)) =
      keep c (readDouble .none cs) := by
  have hdiv : c.toNat / 16 < 16 ^ width := by
    rw [Nat.pow_succ] at hc
    exact Nat.div_lt_of_lt_mul (by omega)
  have hstart : readDouble .none ('\\' :: mark :: (upperHex (width + 1) c.toNat ++ cs)) =
      readDouble (.digits (width + 1) 0) (upperHex (width + 1) c.toNat ++ cs) := by
    simp [readDouble, hname, hmark]
  rw [hstart, upperHex, List.append_assoc, List.singleton_append,
    readDouble_upperHex width 0 _ 0 hdiv, readDouble_hexDigit (Nat.mod_lt _ (by decide)),
    if_pos (by omega), Nat.mul_zero, Nat.zero_add, Nat.div_add_mod, Char.ofNat_toNat]

theorem readDouble_escape (c : Char) (cs : List Char) :
    readDouble .none (escape c ++ cs) = keep c (readDouble .none cs) := by
  unfold escape
  split
  case h_15 =>
    split
    · have hq : c ≠ '"' := by assumption
      have hb : c ≠ '\\' := by assumption
      simp [readDouble, hq, hb]
    · split
      · exact readDouble_hexEscape rfl rfl (by omega) cs
      · split
        · exact readDouble_hexEscape rfl rfl (by omega) cs
        · exact readDouble_hexEscape rfl rfl c.val.toNat_lt cs
  all_goals exact readDouble_named rfl cs

theorem readDouble_escaped (cs rest : List Char) :
    readDouble .none (cs.flatMap escape ++ '"' :: rest) = some (cs, rest) := by
  induction cs with
  | nil => simp [readDouble]
  | cons c cs ih =>
    rw [List.flatMap_cons, List.append_assoc, readDouble_escape, ih]
    rfl

end Double

end WorkflowManifest.Yaml
