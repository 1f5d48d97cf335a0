import WorkflowManifest.Proofs.Yaml.DecodedBlock
import WorkflowManifest.Proofs.Yaml.Token

/-!
Decoding quoted and plain scalars as their rules have it: breaks within quotes are folded, and a plain
scalar is taken for what it looks like.
-/

namespace WorkflowManifest.Yaml

open Text

def isWhite (c : Char) : Bool := c = ' ' || c = '\t'

section Single

inductive Fold where
  | text
  | blanks (row : List Char)
  | breaks (first : Char) (others : List Char)

namespace Fold

def atBlank (c : Char) : Fold → Fold
  | .text => .blanks [c]
  | .blanks row => .blanks (row ++ [c])
  | .breaks first others => .breaks first others

def atBreak (c : Char) : Fold → Fold
  | .breaks first others => .breaks first (others ++ [c])
  | _ => .breaks c []

/-- What comes before the next visible character. A line feed alone becomes a blank, and more breaks
after it stand for themselves, as do all breaks of another kind. -/
def chars : Fold → List Char
  | .text => []
  | .blanks row => row
  | .breaks first others =>
    if first = '\n' then if others.isEmpty then [' '] else others else first :: others

def isBroken : Fold → Bool
  | .breaks _ _ => true
  | _ => false

end Fold

def restore (front : List Char) : Option (List Char × List Char) → Option (List Char × List Char) :=
  Option.map fun (cs, rest) => (front ++ cs, rest)

inductive Inside where
  | fold (fold : Fold)
  | quote (front : List Char)

/-- Behind the opening quote. Two quotes are one, and a single one ends the scalar. -/
def decodeSingle : Inside → List Char → Option (List Char × List Char)
  | .fold _, [] => none
  | .quote front, [] => some (front, [])
  | .quote front, c :: cs =>
    if c = '\x27' then restore (front ++ ['\x27']) (decodeSingle (.fold .text) cs)
    else some (front, c :: cs)
  | .fold fold, c :: cs =>
    if isLineBreak c then decodeSingle (.fold (fold.atBreak c)) cs
    else if isWhite c then decodeSingle (.fold (fold.atBlank c)) cs
    else if c = '\x27' then decodeSingle (.quote fold.chars) cs
    else restore (fold.chars ++ [c]) (decodeSingle (.fold .text) cs)

def Fold.Fits (cs : List Char) : Fold → Prop
  | .text => True
  | .blanks _ => cs.head?.any isLineBreak = false
  | .breaks first _ => first ≠ '\n' ∧ cs.head?.any isWhite = false

structure Quotable (cs : List Char) : Prop where
  breaks : ∀ c ∈ cs, isBreak c = isLineBreak c
  plain : ∀ c ∈ cs, c ≠ '\n' ∧ c ≠ '\t'
  before : hasPair isSpace isBreak cs = false
  behind : hasPair isBreak isSpace cs = false

theorem hasPair_tail {p q : Char → Bool} {c : Char} {cs : List Char}
    (h : hasPair p q (c :: cs) = false) : hasPair p q cs = false := by
  cases cs with
  | nil => rfl
  | cons d ds => exact (Bool.or_eq_false_iff.1 h).2

theorem Quotable.tail {c : Char} {cs : List Char} (h : Quotable (c :: cs)) : Quotable cs where
  breaks d hd := h.breaks d (List.mem_cons_of_mem c hd)
  plain d hd := h.plain d (List.mem_cons_of_mem c hd)
  before := hasPair_tail h.before
  behind := hasPair_tail h.behind

theorem Quotable.head_not_white {c : Char} {cs : List Char} (h : Quotable (c :: cs))
    (hc : isBreak c = true) : cs.head?.any isWhite = false := by
  cases cs with
  | nil => rfl
  | cons d ds =>
    have hpair := h.behind
    have htab := (h.plain d (by simp)).2
    simp only [hasPair, hc, Bool.true_and, Bool.or_eq_false_iff, isSpace,
      decide_eq_false_iff_not] at hpair
    simp [isWhite, hpair.1, htab]

theorem Quotable.head_not_break {cs : List Char} (h : Quotable (' ' :: cs)) :
    cs.head?.any isLineBreak = false := by
  cases cs with
  | nil => rfl
  | cons d ds =>
    have hpair := h.before
    have hspace : isSpace ' ' = true := rfl
    simp only [hasPair, hspace, Bool.true_and, Bool.or_eq_false_iff] at hpair
    simpa [← h.breaks d (by simp)] using hpair.1

variable {n : Nat} {cs rest : List Char} {fold : Fold}

theorem Fold.Fits.atBreak {c : Char} (hfold : fold.Fits (c :: cs)) (h : Quotable (c :: cs))
    (hc : isLineBreak c = true) :
    (fold.atBreak c).Fits cs ∧ (fold.atBreak c).isBroken = true ∧
      (fold.atBreak c).chars = fold.chars ++ [c] := by
  have hlf := (h.plain c List.mem_cons_self).1
  have hhead := h.head_not_white ((h.breaks c List.mem_cons_self).trans hc)
  cases fold with
  | text => exact ⟨⟨hlf, hhead⟩, rfl, by simp [Fold.atBreak, Fold.chars, hlf]⟩
  | blanks row => exact absurd hfold (by simp [Fold.Fits, hc])
  | breaks first others =>
    exact ⟨⟨hfold.1, hhead⟩, rfl, by simp [Fold.atBreak, Fold.chars, hfold.1]⟩

theorem Fold.Fits.atBlank (hfold : fold.Fits (' ' :: cs)) (h : Quotable (' ' :: cs)) :
    (fold.atBlank ' ').Fits cs ∧ fold.isBroken = false ∧ (fold.atBlank ' ').isBroken = false ∧
      (fold.atBlank ' ').chars = fold.chars ++ [' '] := by
  have hhead := h.head_not_break
  cases fold with
  | text => exact ⟨hhead, rfl, rfl, rfl⟩
  | blanks row => exact ⟨hhead, rfl, rfl, rfl⟩
  | breaks first others => exact absurd hfold.2 (by simp [isWhite])

theorem decodeSingle_break {c : Char} (hc : isLineBreak c = true) (cs : List Char) :
    decodeSingle (.fold fold) (c :: cs) = decodeSingle (.fold (fold.atBreak c)) cs := by
  simp [decodeSingle, hc]

theorem decodeSingle_blank (cs : List Char) :
    decodeSingle (.fold fold) (' ' :: cs) = decodeSingle (.fold (fold.atBlank ' ')) cs := by
  have hb : isLineBreak ' ' = false := rfl
  have hw : isWhite ' ' = true := rfl
  simp [decodeSingle, hb, hw]

theorem decodeSingle_visible {c : Char} (hb : isLineBreak c = false) (hw : isWhite c = false)
    (hq : c ≠ '\x27') (cs : List Char) :
    decodeSingle (.fold fold) (c :: cs) =
      restore (fold.chars ++ [c]) (decodeSingle (.fold .text) cs) := by
  simp [decodeSingle, hb, hw, hq]

theorem decodeSingle_quotes (cs : List Char) :
    decodeSingle (.fold fold) ('\x27' :: '\x27' :: cs) =
      restore (fold.chars ++ ['\x27']) (decodeSingle (.fold .text) cs) := by
  have hb : isLineBreak '\x27' = false := rfl
  have hw : isWhite '\x27' = false := rfl
  simp [decodeSingle, hb, hw]

theorem decodeSingle_close (hrest : rest.head? ≠ some '\x27') :
    decodeSingle (.fold fold) ('\x27' :: rest) = some (fold.chars, rest) := by
  have hb : isLineBreak '\x27' = false := rfl
  have hw : isWhite '\x27' = false := rfl
  cases rest with
  | nil => simp [decodeSingle, hb, hw]
  | cons c rest =>
    have hc : c ≠ '\x27' := by simpa using hrest
    simp [decodeSingle, hb, hw, hc]

theorem decodeSingle_spaces (first : Char) (others : List Char) (n : Nat) (cs : List Char) :
    decodeSingle (.fold (.breaks first others)) (spaces n ++ cs) =
      decodeSingle (.fold (.breaks first others)) cs := by
  induction n with
  | zero => rfl
  | succ n ih =>
    rw [spaces, List.replicate_succ, List.cons_append, ← spaces, decodeSingle_blank]
    exact ih

theorem decodeSingle_indented (fold : Fold) (cs : List Char) :
    decodeSingle (.fold fold) ((if fold.isBroken then spaces n else []) ++ cs) =
      decodeSingle (.fold fold) cs := by
  cases fold with
  | breaks first others => exact decodeSingle_spaces first others n cs
  | _ => rfl

theorem decodeSingle_singleBody (h : Quotable cs) (hfold : fold.Fits cs)
    (hrest : rest.head? ≠ some '\x27') :
    decodeSingle (.fold fold) (singleBody n fold.isBroken cs ++ '\x27' :: rest) =
      some (fold.chars ++ cs, rest) := by
  induction cs generalizing fold with
  | nil => rw [singleBody, decodeSingle_indented, decodeSingle_close hrest, List.append_nil]
  | cons c cs ih =>
    have hc := h.breaks c List.mem_cons_self
    cases hb : isLineBreak c with
    | true =>
      obtain ⟨hfits, hbroken, hchars⟩ := hfold.atBreak h hb
      have hquote : c ≠ '\x27' := by
        rintro rfl
        exact absurd hb (by decide)
      have ih := ih h.tail hfits
      have hbody : singleBody n fold.isBroken (c :: cs) = c :: singleBody n true cs := by
        simp [singleBody, indentBroken, hc, hb, hquote]
      rw [hbroken, hchars] at ih
      rw [hbody, List.cons_append, decodeSingle_break hb, ih, List.append_assoc]
      rfl
    | false =>
      have hbody : singleBody n fold.isBroken (c :: cs) = (if fold.isBroken then spaces n else []) ++
          ((if c = '\x27' then ['\x27', '\x27'] else [c]) ++ singleBody n false cs) := by
        simp [singleBody, indentBroken, hc, hb]
      have ihtext : decodeSingle (.fold .text) (singleBody n false cs ++ '\x27' :: rest) =
          some (cs, rest) := ih h.tail trivial
      rw [hbody, List.append_assoc, decodeSingle_indented, List.append_assoc]
      cases hw : isWhite c with
      | true =>
        obtain rfl : c = ' ' := by simpa [isWhite, (h.plain c List.mem_cons_self).2] using hw
        obtain ⟨hfits, -, hbroken, hchars⟩ := hfold.atBlank h
        have ih := ih h.tail hfits
        rw [hbroken, hchars] at ih
        rw [if_neg (by decide), List.singleton_append, decodeSingle_blank, ih, List.append_assoc]
        rfl
      | false =>
        by_cases hquote : c = '\x27'
        · subst hquote
          rw [if_pos rfl]
          simp only [List.cons_append, List.nil_append]
          rw [decodeSingle_quotes]
          refine (congrArg _ ihtext).trans ?_
          simp [restore, Fold.chars]
        · rw [if_neg hquote, List.singleton_append, decodeSingle_visible hb hw hquote]
          refine (congrArg _ ihtext).trans ?_
          simp [restore, Fold.chars]

theorem quotable_of_singleAllowed (h : singleAllowed cs = true) (hlf : '\n' ∉ cs) :
    Quotable cs := by
  have hspecial := not_special_of_singleAllowed h
  simp only [singleAllowed, Bool.and_eq_true, Bool.not_eq_true'] at h
  refine ⟨fun c hc => isBreak_eq_of_not_special hspecial hc, fun c hc => ⟨?_, ?_⟩, h.1.2, h.2⟩
  · rintro rfl
    exact hlf hc
  · rintro rfl
    exact absurd hspecial (by simpa [hasSpecial] using ⟨_, hc, rfl⟩)

end Single

section Double

def decodeDouble (cs : List Char) : Option (List Char × List Char) :=
  (readDouble .none (content cs)).map fun (text, rest) =>
    (text, rest ++ cs.dropWhile fun c => !isLineBreak c)

theorem decodeDouble_written (cs rest : List Char) :
    decodeDouble (cs.flatMap escape ++ '"' :: rest) = some (cs, rest) := by
  have hline : ∀ c ∈ cs.flatMap escape, (!isLineBreak c) = true := by
    intro c hc
    rw [escaped_no_break hc]
    rfl
  have hquote : isLineBreak '"' = false := rfl
  rw [decodeDouble, content, List.takeWhile_append_of_pos hline, List.dropWhile_append_of_pos hline,
    List.takeWhile_cons_of_pos (by simp [hquote]), List.dropWhile_cons_of_pos (by simp [hquote]),
    readDouble_escaped, Option.map_some]
  dsimp only
  rw [List.takeWhile_append_dropWhile]

end Double

section Plain

inductive Sense where
  | null
  | bool
  | integer
  | float
  | text
  deriving DecidableEq

def nullWords : List (List Char) := ["null", "Null", "NULL", "~"].map String.toList

def boolWords : List (List Char) :=
  ["true", "True", "TRUE", "false", "False", "FALSE"].map String.toList

/-- A row of digits that begins with a zero is no number. -/
def resolve (cs : List Char) : Sense :=
  if cs.isEmpty || nullWords.contains cs then .null
  else if boolWords.contains cs then .bool
  else if isPaddedRow cs then .text
  else if isInteger cs then .integer
  else if isFloat cs then .float
  else .text

theorem resolve_of_not_looksOther {cs : List Char} (h : looksOther cs = false) :
    resolve cs = .text := by
  simp only [looksOther, Bool.or_eq_false_iff] at h
  obtain ⟨⟨⟨⟨hempty, hwords⟩, hpadded⟩, hinteger⟩, hfloat⟩ := h
  have hsplit : words = nullWords ++ boolWords := rfl
  rw [List.contains_eq_mem, decide_eq_false_iff_not, hsplit, List.mem_append, not_or] at hwords
  simp [resolve, hempty, hwords, hpadded, hinteger, hfloat]

def startsPlain : List Char → Bool
  | [] => false
  | c :: cs =>
    !startMarks.contains c && !spaceOrBreak c &&
      !((c = '-' || c = '?' || c = ':') && startsGap cs)

/-- Up to a break, a colon before a gap or a number sign behind one. -/
def plainText (previous : Char) : List Char → List Char × List Char
  | [] => ([], [])
  | c :: cs =>
    if isLineBreak c || (c = ':' && startsGap cs) || (c = '#' && isGap previous) then ([], c :: cs)
    else (c :: (plainText c cs).1, (plainText c cs).2)

def closes (parent : Nat) (rest : List Char) : Bool :=
  ((lines rest).find? fun l => !isBlankLine l).all fun l => width l ≤ parent

def decodePlain (parent : Nat) (cs : List Char) : Option (List Char × List Char) :=
  let (text, rest) := plainText ' ' cs
  let text := text.rdropWhile isWhite
  if startsPlain cs && resolve text = .text &&
      (!rest.head?.any isLineBreak || closes parent rest) then some (text, rest)
  else none

variable {cs rest : List Char}

theorem plainText_append {previous : Char} (hline : isMultiline cs = false)
    (hmark : hasInnerMark previous cs = false) (hrest : Ends rest) :
    plainText previous (cs ++ rest) = (cs, rest) := by
  induction cs generalizing previous with
  | nil =>
    cases hrest with
    | line rest => rfl
    | key h => simp [plainText, h]
  | cons c cs ih =>
    simp only [isMultiline, List.any_cons, Bool.or_eq_false_iff] at hline
    simp only [hasInnerMark, Bool.or_eq_false_iff] at hmark
    obtain ⟨⟨hcolon, hsign⟩, hinner⟩ := hmark
    have hgap : (decide (c = ':') && startsGap (cs ++ rest)) = false := by
      cases cs with
      | nil =>
        have hne : c ≠ ':' := by simpa [startsGap] using hcolon
        simp [hne]
      | cons d ds => exact hcolon
    simp [plainText, isLineBreak_of_isBreak_false hline.1, hgap, hsign, ih hline.2 hinner]

theorem closes_of_outside {parent : Nat} (h : Outside (parent + 1) rest) :
    closes parent ('\n' :: rest) = true := by
  have hhead := not_inBlock_of_outside h
  have hfeed : isBlankLine ['\n'] = true := rfl
  rw [closes, lines_break rfl, List.find?_cons_of_neg (by simp [hfeed])]
  cases hlines : lines rest with
  | nil => rfl
  | cons l ls =>
    have hl := hhead l (by simp [hlines])
    simp only [inBlock, Bool.or_eq_false_iff, decide_eq_false_iff_not] at hl
    rw [List.find?_cons_of_pos (by simp [hl.2])]
    simp
    omega

theorem start_of_plainAllowed {c : Char} {ds : List Char} (h : plainAllowed (c :: ds) = true) :
    startMarks.contains c = false ∧ spaceOrBreak c = false ∧
      ((c = '?' || c = ':' || c = '-') && startsGap ds) = false ∧ hasInnerMark c ds = false := by
  simp only [plainAllowed, hasMark, Bool.and_eq_true, Bool.not_eq_true', Bool.or_eq_false_iff,
    List.head?_cons, Option.any_some] at h
  obtain ⟨⟨⟨⟨-, ⟨⟨⟨-, hmarks⟩, hgap⟩, hinner⟩⟩, -⟩, hvisible⟩, -⟩ := h
  exact ⟨hmarks, hvisible, hgap, hinner⟩

theorem startsPlain_append (h : plainAllowed cs = true) (hne : cs ≠ []) (rest : List Char) :
    startsPlain (cs ++ rest) = true := by
  obtain ⟨c, ds, rfl⟩ := List.exists_cons_of_ne_nil hne
  obtain ⟨hmarks, hvisible, hgap, -⟩ := start_of_plainAllowed h
  have hgap : ((c = '-' || c = '?' || c = ':') && startsGap (ds ++ rest)) = false := by
    cases ds with
    | nil =>
      have hnone : (c = '?' || c = ':' || c = '-') = false := by simpa [startsGap] using hgap
      simp_all
    | cons d ds =>
      simp only [List.cons_append, startsGap] at hgap ⊢
      rw [← hgap]
      congr 1
      grind
  rw [List.cons_append, startsPlain, hmarks, hvisible, hgap]
  rfl

theorem not_innerMark_of_plainAllowed (h : plainAllowed cs = true) :
    hasInnerMark ' ' cs = false := by
  cases cs with
  | nil => rfl
  | cons c ds =>
    obtain ⟨hmarks, -, hgap, hinner⟩ := start_of_plainAllowed h
    have hsign : c ≠ '#' := by
      rintro rfl
      exact absurd hmarks (by decide)
    have hcolon : (decide (c = ':') && startsGap ds) = false := by
      cases hd : startsGap ds <;> simp_all
    simp [hasInnerMark, hcolon, hsign, hinner]

theorem last_not_white (h : plainAllowed cs = true) : cs.rdropWhile isWhite = cs := by
  rw [List.rdropWhile_eq_self_iff]
  intro hne hwhite
  have hmem := List.getLast_mem hne
  simp only [plainAllowed, Bool.and_eq_true, Bool.not_eq_true'] at h
  have hspecial := not_special_of_singleAllowed h.1.1.1.1
  have hlast : spaceOrBreak (cs.getLast hne) = false := by
    simpa [List.getLast?_eq_some_getLast hne] using h.2
  simp only [isWhite, Bool.or_eq_true, decide_eq_true_eq] at hwhite
  rcases hwhite with hspace | htab
  · rw [hspace] at hlast
    exact absurd hlast (by decide)
  · rw [htab] at hmem
    exact absurd hspecial (by simpa [hasSpecial] using ⟨_, hmem, rfl⟩)

theorem decodePlain_written {parent : Nat} (h : plainAllowed cs = true)
    (hother : looksOther cs = false) (hrest : Ends rest)
    (hcloses : ∀ behind, rest = '\n' :: behind → Outside (parent + 1) behind) :
    decodePlain parent (cs ++ rest) = some (cs, rest) := by
  have hne : cs ≠ [] := by
    rintro rfl
    exact absurd hother (by decide)
  have hends : (!rest.head?.any isLineBreak || closes parent rest) = true := by
    cases hrest with
    | line behind =>
      rw [closes_of_outside (hcloses behind rfl), Bool.or_true]
    | key _ => rfl
  rw [decodePlain, plainText_append (not_multiline_of_plainAllowed h)
    (not_innerMark_of_plainAllowed h) hrest]
  dsimp only
  rw [last_not_white h, startsPlain_append h hne, resolve_of_not_looksOther hother, hends]
  rfl

end Plain

end WorkflowManifest.Yaml
