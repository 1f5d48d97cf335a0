import WorkflowManifest.Proofs.Json.NumberText
import WorkflowManifest.Proofs.Yaml.Number
import WorkflowManifest.Proofs.Yaml.Quoted

namespace WorkflowManifest.Yaml

open Text

inductive Token where
  | quoted (text : List Char)
  | plain (text : List Char)
  deriving DecidableEq

def Token.text : Token → List Char
  | .quoted cs => cs
  | .plain cs => cs

def readPlain : List Char → List Char × List Char
  | [] => ([], [])
  | c :: cs =>
    if c = '\n' || (c = ':' && startsGap cs) then ([], c :: cs)
    else (c :: (readPlain cs).1, (readPlain cs).2)

def readToken (indent : Nat) : List Char → Option (Token × List Char)
  | '\x27' :: cs => (readSingle indent (.text 0) cs).map fun (text, rest) => (.quoted text, rest)
  | '"' :: cs => (readDouble .none cs).map fun (text, rest) => (.quoted text, rest)
  | cs => some (.plain (readPlain cs).1, (readPlain cs).2)

inductive Ends : List Char → Prop
  | line (rest : List Char) : Ends ('\n' :: rest)
  | key {rest : List Char} (h : startsGap rest = true) : Ends (':' :: rest)

theorem Ends.no_quote {rest : List Char} (h : Ends rest) : rest.head? ≠ some '\x27' := by
  cases h <;> simp

def isUnbroken : List Char → Bool
  | [] => true
  | c :: cs => c != '\n' && !(c = ':' && startsGap cs) && isUnbroken cs

theorem readPlain_append {cs rest : List Char} (hcs : isUnbroken cs = true) (h : Ends rest) :
    readPlain (cs ++ rest) = (cs, rest) := by
  induction cs with
  | nil =>
    cases h with
    | line rest => simp [readPlain]
    | key h => simp [readPlain, h]
  | cons c cs ih =>
    simp only [isUnbroken, Bool.and_eq_true, bne_iff_ne, ne_eq, Bool.not_eq_true'] at hcs
    obtain ⟨⟨hn, hgap⟩, hcs⟩ := hcs
    have hgap' : (decide (c = ':') && startsGap (cs ++ rest)) = false := by
      cases cs with
      | nil =>
        have : c ≠ ':' := by simpa [startsGap] using hgap
        simp [this]
      | cons d ds => exact hgap
    simp [readPlain, hn, hgap', ih hcs]

theorem isUnbroken_of_no_colon {cs : List Char} (h : ∀ c ∈ cs, c ≠ '\n' ∧ c ≠ ':') :
    isUnbroken cs = true := by
  induction cs with
  | nil => rfl
  | cons c cs ih =>
    obtain ⟨hn, hc⟩ := h c (by simp)
    simp [isUnbroken, hn, hc, ih fun d hd => h d (by simp [hd])]

theorem isUnbroken_of_no_mark {previous : Char} {cs : List Char} (hline : isMultiline cs = false)
    (h : hasInnerMark previous cs = false) : isUnbroken cs = true := by
  induction cs generalizing previous with
  | nil => rfl
  | cons c cs ih =>
    have hn : c ≠ '\n' := by
      rintro rfl
      simp [isMultiline, isBreak] at hline
    simp only [isMultiline, List.any_cons, Bool.or_eq_false_iff] at hline
    simp only [hasInnerMark, Bool.or_eq_false_iff] at h
    simp [isUnbroken, hn, h.1.1, ih hline.2 h.2]

inductive Layout where
  | literal
  | items
  | marked
  | token
  deriving DecidableEq

def layoutOf : List Char → Layout
  | '|' :: _ => .literal
  | '-' :: ' ' :: _ => .items
  | '?' :: ' ' :: _ => .marked
  | _ => .token

def opens : List Char → Bool
  | [] => false
  | c :: cs =>
    c != '\x27' && c != '"' && c != '|' && !spaceOrBreak c &&
      !((c = '-' || c = '?') && startsGap cs)

/-- A text is read as a token up to its end, and no layout of a block begins like it. -/
structure Reads (indent : Nat) (cs : List Char) (t : Token) : Prop where
  back : ∀ rest, Ends rest → readToken indent (cs ++ rest) = some (t, rest)
  layout : ∀ rest, layoutOf (cs ++ rest) = .token
  visible : cs.head?.any (fun c => !spaceOrBreak c) = true

theorem layoutOf_of_ne {c : Char} (h : c ≠ '|' ∧ c ≠ '-' ∧ c ≠ '?') (cs : List Char) :
    layoutOf (c :: cs) = .token := by
  unfold layoutOf
  split <;> simp_all

theorem layoutOf_of_opens {cs : List Char} (h : opens cs = true) (rest : List Char) :
    layoutOf (cs ++ rest) = .token := by
  cases cs with
  | nil => simp [opens] at h
  | cons c cs =>
    simp only [opens, Bool.and_eq_true, bne_iff_ne, ne_eq] at h
    obtain ⟨⟨⟨-, hbar⟩, -⟩, hgap⟩ := h
    have hspace : (c = '-' ∨ c = '?') → ∀ ds, cs ++ rest ≠ ' ' :: ds := by
      intro hc ds heq
      have hgap : startsGap cs = false := by
        rcases hc with rfl | rfl <;> simpa using hgap
      cases cs with
      | nil => simp [startsGap] at hgap
      | cons d cs =>
        obtain ⟨rfl, -⟩ := List.cons.inj heq
        simp [startsGap, isGap] at hgap
    rw [List.cons_append]
    unfold layoutOf
    split <;> simp_all

theorem reads_plain {cs : List Char} (ho : opens cs = true) (hu : isUnbroken cs = true)
    (indent : Nat) : Reads indent cs (.plain cs) where
  back := by
    intro rest hrest
    have hread := readPlain_append hu hrest
    cases cs with
    | nil => simp [opens] at ho
    | cons c cs =>
      simp only [opens, Bool.and_eq_true, bne_iff_ne, ne_eq] at ho
      rw [List.cons_append] at hread ⊢
      unfold readToken
      split <;> simp_all
  layout := layoutOf_of_opens ho
  visible := by
    cases cs with
    | nil => simp [opens] at ho
    | cons c cs => simp_all [opens]

theorem opens_of_plainAllowed {cs : List Char} (h : plainAllowed cs = true) (hne : cs ≠ []) :
    opens cs = true := by
  obtain ⟨c, ds, rfl⟩ := List.exists_cons_of_ne_nil hne
  simp only [plainAllowed, hasMark, Bool.and_eq_true, Bool.not_eq_true', Bool.or_eq_false_iff,
    List.head?_cons, Option.any_some] at h
  obtain ⟨⟨⟨⟨-, ⟨⟨⟨-, hmarks⟩, hgap⟩, -⟩⟩, -⟩, hvisible⟩, -⟩ := h
  have hmark : ∀ d, d ∈ startMarks → c ≠ d := by
    rintro d hd rfl
    simp [hd] at hmarks
  have hgap : ((decide (c = '-') || decide (c = '?')) && startsGap ds) = false := by
    cases hg : startsGap ds <;> simp_all
  simp [opens, hmark '\x27' (by decide), hmark '"' (by decide), hmark '|' (by decide), hvisible,
    hgap]

theorem isUnbroken_of_plainAllowed {cs : List Char} (h : plainAllowed cs = true) :
    isUnbroken cs = true := by
  have hline := not_multiline_of_plainAllowed h
  cases cs with
  | nil => rfl
  | cons c ds =>
    simp only [plainAllowed, hasMark, Bool.and_eq_true, Bool.not_eq_true', Bool.or_eq_false_iff]
      at h
    obtain ⟨⟨⟨⟨-, ⟨⟨-, hgap⟩, hinner⟩⟩, -⟩, -⟩, -⟩ := h
    have hn : c ≠ '\n' := by
      rintro rfl
      simp [isMultiline, isBreak] at hline
    have hcolon : (decide (c = ':') && startsGap ds) = false := by
      cases hg : startsGap ds <;> simp_all
    simp only [isMultiline, List.any_cons, Bool.or_eq_false_iff] at hline
    simp [isUnbroken, hn, hcolon, isUnbroken_of_no_mark hline.2 hinner]

theorem reads_single {cs : List Char} (h : singleAllowed cs = true) (indent : Nat) :
    Reads indent ('\x27' :: singleBody indent false cs ++ ['\x27']) (.quoted cs) where
  back := by
    intro rest hrest
    have hbreak : ∀ c ∈ cs, isBreak c = isLineBreak c := by
      intro c hc
      exact isBreak_eq_of_not_special (not_special_of_singleAllowed h) hc
    have hread : readSingle indent (.text 0) (singleBody indent false cs ++ '\x27' :: rest) =
        some (cs, rest) := readSingle_singleBody hbreak false hrest.no_quote
    simp only [List.cons_append, List.append_assoc, readToken]
    exact congrArg (Option.map _) hread
  layout := by
    intro rest
    exact layoutOf_of_ne (by decide) _
  visible := rfl

theorem reads_double (cs : List Char) (indent : Nat) :
    Reads indent ('"' :: cs.flatMap escape ++ ['"']) (.quoted cs) where
  back := by
    intro rest _
    have hread := readDouble_escaped cs rest
    simp only [List.cons_append, List.append_assoc, readToken]
    exact congrArg (Option.map _) hread
  layout := by
    intro rest
    exact layoutOf_of_ne (by decide) _
  visible := rfl

def stringToken (cs : List Char) : Token := if style cs = .plain then .plain cs else .quoted cs

theorem text_stringToken (cs : List Char) : (stringToken cs).text = cs := by
  unfold stringToken
  split <;> rfl

theorem reads_scalarChars {cs : List Char} (h : style cs ≠ .literal) (indent : Nat) :
    Reads indent (scalarChars indent cs) (stringToken cs) := by
  have ha := style_allows cs
  unfold scalarChars stringToken
  cases hs : style cs with
  | plain =>
    rw [hs] at ha
    have hne : cs ≠ [] := by
      rintro rfl
      exact absurd ha.2 (by decide)
    exact reads_plain (opens_of_plainAllowed ha.1 hne) (isUnbroken_of_plainAllowed ha.1) indent
  | single =>
    rw [hs] at ha
    exact reads_single ha indent
  | double => exact reads_double cs indent
  | literal => exact absurd hs h

def Token.value : Token → Json
  | .quoted cs => .str (String.ofList cs)
  | .plain cs =>
    if looksOther cs then
      match Json.Number.read cs with
      | .ok n => .num n
      | .error _ => if cs.head? = some 'n' then .null else .bool (cs.head? = some 't')
    else if cs = "[]".toList then .arr []
    else if cs = "\x7b\x7d".toList then .obj []
    else .str (String.ofList cs)

theorem value_stringToken (cs : List Char) :
    (stringToken cs).value = .str (String.ofList cs) := by
  have ha := style_allows cs
  unfold stringToken
  split
  next hs =>
    rw [hs] at ha
    obtain ⟨hplain, hother⟩ := ha
    have hlist : cs ≠ "[]".toList := by
      rintro rfl
      exact absurd hplain (by decide)
    have hmap : cs ≠ "\x7b\x7d".toList := by
      rintro rfl
      exact absurd hplain (by decide)
    simp only [Token.value, hother, if_neg hlist, if_neg hmap, Bool.false_eq_true, if_false]
  next => rfl

theorem opens_numberChars (n : Json.Number) : opens (numberChars n) = true := by
  have hdigit : ∀ d : Digit, d.char ≠ '\x27' ∧ d.char ≠ '"' ∧ d.char ≠ '|' ∧ d.char ≠ '-' ∧
      d.char ≠ '?' ∧ spaceOrBreak d.char = false ∧ isGap d.char = false := by decide
  obtain ⟨d, cs, hcs⟩ := bodyChars_head n
  rw [numberChars_eq, hcs]
  obtain ⟨hsingle, hdouble, hbar, hminus, hquery, hspace, hgap⟩ := hdigit d
  cases n.negative with
  | true =>
    have hminus : spaceOrBreak '-' = false := rfl
    simp [opens, startsGap, hgap, hminus]
  | false => simp [opens, hsingle, hdouble, hbar, hminus, hquery, hspace]

theorem isUnbroken_numberChars (n : Json.Number) : isUnbroken (numberChars n) = true := by
  have hmark : ∀ c ∈ ['-', '.', 'e'], c ≠ '\n' ∧ c ≠ ':' := by simp
  have hdigit : ∀ d : Digit, d.char ≠ '\n' ∧ d.char ≠ ':' := by decide
  apply isUnbroken_of_no_colon
  intro c hc
  rcases mem_numberChars hc with hc | ⟨d, rfl⟩
  · exact hmark c hc
  · exact hdigit d

theorem reads_number (n : Json.Number) (indent : Nat) :
    Reads indent (numberChars n) (.plain (numberChars n)) :=
  reads_plain (opens_numberChars n) (isUnbroken_numberChars n) indent

theorem value_number {n : Json.Number} (h : looksOther (numberChars n) = true) :
    (Token.plain (numberChars n)).value = .num n := by
  have hread : Json.Number.read (numberChars n) = .ok n :=
    Json.Number.read_charsWith (.inl rfl) n
  simp only [Token.value, h, hread, if_true]

end WorkflowManifest.Yaml
