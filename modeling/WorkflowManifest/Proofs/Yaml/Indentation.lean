import WorkflowManifest.Proofs.Text.Lines
import WorkflowManifest.Yaml.Block

/-!
Every text that stands for a node ends its line, and its lines after the first are blank or set in
at least as far as the node.
-/

namespace WorkflowManifest.Yaml

open Text

theorem isBreak_of_isPrintable {c : Char} (h : isPrintable c = true) :
    isBreak c = isLineBreak c := by
  have hr : c ≠ '\r' := by rintro rfl; exact absurd h (by decide)
  have hn : c ≠ '\u0085' := by rintro rfl; exact absurd h (by decide)
  simp [isBreak, isLineBreak, hr, hn]

theorem isBreak_eq_of_not_special {cs : List Char} (h : hasSpecial cs = false) {c : Char}
    (hc : c ∈ cs) : isBreak c = isLineBreak c := by
  simp only [hasSpecial, List.any_eq_false, Bool.not_eq_true', Bool.not_eq_false] at h
  exact isBreak_of_isPrintable (h c hc)

theorem isLineBreak_of_isBreak_false {c : Char} (h : isBreak c = false) :
    isLineBreak c = false := by
  simp_all [isBreak, isLineBreak]

def doubled (cs : List Char) : List Char :=
  cs.flatMap fun c => if c = '\x27' then ['\x27', '\x27'] else [c]

theorem singleBody_append_quote (indent : Nat) (broken : Bool) (cs : List Char) :
    singleBody indent broken cs ++ ['\x27'] =
      literalBody indent broken (doubled cs ++ ['\x27']) := by
  induction cs generalizing broken with
  | nil => cases broken <;> simp [singleBody, literalBody, doubled, indentBroken, isBreak]
  | cons c cs ih =>
    have hq : isBreak '\x27' = false := by decide
    by_cases hc : c = '\x27'
    · subst hc
      simp only [singleBody, List.append_assoc, ih, hq]
      simp [doubled, literalBody, indentBroken, hq]
    · simp only [singleBody, List.append_assoc, ih, hc]
      simp [doubled, literalBody, hc]

/-- What may follow a break, or stand within a line. -/
def Continues (n : Nat) (broken : Bool) (cs : List Char) : Prop :=
  if broken then Indented n cs else Hanging n cs

theorem Continues.indentBroken {n indent : Nat} (h : n ≤ indent) {c : Char}
    (hc : isBreak c = isLineBreak c) {cs : List Char} (hcs : Continues n (isBreak c) cs)
    (broken : Bool) : Continues n broken (indentBroken indent broken c ++ c :: cs) := by
  cases hb : isBreak c with
  | true =>
    rw [hb] at hc
    have hcs : Indented n cs := by simpa [Continues, hb] using hcs
    cases broken with
    | true => simpa [Continues, Yaml.indentBroken, hb, indented_break hc.symm]
    | false => simpa [Continues, Yaml.indentBroken, hanging_break hc.symm]
  | false =>
    rw [hb] at hc
    have hcs : Hanging n (c :: cs) := by
      simpa [Continues, hb, hanging_cons hc.symm] using hcs
    cases broken with
    | true => simpa [Continues, Yaml.indentBroken, hb] using hcs.indented h (by simp)
    | false => simpa [Continues, Yaml.indentBroken] using hcs

theorem continues_literalBody {n indent : Nat} (h : n ≤ indent) {cs tail : List Char}
    (hcs : ∀ c ∈ cs, isBreak c = isLineBreak c) (htail : ∀ broken, Continues n broken tail)
    (broken : Bool) : Continues n broken (literalBody indent broken cs ++ tail) := by
  induction cs generalizing broken with
  | nil => exact htail broken
  | cons c cs ih =>
    rw [literalBody, List.append_assoc, List.cons_append]
    exact .indentBroken h (hcs c (by simp)) (ih (fun d hd => hcs d (by simp [hd])) _) broken

theorem mem_literalBody {indent : Nat} {broken : Bool} {cs : List Char} {c : Char}
    (h : c ∈ literalBody indent broken cs) : c = ' ' ∨ c ∈ cs := by
  induction cs generalizing broken with
  | nil => simp [literalBody] at h
  | cons d cs ih =>
    simp only [literalBody, List.mem_append, List.mem_cons] at h
    rcases h with h | rfl | h
    · unfold indentBroken at h
      split at h
      · exact Or.inl (List.eq_of_mem_replicate h)
      · simp at h
    · simp
    · rcases ih h with h | h
      · exact Or.inl h
      · simp [h]

theorem mem_doubled {cs : List Char} {c : Char} (h : c ∈ doubled cs) : c = '\x27' ∨ c ∈ cs := by
  simp only [doubled, List.mem_flatMap] at h
  obtain ⟨d, hd, hc⟩ := h
  split at hc <;> simp_all

theorem upperHex_no_break {width n : Nat} {c : Char} (h : c ∈ upperHex width n) :
    isLineBreak c = false := by
  induction width generalizing n with
  | zero => simp [upperHex] at h
  | succ width ih =>
    simp only [upperHex, List.mem_append, List.mem_singleton] at h
    rcases h with h | rfl
    · exact ih h
    · have hd : ∀ d < 16, isLineBreak (Text.hexDigit d).toUpper = false := by decide
      exact hd _ (Nat.mod_lt _ (by decide))

theorem hexEscape_no_break {mark : Char} (hm : isLineBreak mark = false) {width n : Nat} {c : Char}
    (h : c ∈ '\\' :: mark :: upperHex width n) : isLineBreak c = false := by
  simp only [List.mem_cons] at h
  rcases h with rfl | rfl | h
  · rfl
  · exact hm
  · exact upperHex_no_break h

theorem escape_no_break {c d : Char} (h : d ∈ escape c) : isLineBreak d = false := by
  unfold escape at h
  split at h
  case h_15 =>
    have hc : isLineBreak c = false := by simp_all [isLineBreak]
    split at h
    · simp_all
    · split at h
      · exact hexEscape_no_break rfl h
      · split at h
        · exact hexEscape_no_break rfl h
        · exact hexEscape_no_break rfl h
  all_goals simp only [List.mem_cons, List.not_mem_nil, or_false] at h
  all_goals rcases h with rfl | rfl <;> rfl

theorem not_special_of_singleAllowed {cs : List Char} (h : singleAllowed cs = true) :
    hasSpecial cs = false := by
  simp_all [singleAllowed]

theorem not_special_of_literalAllowed {cs : List Char} (h : literalAllowed cs = true) :
    hasSpecial cs = false := by
  simp_all [literalAllowed]

def Style.Allows (cs : List Char) : Style → Prop
  | .plain => plainAllowed cs = true ∧ looksOther cs = false
  | .single => singleAllowed cs = true
  | .double => True
  | .literal => literalAllowed cs = true ∧ '\n' ∈ cs

theorem contains_of_wanted_literal {cs : List Char} (h : wanted cs = .literal) : '\n' ∈ cs := by
  unfold wanted at h
  split at h
  · simp_all
  · split at h <;> simp at h

theorem not_looksOther_of_wanted_plain {cs : List Char} (h : wanted cs = .plain) :
    looksOther cs = false := by
  unfold wanted at h
  split at h
  · simp at h
  · split at h <;> simp_all

theorem style_allows (cs : List Char) : (style cs).Allows cs := by
  unfold style
  cases hw : wanted cs with
  | plain =>
    have := not_looksOther_of_wanted_plain hw
    simp only
    split
    · simp_all [Style.Allows]
    · split <;> simp_all [Style.Allows]
  | single => simp only; split <;> simp_all [Style.Allows]
  | double => simp only; split <;> simp_all [Style.Allows]
  | literal =>
    have := contains_of_wanted_literal hw
    simp only
    split <;> simp_all [Style.Allows]

/-- A text that ends its last line, and whose further lines are blank or set in by `n` at least. -/
structure Nested (n : Nat) (cs : List Char) : Prop where
  hanging : Hanging n cs
  whole : Whole cs

namespace Nested

variable {n indent : Nat} {cs ds : List Char}

theorem cons {c : Char} (hc : isLineBreak c = false) (h : Nested n cs) : Nested n (c :: cs) :=
  ⟨(hanging_cons hc).2 h.hanging, h.whole.cons c⟩

theorem behind (hds : ∀ c ∈ ds, isLineBreak c = false) (h : Nested n cs) : Nested n (ds ++ cs) :=
  ⟨(hanging_of_no_break hds).2 h.hanging, h.whole.append ds⟩

theorem spaces_append (h : Nested n cs) (hi : n ≤ indent) : Indented n (spaces indent ++ cs) :=
  h.hanging.indented hi h.whole.ne_nil

theorem append (h : Nested n ds) (hi : n ≤ indent) (hcs : Nested n cs) :
    Nested n (ds ++ (spaces indent ++ cs)) :=
  ⟨(hanging_append h.whole).2 ⟨h.hanging, hcs.spaces_append hi⟩, (hcs.whole.append _).append _⟩

theorem below (hi : n ≤ indent) (h : Nested n cs) : Nested n ('\n' :: spaces indent ++ cs) :=
  ⟨(hanging_break rfl).2 (h.spaces_append hi), (h.whole.append _).cons _⟩

end Nested

theorem nested_line {n : Nat} {cs : List Char} (h : ∀ c ∈ cs, isLineBreak c = false) :
    Nested n (line cs) := by
  rw [line]
  exact .cons rfl (.behind h ⟨(hanging_break rfl).2 (indented_nil n), whole_singleton.2 rfl⟩)

theorem no_break_of_not_multiline {cs : List Char} (h : isMultiline cs = false) :
    ∀ c ∈ cs, isLineBreak c = false := by
  intro c hc
  simp only [isMultiline, List.any_eq_false, Bool.not_eq_true] at h
  exact isLineBreak_of_isBreak_false (h c hc)

theorem not_multiline_of_plainAllowed {cs : List Char} (h : plainAllowed cs = true) :
    isMultiline cs = false := by
  simp_all [plainAllowed]

theorem mem_singleBody {indent : Nat} {broken : Bool} {cs : List Char} {c : Char}
    (h : c ∈ singleBody indent broken cs) : c = ' ' ∨ c = '\x27' ∨ c ∈ cs := by
  have h' : c ∈ singleBody indent broken cs ++ ['\x27'] := List.mem_append_left _ h
  rw [singleBody_append_quote] at h'
  rcases mem_literalBody h' with h' | h'
  · exact Or.inl h'
  · rw [List.mem_append, List.mem_singleton] at h'
    rcases h' with h' | h'
    · exact Or.inr (mem_doubled h')
    · exact Or.inr (Or.inl h')

theorem escaped_no_break {cs : List Char} {c : Char} (h : c ∈ cs.flatMap escape) :
    isLineBreak c = false := by
  obtain ⟨d, -, hc⟩ := List.mem_flatMap.1 h
  exact escape_no_break hc

theorem scalarChars_no_break {indent : Nat} {cs : List Char} (h : isMultiline cs = false) :
    ∀ c ∈ scalarChars indent cs, isLineBreak c = false := by
  have hcs := no_break_of_not_multiline h
  have hq : isLineBreak '\x27' = false := rfl
  intro c hc
  have ha := style_allows cs
  unfold scalarChars at hc
  split at hc
  next => exact hcs c hc
  next =>
    simp only [List.cons_append, List.mem_cons, List.mem_append, List.not_mem_nil, or_false] at hc
    rcases hc with rfl | hc | rfl
    · exact hq
    · rcases mem_singleBody hc with rfl | rfl | hc
      · rfl
      · exact hq
      · exact hcs c hc
    · exact hq
  next =>
    simp only [List.cons_append, List.mem_cons, List.mem_append, List.not_mem_nil, or_false] at hc
    rcases hc with rfl | hc | rfl
    · rfl
    · exact escaped_no_break hc
    · rfl
  next hs =>
    rw [hs] at ha
    exact absurd (hcs '\n' ha.2) (by decide)

theorem getLast?_literalBody (indent : Nat) (broken : Bool) (cs : List Char) :
    (literalBody indent broken cs).getLast? = cs.getLast? := by
  induction cs generalizing broken with
  | nil => rfl
  | cons c cs ih =>
    rw [literalBody, List.getLast?_append, List.getLast?_cons, List.getLast?_cons, ih]
    rfl

theorem mem_hints {cs : List Char} {c : Char} (h : c ∈ indentHint cs ++ chompHint cs) :
    c ∈ ['2', '-', '+'] := by
  rw [List.mem_append] at h
  rcases h with h | h
  · unfold indentHint at h
    split at h <;> simp_all
  · unfold chompHint at h
    split at h
    · simp_all
    · split at h
      · simp_all
      · split at h
        · simp_all
        · split at h <;> simp_all

theorem hints_no_break (cs : List Char) {c : Char} (h : c ∈ indentHint cs ++ chompHint cs) :
    isLineBreak c = false := by
  have hall : ∀ d ∈ ['2', '-', '+'], isLineBreak d = false := by simp [isLineBreak]
  exact hall c (mem_hints h)

def literalTail (cs : List Char) : List Char := if cs.getLast?.any isBreak then [] else lineEnd

theorem whole_append_literalTail {xs cs : List Char} (hlast : xs.getLast? = cs.getLast?)
    (h : ∀ c ∈ cs, isBreak c = isLineBreak c) : Whole (xs ++ literalTail cs) := by
  rw [literalTail]
  split
  next hb =>
    obtain ⟨c, hc, hb⟩ := (Option.any_eq_true _ _).1 hb
    rw [List.append_nil]
    exact ⟨c, hlast.trans hc, (h c (List.mem_of_getLast? hc)).symm.trans hb⟩
  next => exact .append _ (whole_singleton.2 rfl)

theorem continues_literalTail {n : Nat} (cs : List Char) (broken : Bool) :
    Continues n broken (literalTail cs) := by
  have hnil : ∀ b, Continues n b [] := by
    intro b
    cases b <;> simp [Continues, Indented, Hanging, lines]
  rw [literalTail]
  split
  · exact hnil broken
  · cases broken with
    | true => exact (indented_break rfl).2 (hnil true)
    | false => exact (hanging_break rfl).2 (hnil true)

section Styles

variable {indent : Nat} {s : String}

theorem scalarLines_plain (h : style s.toList = .plain) :
    scalarLines indent s = s.toList ++ lineEnd := by
  simp [scalarLines, scalarChars, endsLine, h]

theorem scalarLines_single (h : style s.toList = .single) :
    scalarLines indent s =
      '\x27' :: (literalBody indent false (doubled s.toList ++ ['\x27']) ++ lineEnd) := by
  simp [scalarLines, scalarChars, endsLine, h, ← singleBody_append_quote]

theorem scalarLines_double (h : style s.toList = .double) :
    scalarLines indent s = '"' :: (s.toList.flatMap escape ++ '"' :: lineEnd) := by
  simp [scalarLines, scalarChars, endsLine, h]

theorem scalarLines_literal (h : style s.toList = .literal) :
    scalarLines indent s = '|' :: (indentHint s.toList ++ chompHint s.toList ++
      '\n' :: (literalBody indent true s.toList ++ literalTail s.toList)) := by
  simp [scalarLines, scalarChars, endsLine, h, literalTail]

end Styles

theorem nested_lineEnd (n : Nat) : Nested n lineEnd :=
  ⟨(hanging_break rfl).2 (indented_nil n), whole_singleton.2 rfl⟩

theorem nested_single {n indent : Nat} (h : n ≤ indent) {cs : List Char}
    (hcs : singleAllowed cs = true) :
    Nested n (literalBody indent false (doubled cs ++ ['\x27']) ++ lineEnd) := by
  have hbreak : ∀ c ∈ doubled cs ++ ['\x27'], isBreak c = isLineBreak c := by
    intro c hc
    rw [List.mem_append, List.mem_singleton] at hc
    rcases hc with hc | rfl
    · rcases mem_doubled hc with rfl | hc
      · rfl
      · exact isBreak_eq_of_not_special (not_special_of_singleAllowed hcs) hc
    · rfl
  have htail : ∀ broken, Continues n broken lineEnd := by
    intro broken
    cases broken with
    | true => exact (indented_break rfl).2 (indented_nil n)
    | false => exact (nested_lineEnd n).hanging
  exact ⟨continues_literalBody h hbreak htail false, (nested_lineEnd n).whole.append _⟩

theorem nested_literal {n indent : Nat} (h : n ≤ indent) {cs : List Char}
    (hcs : literalAllowed cs = true) :
    Nested n ('\n' :: (literalBody indent true cs ++ literalTail cs)) := by
  have hbreak : ∀ c ∈ cs, isBreak c = isLineBreak c := by
    intro c hc
    exact isBreak_eq_of_not_special (not_special_of_literalAllowed hcs) hc
  exact ⟨(hanging_break rfl).2 (continues_literalBody h hbreak (continues_literalTail cs) true),
    (whole_append_literalTail (getLast?_literalBody indent true cs) hbreak).cons _⟩

theorem nested_scalarLines {n indent : Nat} (h : n ≤ indent) (s : String) :
    Nested n (scalarLines indent s) := by
  have ha := style_allows s.toList
  cases hs : style s.toList with
  | plain =>
    rw [hs] at ha
    rw [scalarLines_plain hs]
    exact (nested_lineEnd n).behind
      (no_break_of_not_multiline (not_multiline_of_plainAllowed ha.1))
  | single =>
    rw [hs] at ha
    rw [scalarLines_single hs]
    exact .cons rfl (nested_single h ha)
  | double =>
    rw [scalarLines_double hs]
    exact .cons rfl (.behind (fun c hc => escaped_no_break hc) (.cons rfl (nested_lineEnd n)))
  | literal =>
    rw [hs] at ha
    rw [scalarLines_literal hs]
    exact .cons rfl (.behind (fun c hc => hints_no_break _ hc) (nested_literal h ha.1))

theorem mem_digits {ds : List Digit} {c : Char} (h : c ∈ ds.map Digit.char) :
    ∃ d, c = Digit.char d := by
  obtain ⟨d, -, rfl⟩ := List.mem_map.1 h
  exact ⟨d, rfl⟩

theorem mem_numberChars {n : Json.Number} {c : Char} (h : c ∈ numberChars n) :
    c ∈ ['-', '.', 'e'] ∨ ∃ d, c = Digit.char d := by
  have hsign : ∀ b : Bool, ∀ c ∈ (if b then ['-'] else []), c ∈ ['-', '.', 'e'] := by simp
  simp only [numberChars, Json.Number.charsWith, List.mem_append] at h
  rcases h with ((h | h) | h) | h
  · exact .inl (hsign _ c h)
  · exact .inr (mem_digits h)
  · unfold Json.Number.fractionChars at h
    split at h
    · simp at h
    · rcases List.mem_cons.1 h with rfl | h
      · simp
      · exact .inr (mem_digits h)
  · unfold Json.Number.exponentChars Json.Exponent.charsWith at h
    split at h
    · simp at h
    · rw [List.cons_append, List.mem_cons, List.mem_append] at h
      rcases h with rfl | h | h
      · simp
      · exact .inl (hsign _ c h)
      · exact .inr (mem_digits h)

theorem numberChars_no_break {n : Json.Number} {c : Char} (h : c ∈ numberChars n) :
    isLineBreak c = false := by
  have hmark : ∀ c ∈ ['-', '.', 'e'], isLineBreak c = false := by simp [isLineBreak]
  have hdigit : ∀ d, isLineBreak (Digit.char d) = false := by decide
  rcases mem_numberChars h with h | ⟨d, rfl⟩
  · exact hmark c h
  · exact hdigit d

theorem literal_no_break (b : Bool) {c : Char} (h : c ∈ Json.literal b) :
    isLineBreak c = false := by
  have hb : ∀ b, ∀ c ∈ Json.literal b, isLineBreak c = false := by
    simp [Json.literal, isLineBreak]
  exact hb b c h

theorem itemChars_singleton (indent : Nat) (x : Json) :
    itemChars indent [x] = '-' :: besideMark indent x := by
  simp [itemChars]

theorem itemChars_cons_cons (indent : Nat) (x y : Json) (xs : List Json) :
    itemChars indent (x :: y :: xs) =
      '-' :: (besideMark indent x ++ (spaces indent ++ itemChars indent (y :: xs))) := by
  rw [itemChars]
  simp

theorem entryChars_simple {k : String} (hk : isSimpleKey k = true) (indent : Nat) (x : Json) :
    entryChars indent [(k, x)] =
      scalarChars (indent + step) k.toList ++ ':' :: underKey indent x := by
  simp [entryChars, hk]

theorem entryChars_marked {k : String} (hk : isSimpleKey k = false) (indent : Nat) (x : Json) :
    entryChars indent [(k, x)] = '?' :: ' ' :: (scalarLines (indent + step) k ++
      (spaces indent ++ ':' :: besideMark indent x)) := by
  simp [entryChars, hk]

theorem entryChars_cons_cons (indent : Nat) (e f : String × Json) (es : List (String × Json)) :
    entryChars indent (e :: f :: es) =
      entryChars indent [e] ++ (spaces indent ++ entryChars indent (f :: es)) := by
  simp [entryChars]

theorem nested_entry {n indent : Nat} (h : n ≤ indent) {k : String} {x : Json}
    (hunder : Nested n (underKey indent x)) (hbeside : Nested n (besideMark indent x)) :
    Nested n (entryChars indent [(k, x)]) := by
  cases hk : isSimpleKey k with
  | true =>
    have hline : isMultiline k.toList = false := by simp_all [isSimpleKey]
    rw [entryChars_simple hk]
    exact .behind (scalarChars_no_break hline) (.cons rfl hunder)
  | false =>
    rw [entryChars_marked hk]
    exact .cons rfl (.cons rfl
      (.append (nested_scalarLines (by omega) k) h (.cons rfl hbeside)))

mutual

theorem nested_underKey {n indent : Nat} (h : n ≤ indent) : ∀ x, Nested n (underKey indent x)
  | .null => nested_line (by simp [isLineBreak])
  | .bool b => nested_line fun _ hc => literal_no_break b hc
  | .num _ => nested_line fun _ hc => numberChars_no_break hc
  | .str s => by
    rw [underKey]
    exact .cons rfl (nested_scalarLines (by omega) s)
  | .arr [] => nested_line (by simp [isLineBreak])
  | .arr (x :: xs) => by
    rw [underKey]
    exact .below h (nested_itemChars h (x :: xs) (by simp))
  | .obj [] => nested_line (by simp [isLineBreak])
  | .obj (e :: es) => by
    rw [underKey]
    exact .below (by omega) (nested_entryChars (by omega) (e :: es) (by simp))

theorem nested_besideMark {n indent : Nat} (h : n ≤ indent) : ∀ x, Nested n (besideMark indent x)
  | .null => nested_line (by simp [isLineBreak])
  | .bool b => nested_line fun _ hc => literal_no_break b hc
  | .num _ => nested_line fun _ hc => numberChars_no_break hc
  | .str s => by
    rw [besideMark]
    exact .cons rfl (nested_scalarLines (by omega) s)
  | .arr [] => nested_line (by simp [isLineBreak])
  | .arr (x :: xs) => by
    rw [besideMark]
    exact .cons rfl (nested_itemChars (by omega) (x :: xs) (by simp))
  | .obj [] => nested_line (by simp [isLineBreak])
  | .obj (e :: es) => by
    rw [besideMark]
    exact .cons rfl (nested_entryChars (by omega) (e :: es) (by simp))

theorem nested_itemChars {n indent : Nat} (h : n ≤ indent) :
    ∀ xs, xs ≠ [] → Nested n (itemChars indent xs)
  | [x], _ => by
    rw [itemChars_singleton]
    exact .cons rfl (nested_besideMark h x)
  | x :: y :: ys, _ => by
    rw [itemChars_cons_cons]
    exact .cons rfl (.append (nested_besideMark h x) h (nested_itemChars h (y :: ys) (by simp)))

theorem nested_entryChars {n indent : Nat} (h : n ≤ indent) :
    ∀ es, es ≠ [] → Nested n (entryChars indent es)
  | [(_, x)], _ => nested_entry h (nested_underKey h x) (nested_besideMark h x)
  | (_, x) :: f :: fs, _ => by
    rw [entryChars_cons_cons]
    exact .append (nested_entry h (nested_underKey h x) (nested_besideMark h x)) h
      (nested_entryChars h (f :: fs) (by simp))

end

end WorkflowManifest.Yaml
