import WorkflowManifest.Proofs.Yaml.LiteralBlock
import WorkflowManifest.Proofs.Yaml.Token

namespace WorkflowManifest.Yaml

mutual

def Legible : Json → Prop
  | .null | .bool _ | .str _ => True
  | .num n => looksOther (numberChars n) = true
  | .arr xs => LegibleItems xs
  | .obj es => LegibleEntries es

def LegibleItems : List Json → Prop
  | [] => True
  | x :: xs => Legible x ∧ LegibleItems xs

def LegibleEntries : List (String × Json) → Prop
  | [] => True
  | (_, x) :: es => Legible x ∧ LegibleEntries es

end

def readString (indent : Nat) (cs : List Char) : Option (List Char × List Char) :=
  match layoutOf cs with
  | .literal => readLiteral indent cs
  | _ =>
    match readToken indent cs with
    | some (t, '\n' :: rest) => some (t.text, rest)
    | _ => none

section Node

variable (node : Nat → List Char → Option (Json × List Char))

def readUnder (indent : Nat) : List Char → Option (Json × List Char)
  | ' ' :: cs => node (indent + step) cs
  | '\n' :: cs =>
    match dropSpaces? indent cs with
    | some ('-' :: cs) => node indent ('-' :: cs)
    | some (' ' :: ' ' :: cs) => node (indent + step) cs
    | _ => none
  | _ => none

def readMarked (indent : Nat) (cs : List Char) : Option ((String × Json) × List Char) :=
  match readString (indent + step) cs with
  | some (k, rest) =>
    match dropSpaces? indent rest with
    | some (':' :: ' ' :: rest) =>
      (node (indent + step) rest).map fun (x, rest) => ((String.ofList k, x), rest)
    | _ => none
  | none => none

def readEntry (indent : Nat) : List Char → Option ((String × Json) × List Char)
  | '?' :: ' ' :: cs => readMarked node indent cs
  | cs =>
    match readToken (indent + step) cs with
    | some (t, ':' :: rest) =>
      (readUnder node indent rest).map fun (x, rest) => ((String.ofList t.text, x), rest)
    | _ => none

end Node

mutual

def readNode : Nat → Nat → List Char → Option (Json × List Char)
  | 0, _, _ => none
  | fuel + 1, indent, cs =>
    match layoutOf cs with
    | .literal => (readLiteral indent cs).map fun (s, rest) => (.str (String.ofList s), rest)
    | .items => (readItems fuel indent cs).map fun (xs, rest) => (.arr xs, rest)
    | .marked => (readEntries fuel indent cs).map fun (es, rest) => (.obj es, rest)
    | .token =>
      match readToken indent cs with
      | some (t, '\n' :: rest) => some (t.value, rest)
      | some (_, ':' :: _) => (readEntries fuel indent cs).map fun (es, rest) => (.obj es, rest)
      | _ => none

def readItems : Nat → Nat → List Char → Option (List Json × List Char)
  | fuel + 1, indent, '-' :: ' ' :: cs =>
    match readNode fuel (indent + step) cs with
    | some (x, rest) =>
      match dropSpaces? indent rest with
      | some ('-' :: ' ' :: more) =>
        (readItems fuel indent ('-' :: ' ' :: more)).map fun (xs, rest) => (x :: xs, rest)
      | _ => some ([x], rest)
    | none => none
  | _, _, _ => none

def readEntries : Nat → Nat → List Char → Option (List (String × Json) × List Char)
  | 0, _, _ => none
  | fuel + 1, indent, cs =>
    match readEntry (readNode fuel) indent cs with
    | some (e, rest) =>
      match dropSpaces? indent rest with
      | some (c :: more) =>
        (readEntries fuel indent (c :: more)).map fun (es, rest) => (e :: es, rest)
      | _ => some ([e], rest)
    | none => none

end

section Scalars

theorem singleBody_of_line {cs : List Char} (h : isMultiline cs = false) (m n : Nat) :
    singleBody m false cs = singleBody n false cs := by
  induction cs with
  | nil => rfl
  | cons c cs ih =>
    simp only [isMultiline, List.any_cons, Bool.or_eq_false_iff] at h
    simp [singleBody, indentBroken, h.1, ih h.2]

theorem style_ne_literal_of_line {cs : List Char} (h : isMultiline cs = false) :
    style cs ≠ .literal := by
  intro hs
  have ha := style_allows cs
  rw [hs] at ha
  exact absurd (no_break_of_not_multiline h '\n' ha.2) (by decide)

theorem scalarChars_of_line {cs : List Char} (h : isMultiline cs = false) (m n : Nat) :
    scalarChars m cs = scalarChars n cs := by
  have hs := style_ne_literal_of_line h
  unfold scalarChars
  split
  next => rfl
  next => rw [singleBody_of_line h]
  next => rfl
  next hl => exact absurd hl hs

theorem scalarLines_of_ne_literal {s : String} (h : style s.toList ≠ .literal) (n : Nat) :
    scalarLines n s = scalarChars n s.toList ++ lineEnd := by
  simp [scalarLines, endsLine, h]

variable {n : Nat} {rest : List Char}

theorem layoutOf_literal {s : String} (h : style s.toList = .literal) :
    layoutOf (scalarLines n s ++ rest) = .literal := by
  rw [scalarLines_literal h]
  rfl

theorem readString_scalarLines (hn : 0 < n) (s : String) (h : Outside n rest) :
    readString n (scalarLines n s ++ rest) = some (s.toList, rest) := by
  unfold readString
  by_cases hs : style s.toList = .literal
  · rw [layoutOf_literal hs, readLiteral_scalarLines hn hs h]
  · have hr := reads_scalarChars hs n
    have hback := hr.back ('\n' :: rest) (.line rest)
    have hlayout := hr.layout ('\n' :: rest)
    rw [scalarLines_of_ne_literal hs, lineEnd, List.append_assoc, List.singleton_append, hlayout,
      hback]
    simp [text_stringToken]

theorem readNode_token {cs : List Char} {t : Token} (h : Reads n cs t) (fuel : Nat) :
    readNode (fuel + 1) n (cs ++ '\n' :: rest) = some (t.value, rest) := by
  rw [readNode, h.layout]
  simp only
  rw [h.back _ (.line rest)]
  rfl

theorem readNode_scalarLines (hn : 0 < n) (s : String) (h : Outside n rest) (fuel : Nat) :
    readNode (fuel + 1) n (scalarLines n s ++ rest) = some (.str s, rest) := by
  by_cases hs : style s.toList = .literal
  · rw [readNode, layoutOf_literal hs]
    simp only
    rw [readLiteral_scalarLines hn hs h, Option.map_some, String.ofList_toList]
  · rw [scalarLines_of_ne_literal hs, lineEnd, List.append_assoc, List.singleton_append,
      readNode_token (reads_scalarChars hs n), value_stringToken, String.ofList_toList]

end Scalars

section Entries

variable {indent : Nat} {rest : List Char}

theorem underKey_gap (indent : Nat) (x : Json) : ∃ c cs, underKey indent x = c :: cs ∧
    isGap c = true := by
  unfold underKey
  split <;> exact ⟨_, _, rfl, rfl⟩

theorem ends_underKey (indent : Nat) (x : Json) (rest : List Char) :
    Ends (':' :: (underKey indent x ++ rest)) := by
  obtain ⟨c, cs, hcs, hc⟩ := underKey_gap indent x
  exact .key (by rw [hcs]; exact hc)

theorem line_of_isSimpleKey {k : String} (h : isSimpleKey k = true) :
    isMultiline k.toList = false := by
  simp only [isSimpleKey, Bool.and_eq_true, Bool.not_eq_true'] at h
  exact h.1

theorem reads_key {k : String} (h : isSimpleKey k = true) (m n : Nat) :
    Reads m (scalarChars n k.toList) (stringToken k.toList) := by
  have hline := line_of_isSimpleKey h
  rw [scalarChars_of_line hline n m]
  exact reads_scalarChars (style_ne_literal_of_line hline) m

theorem readEntry_token {node : Nat → List Char → Option (Json × List Char)} {cs : List Char}
    (h : layoutOf cs = .token) :
    readEntry node indent cs =
      match readToken (indent + step) cs with
      | some (t, ':' :: rest) =>
        (readUnder node indent rest).map fun (x, rest) => ((String.ofList t.text, x), rest)
      | _ => none := by
  unfold readEntry
  split
  next => simp [layoutOf] at h
  next => rfl

theorem readEntry_simple {node : Nat → List Char → Option (Json × List Char)} {k : String}
    (hk : isSimpleKey k = true) {x : Json}
    (hx : readUnder node indent (underKey indent x ++ rest) = some (x, rest)) :
    readEntry node indent (entryChars indent [(k, x)] ++ rest) = some ((k, x), rest) := by
  have hr := reads_key hk (indent + step) (indent + step)
  rw [entryChars_simple hk, List.append_assoc, List.cons_append, readEntry_token (hr.layout _),
    hr.back _ (ends_underKey indent x rest)]
  simp [hx, text_stringToken]

theorem readEntry_marked {node : Nat → List Char → Option (Json × List Char)} {k : String}
    (hk : isSimpleKey k = false) {x : Json} {cs : List Char} (hcs : besideMark indent x = ' ' :: cs)
    (hx : node (indent + step) (cs ++ rest) = some (x, rest)) :
    readEntry node indent (entryChars indent [(k, x)] ++ rest) = some ((k, x), rest) := by
  have hout : Outside (indent + step) (spaces indent ++ ':' :: ' ' :: (cs ++ rest)) :=
    .line (by simp [step]) rfl _
  have hpos : 0 < indent + step := Nat.succ_pos _
  have hkey := readString_scalarLines hpos k hout
  rw [entryChars_marked hk, hcs]
  simp only [List.cons_append, List.append_assoc, readEntry, readMarked]
  rw [hkey]
  simp [hx]

theorem head_entryChars (indent : Nat) (k : String) (x : Json) (es : List (String × Json)) :
    ∃ c cs, entryChars indent ((k, x) :: es) = c :: cs ∧ spaceOrBreak c = false ∧
      ∀ rest, layoutOf (c :: cs ++ rest) ≠ .items := by
  cases hk : isSimpleKey k with
  | true =>
    have hr := reads_key hk (indent + step) (indent + step)
    obtain ⟨c, hc, hv⟩ := (Option.any_eq_true _ _).1 hr.visible
    obtain ⟨cs, hcs⟩ := List.head?_eq_some_iff.1 hc
    refine ⟨c, cs ++ (':' :: underKey indent x ++ ((if es.isEmpty then [] else spaces indent) ++
      entryChars indent es)), by simp [entryChars, hk, hcs], by simpa using hv, fun rest => ?_⟩
    rw [← List.cons_append, ← hcs, List.append_assoc, hr.layout]
    decide
  | false =>
    refine ⟨'?', ' ' :: _, by simp only [entryChars, hk]; rfl, rfl, fun rest => ?_⟩
    simp [layoutOf]

theorem dropSpaces?_outside {n : Nat} {rest : List Char} (h : Outside n rest) :
    dropSpaces? n rest = none ∨ dropSpaces? n rest = some [] := by
  cases h with
  | nothing => cases n <;> simp [dropSpaces?]
  | line hk hc cs =>
    simp only [spaceOrBreak, Bool.or_eq_false_iff] at hc
    exact .inl (dropSpaces?_short hk hc.1 cs)

end Entries

def NoItem (n : Nat) (rest : List Char) : Prop :=
  ∀ cs, dropSpaces? n rest ≠ some ('-' :: ' ' :: cs)

theorem Outside.noItem {n : Nat} {rest : List Char} (h : Outside n rest) : NoItem n rest := by
  intro cs hcs
  rcases dropSpaces?_outside h with hn | hn <;> simp [hn] at hcs

theorem noItem_entryChars (indent : Nat) (e : String × Json) (es : List (String × Json))
    (rest : List Char) :
    NoItem indent (spaces indent ++ (entryChars indent (e :: es) ++ rest)) := by
  obtain ⟨c, cs, hcs, -, hlayout⟩ := head_entryChars indent e.1 e.2 es
  intro ds hds
  rw [dropSpaces?_spaces, Option.some.injEq, hcs] at hds
  apply hlayout rest
  rw [hds]
  rfl

theorem outside_entryChars {indent n : Nat} (h : indent < n) (e : String × Json)
    (es : List (String × Json)) (rest : List Char) :
    Outside n (spaces indent ++ (entryChars indent (e :: es) ++ rest)) := by
  obtain ⟨c, cs, hcs, hc, -⟩ := head_entryChars indent e.1 e.2 es
  rw [hcs]
  exact .line h hc _

end WorkflowManifest.Yaml
