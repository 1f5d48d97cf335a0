import WorkflowManifest.Proofs.Yaml.Token

namespace WorkflowManifest.Yaml

/-- A tab, a line feed, or a character past the controls that has a look of its own. -/
def Showable (c : Char) : Prop :=
  c = '\t' ∨ c = '\n' ∨ (0x20 ≤ c.toNat ∧ c.toNat ≤ 0x7e) ∨ (0xa0 ≤ c.toNat ∧ c.toNat ≤ 0xd7ff) ∨
    (0xe000 ≤ c.toNat ∧ c.toNat ≤ 0xfffd ∧ c.toNat ≠ 0xfeff) ∨
      (0x10000 ≤ c.toNat ∧ c.toNat ≤ 0x10ffff)

instance : DecidablePred Showable := fun _ => inferInstanceAs (Decidable (_ ∨ _))

def isForeign (c : Char) : Bool := 0x80 ≤ c.toNat && c != '\u2028' && c != '\u2029'

/-- Whether an escape in a double-quoted text gives a character by its number. -/
def hasNumber : List Char → Bool
  | '\\' :: e :: cs => (digitCount? e).isSome || hasNumber cs
  | _ :: cs => hasNumber cs
  | [] => false

def isNumbered : List Char → Bool
  | '"' :: cs => hasNumber cs
  | _ => false

structure Shows (scalar cs : List Char) : Prop where
  unnumbered : isNumbered scalar = false
  foreign : scalar.filter isForeign = cs.filter isForeign

section Doubled

variable {c : Char} {cs : List Char}

theorem hasNumber_cons (h : c ≠ '\\') (cs : List Char) : hasNumber (c :: cs) = hasNumber cs := by
  cases cs <;> simp [hasNumber, h]

theorem isPrintable_of_showable (h : Showable c) (ht : c ≠ '\t') : isPrintable c = true := by
  have hne {n : Char} (hn : c.toNat ≠ n.toNat) : c ≠ n := fun hc => hn (congrArg Char.toNat hc)
  simp only [isPrintable, Bool.or_eq_true, Bool.and_eq_true, decide_eq_true_eq, bne_iff_ne]
  obtain rfl | rfl | h | h | h | h := h
  · exact absurd rfl ht
  · exact .inl (.inl rfl)
  · exact .inl (.inr h)
  all_goals
    exact .inr
      ⟨⟨⟨by omega, hne (by simp; omega)⟩, hne (by simp; omega)⟩, hne (by simp; omega)⟩

theorem escape_of_showable (h : Showable c) :
    (∃ m, escape c = ['\\', m] ∧ digitCount? m = none ∧ isForeign m = false ∧
      isForeign c = false) ∨ (escape c = [c] ∧ c ≠ '\\') := by
  unfold escape
  split
  case h_12 => exact absurd h (by decide)
  case h_15 _ _ _ ht _ _ _ _ _ _ hslash _ _ _ =>
    rw [if_pos (isPrintable_of_showable h ht)]
    exact .inr ⟨rfl, hslash⟩
  all_goals exact .inl ⟨_, rfl, by decide, by decide, by decide⟩

theorem hasNumber_escape (h : Showable c) (cs : List Char) :
    hasNumber (escape c ++ cs) = hasNumber cs := by
  obtain ⟨m, hescape, hm, -⟩ | ⟨hescape, hslash⟩ := escape_of_showable h
  · simp [hescape, hasNumber, hm]
  · rw [hescape, List.singleton_append, hasNumber_cons hslash]

theorem filter_escape (h : Showable c) :
    (escape c).filter isForeign = [c].filter isForeign := by
  obtain ⟨m, hescape, -, hm, hc⟩ | ⟨hescape, -⟩ := escape_of_showable h
  · have hslash : isForeign '\\' = false := by decide
    simp [hescape, hm, hc, hslash]
  · rw [hescape]

theorem hasNumber_escaped (h : ∀ c ∈ cs, Showable c) (rest : List Char) :
    hasNumber (cs.flatMap escape ++ rest) = hasNumber rest := by
  induction cs with
  | nil => rfl
  | cons c cs ih =>
    obtain ⟨hc, hcs⟩ := List.forall_mem_cons.1 h
    rw [List.flatMap_cons, List.append_assoc, hasNumber_escape hc, ih hcs]

theorem filter_escaped (h : ∀ c ∈ cs, Showable c) :
    (cs.flatMap escape).filter isForeign = cs.filter isForeign := by
  induction cs with
  | nil => rfl
  | cons c cs ih =>
    obtain ⟨hc, hcs⟩ := List.forall_mem_cons.1 h
    rw [List.flatMap_cons, List.filter_append, filter_escape hc, ih hcs, ← List.filter_append,
      List.singleton_append]

end Doubled

section Filtered

theorem filter_spaces (n : Nat) : (spaces n).filter isForeign = [] := by
  have hspace : isForeign ' ' = false := by decide
  rw [spaces, List.filter_replicate, hspace]
  rfl

theorem filter_indentBroken (n : Nat) (broken : Bool) (c : Char) :
    (indentBroken n broken c).filter isForeign = [] := by
  unfold indentBroken
  split
  · exact filter_spaces n
  · rfl

theorem filter_literalBody (n : Nat) (broken : Bool) (cs : List Char) :
    (literalBody n broken cs).filter isForeign = cs.filter isForeign := by
  induction cs generalizing broken with
  | nil => rfl
  | cons c cs ih =>
    rw [literalBody, List.filter_append, filter_indentBroken, List.nil_append, List.filter_cons,
      List.filter_cons, ih]

theorem filter_doubled (cs : List Char) :
    (doubled cs).filter isForeign = cs.filter isForeign := by
  have hquote : isForeign '\x27' = false := by decide
  induction cs with
  | nil => rfl
  | cons c cs ih =>
    rw [doubled, List.flatMap_cons, ← doubled, List.filter_append, ih, List.filter_cons]
    by_cases hc : c = '\x27'
    · simp [hc, hquote]
    · rw [if_neg hc, List.filter_cons]
      split <;> rfl

theorem filter_hints (cs : List Char) :
    (indentHint cs ++ chompHint cs).filter isForeign = [] := by
  have hall : ['2', '-', '+'].all (fun c => !isForeign c) := by decide
  rw [List.filter_eq_nil_iff]
  intro c hc
  simpa using List.all_eq_true.1 hall c (mem_hints hc)

end Filtered

section Scalars

variable {cs : List Char}

theorem isNumbered_cons {c : Char} (h : c ≠ '"') (cs : List Char) :
    isNumbered (c :: cs) = false := by
  unfold isNumbered
  split
  next hc => exact absurd (List.cons.inj hc).1 h
  next => rfl

theorem isNumbered_scalarChars (h : ∀ c ∈ cs, Showable c) (n : Nat) (rest : List Char)
    (hrest : hasNumber rest = false) : isNumbered (scalarChars n cs ++ rest) = false := by
  have ha := style_allows cs
  unfold scalarChars
  cases hs : style cs with
  | plain =>
    rw [hs] at ha
    cases cs with
    | nil => exact absurd ha.2 (by decide)
    | cons c cs =>
      have hopens := opens_of_plainAllowed ha.1 (List.cons_ne_nil c cs)
      exact isNumbered_cons (by rintro rfl; simp [opens] at hopens) (cs ++ rest)
  | single => exact isNumbered_cons (by decide) _
  | double =>
    simp only [List.cons_append, List.append_assoc, isNumbered, hasNumber_escaped h]
    rw [hasNumber_cons (by decide), List.nil_append, hrest]
  | literal => exact isNumbered_cons (by decide) _

theorem filter_scalarChars (h : ∀ c ∈ cs, Showable c) (n : Nat) :
    (scalarChars n cs).filter isForeign = cs.filter isForeign := by
  have hsingle : isForeign '\x27' = false := by decide
  have hdouble : isForeign '"' = false := by decide
  have hbar : isForeign '|' = false := by decide
  have hline : isForeign '\n' = false := by decide
  unfold scalarChars
  cases style cs with
  | plain => rfl
  | single =>
    dsimp only
    rw [List.cons_append, singleBody_append_quote]
    simp [filter_literalBody, filter_doubled, hsingle]
  | double => simp [filter_escaped h, hdouble]
  | literal =>
    have hhints := filter_hints cs
    rw [List.filter_append, List.append_eq_nil_iff] at hhints
    simp [hhints.1, hhints.2, filter_literalBody, hbar, hline]

theorem shows_scalarChars (h : ∀ c ∈ cs, Showable c) (n : Nat) : Shows (scalarChars n cs) cs where
  unnumbered := by
    have hnumber := isNumbered_scalarChars h n [] rfl
    rwa [List.append_nil] at hnumber
  foreign := filter_scalarChars h n

theorem shows_scalarLines {s : String} (h : ∀ c ∈ s.toList, Showable c) (n : Nat) :
    Shows (scalarLines n s) s.toList := by
  unfold scalarLines
  split
  · rw [List.append_nil]
    exact shows_scalarChars h n
  · have hline : isForeign '\n' = false := by decide
    refine ⟨isNumbered_scalarChars h n _ rfl, ?_⟩
    rw [List.filter_append, filter_scalarChars h n]
    simp [lineEnd, hline]

end Scalars

end WorkflowManifest.Yaml
