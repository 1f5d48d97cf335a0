import WorkflowManifest.Proofs.Yaml.Indentation

namespace WorkflowManifest.Yaml

open Text

inductive Outside (n : Nat) : List Char → Prop
  | nothing : Outside n []
  | line {k : Nat} (hk : k < n) {c : Char} (hc : spaceOrBreak c = false) (cs : List Char) :
    Outside n (spaces k ++ c :: cs)

theorem Outside.mono {m n : Nat} (h : m ≤ n) {rest : List Char} (hr : Outside m rest) :
    Outside n rest := by
  cases hr with
  | nothing => exact .nothing
  | line hk hc cs => exact .line (by omega) hc cs

def dropSpaces? : Nat → List Char → Option (List Char)
  | 0, cs => some cs
  | _ + 1, [] => none
  | n + 1, c :: cs => if isSpace c then dropSpaces? n cs else none

@[simp] theorem dropSpaces?_spaces (n : Nat) (cs : List Char) :
    dropSpaces? n (spaces n ++ cs) = some cs := by
  induction n with
  | zero => rfl
  | succ n ih =>
    rw [spaces, List.replicate_succ, List.cons_append, ← spaces]
    simpa [dropSpaces?, isSpace] using ih

theorem dropSpaces?_short {k n : Nat} (h : k < n) {c : Char} (hc : isSpace c = false)
    (cs : List Char) : dropSpaces? n (spaces k ++ c :: cs) = none := by
  induction k generalizing n with
  | zero =>
    obtain ⟨n, rfl⟩ : ∃ m, n = m + 1 := ⟨n - 1, by omega⟩
    simp [spaces, dropSpaces?, hc]
  | succ k ih =>
    obtain ⟨n, rfl⟩ : ∃ m, n = m + 1 := ⟨n - 1, by omega⟩
    rw [spaces, List.replicate_succ, List.cons_append, ← spaces]
    simpa [dropSpaces?, isSpace] using ih (by omega)

inductive Place where
  | start
  | inside (skip : Nat)

def after (c : Char) : Place := if isLineBreak c then .start else .inside 0

def readBlock (n : Nat) : Place → List Char → List Char × List Char
  | _, [] => ([], [])
  | .start, c :: cs =>
    if isLineBreak c then (c :: (readBlock n .start cs).1, (readBlock n .start cs).2)
    else if (dropSpaces? n (c :: cs)).isSome then readBlock n (.inside (n - 1)) cs
    else ([], c :: cs)
  | .inside (skip + 1), _ :: cs => readBlock n (.inside skip) cs
  | .inside 0, c :: cs => (c :: (readBlock n (after c) cs).1, (readBlock n (after c) cs).2)

section Block

variable {n : Nat}

theorem readBlock_outside {rest : List Char} (h : Outside n rest) :
    readBlock n .start rest = ([], rest) := by
  cases h with
  | nothing => rfl
  | @line k hk c hc cs =>
    simp only [spaceOrBreak, Bool.or_eq_false_iff] at hc
    have hdrop := dropSpaces?_short hk hc.1 cs
    have hspace : isLineBreak ' ' = false := rfl
    cases k with
    | zero =>
      rw [spaces, List.replicate_zero, List.nil_append] at hdrop ⊢
      simp [readBlock, hdrop, isLineBreak_of_isBreak_false hc.2]
    | succ k =>
      rw [spaces, List.replicate_succ, List.cons_append] at hdrop ⊢
      simp [readBlock, hdrop, hspace]

theorem readBlock_spaces (skip : Nat) (cs : List Char) :
    readBlock n (.inside skip) (spaces skip ++ cs) = readBlock n (.inside 0) cs := by
  induction skip with
  | zero => rfl
  | succ skip ih =>
    rw [spaces, List.replicate_succ, List.cons_append, readBlock, ← spaces, ih]

theorem readBlock_inset (hn : 0 < n) (cs : List Char) :
    readBlock n .start (spaces n ++ cs) = readBlock n (.inside 0) cs := by
  obtain ⟨k, rfl⟩ : ∃ k, n = k + 1 := ⟨n - 1, by omega⟩
  have hspace : isLineBreak ' ' = false := rfl
  have hdrop := dropSpaces?_spaces (k + 1) cs
  have hrest := readBlock_spaces (n := k + 1) k cs
  rw [spaces, List.replicate_succ, List.cons_append, ← spaces] at hdrop ⊢
  simpa [readBlock, hspace, hdrop] using hrest

theorem readBlock_indentBroken (hn : 0 < n) {c : Char} (hc : isBreak c = isLineBreak c)
    (broken : Bool) (cs : List Char) :
    readBlock n (if broken then .start else .inside 0) (indentBroken n broken c ++ c :: cs) =
      (c :: (readBlock n (after c) cs).1, (readBlock n (after c) cs).2) := by
  cases broken with
  | false => rfl
  | true =>
    cases hb : isBreak c with
    | true =>
      rw [hb] at hc
      simp [indentBroken, hb, readBlock, ← hc, after]
    | false => simp [indentBroken, hb, readBlock_inset hn, readBlock]

theorem readBlock_literalBody (hn : 0 < n) {cs rest : List Char}
    (hcs : ∀ c ∈ cs, isBreak c = isLineBreak c) (hrest : Outside n rest) (broken : Bool)
    (hw : Whole cs ∨ cs = [] ∧ broken = true) :
    readBlock n (if broken then .start else .inside 0) (literalBody n broken cs ++ rest) =
      (cs, rest) := by
  induction cs generalizing broken with
  | nil =>
    rcases hw with hw | ⟨-, rfl⟩
    · exact absurd rfl hw.ne_nil
    · exact readBlock_outside hrest
  | cons c cs ih =>
    have hc := hcs c (by simp)
    have hafter : after c = if isBreak c then .start else .inside 0 := by rw [hc]; rfl
    have hw' : Whole cs ∨ cs = [] ∧ isBreak c = true := by
      cases cs with
      | nil =>
        refine .inr ⟨rfl, hc.trans ?_⟩
        simpa [whole_singleton] using hw
      | cons d cs => exact .inl (by simpa [whole_cons] using hw)
    have ih := ih (fun d hd => hcs d (by simp [hd])) (isBreak c) hw'
    rw [literalBody, List.append_assoc, List.cons_append, readBlock_indentBroken hn hc, hafter, ih]

end Block

def readLiteral (n : Nat) : List Char → Option (List Char × List Char)
  | '|' :: cs =>
    let hints := cs.takeWhile (· != '\n')
    let block := readBlock n .start ((cs.dropWhile (· != '\n')).drop 1)
    some (if hints.contains '-' then block.1.dropLast else block.1, block.2)
  | _ => none

theorem hints_contains {cs : List Char} (h : cs ≠ []) :
    (indentHint cs ++ chompHint cs).contains '-' = !cs.getLast?.any isBreak := by
  have hindent : (indentHint cs).contains '-' = false := by
    unfold indentHint
    split <;> rfl
  obtain ⟨c, ds, hcs⟩ := List.exists_cons_of_ne_nil (mt List.reverse_eq_nil_iff.1 h)
  have hlast : cs.getLast? = some c := by rw [← List.head?_reverse, hcs]; rfl
  have hchomp : (chompHint cs).contains '-' = !isBreak c := by
    unfold chompHint
    rw [hcs]
    cases hb : isBreak c with
    | false => simp [hb]
    | true =>
      cases ds with
      | nil => simp [hb]
      | cons d ds => cases hd : isBreak d <;> simp [hb, hd]
  simp only [List.contains_eq_mem, List.mem_append, Bool.decide_or] at hindent hchomp ⊢
  rw [hindent, hchomp, hlast]
  rfl

theorem literalBody_append_lineEnd (n : Nat) (broken : Bool) (cs : List Char) :
    literalBody n broken (cs ++ lineEnd) = literalBody n broken cs ++ lineEnd := by
  induction cs generalizing broken with
  | nil => simp [literalBody, lineEnd, indentBroken, isBreak]
  | cons c cs ih => simp [literalBody, ih]

theorem literalBody_append_tail (n : Nat) (cs : List Char) :
    literalBody n true cs ++ literalTail cs = literalBody n true (cs ++ literalTail cs) := by
  unfold literalTail
  split
  · rw [List.append_nil, List.append_nil]
  · exact (literalBody_append_lineEnd n true cs).symm

theorem isBreak_eq_of_mem_tail {cs : List Char} (h : ∀ c ∈ cs, isBreak c = isLineBreak c) :
    ∀ c ∈ cs ++ literalTail cs, isBreak c = isLineBreak c := by
  intro c hc
  rcases List.mem_append.1 hc with hc | hc
  · exact h c hc
  · unfold literalTail at hc
    split at hc
    · simp at hc
    · obtain rfl : c = '\n' := by simpa [lineEnd] using hc
      rfl

theorem readLiteral_scalarLines {n : Nat} (hn : 0 < n) {s : String} (h : style s.toList = .literal)
    {rest : List Char} (hrest : Outside n rest) :
    readLiteral n (scalarLines n s ++ rest) = some (s.toList, rest) := by
  have ha := style_allows s.toList
  rw [h] at ha
  have hne : s.toList ≠ [] := List.ne_nil_of_mem ha.2
  have hbreak : ∀ c ∈ s.toList, isBreak c = isLineBreak c := by
    intro c hc
    exact isBreak_eq_of_not_special (not_special_of_literalAllowed ha.1) hc
  have hwhole := whole_append_literalTail rfl hbreak
  have hblock := readBlock_literalBody hn (isBreak_eq_of_mem_tail hbreak) hrest true (.inl hwhole)
  rw [← literalBody_append_tail, if_pos rfl] at hblock
  have hhints : ∀ c ∈ indentHint s.toList ++ chompHint s.toList, (c != '\n') = true := by
    intro c hc
    have := hints_no_break s.toList hc
    rw [bne_iff_ne]
    rintro rfl
    simp [isLineBreak] at this
  have hstop : ∀ cs : List Char, ('\n' :: cs).takeWhile (· != '\n') = [] := fun _ => rfl
  have hstop' : ∀ cs : List Char, ('\n' :: cs).dropWhile (· != '\n') = '\n' :: cs := fun _ => rfl
  rw [scalarLines_literal h]
  simp only [List.cons_append, List.append_assoc, readLiteral]
  rw [← List.append_assoc (indentHint _), ← List.append_assoc (literalBody _ _ _),
    List.takeWhile_append_of_pos hhints, List.dropWhile_append_of_pos hhints, hstop, hstop',
    List.append_nil, hints_contains hne, List.drop_one, List.tail_cons, hblock]
  unfold literalTail
  cases hb : s.toList.getLast?.any isBreak <;> simp [lineEnd]

end WorkflowManifest.Yaml
