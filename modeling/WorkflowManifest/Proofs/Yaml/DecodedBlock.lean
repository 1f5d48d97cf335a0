import WorkflowManifest.Proofs.Yaml.LiteralBlock
import Mathlib.Data.List.DropRight

namespace WorkflowManifest.Yaml

open Text

section Lines

def width (l : List Char) : Nat := (l.takeWhile isSpace).length

def isBlankLine (l : List Char) : Bool := (content l).all isSpace

def inBlock (n : Nat) (l : List Char) : Bool := n ≤ width l || isBlankLine l

def unset (n : Nat) (l : List Char) : List Char := l.drop (min n (width l))

def inset (n : Nat) (l : List Char) : List Char := if content l = [] then l else spaces n ++ l

theorem width_spaces (n : Nat) (l : List Char) : width (spaces n ++ l) = n + width l := by
  have hspaces : ∀ c ∈ spaces n, isSpace c = true := by
    intro c hc
    rw [List.eq_of_mem_replicate hc]
    rfl
  rw [width, List.takeWhile_append_of_pos hspaces, List.length_append, spaces,
    List.length_replicate, width]

theorem content_spaces (n : Nat) (l : List Char) : content (spaces n ++ l) = spaces n ++ content l := by
  rw [content, List.takeWhile_append_of_pos, content]
  intro c hc
  rw [spaces_no_break hc]
  rfl

theorem width_of_visible {c : Char} (hc : isSpace c = false) (cs : List Char) :
    width (c :: cs) = 0 := by
  simp [width, hc]

theorem width_eq_zero {l : List Char} (h : content l = []) : width l = 0 := by
  cases l with
  | nil => rfl
  | cons c cs =>
    apply width_of_visible
    cases hc : isSpace c with
    | false => rfl
    | true =>
      obtain rfl : c = ' ' := by simpa [isSpace] using hc
      simp [content, isLineBreak] at h

theorem inBlock_inset (n : Nat) (l : List Char) : inBlock n (inset n l) = true := by
  unfold inset
  split
  next h => simp [inBlock, isBlankLine, h]
  next => simp [inBlock, width_spaces]

theorem unset_inset (n : Nat) (l : List Char) : unset n (inset n l) = l := by
  unfold inset
  split
  next h => rw [unset, width_eq_zero h, Nat.min_zero, List.drop_zero]
  next =>
    rw [unset, width_spaces, Nat.min_eq_left (Nat.le_add_right _ _), spaces,
      List.drop_left' List.length_replicate]

theorem lines_literalBody {n : Nat} {cs : List Char} (h : ∀ c ∈ cs, isBreak c = isLineBreak c) :
    lines (literalBody n true cs) = (lines cs).map (inset n) ∧
      lines (literalBody n false cs) =
        (lines cs).head?.toList ++ (lines cs).tail.map (inset n) := by
  induction cs with
  | nil => exact ⟨rfl, rfl⟩
  | cons c cs ih =>
    obtain ⟨ihstart, ihinside⟩ := ih fun d hd => h d (by simp [hd])
    have hc := h c (by simp)
    cases hb : isLineBreak c with
    | true =>
      rw [hb] at hc
      have hblank : inset n [c] = [c] := by simp [inset, content, hb]
      constructor
      · simp [literalBody, indentBroken, hc, lines_break hb, ihstart, hblank]
      · simp [literalBody, indentBroken, hc, lines_break hb, ihstart]
    | false =>
      rw [hb] at hc
      have hinside : lines (literalBody n false (c :: cs)) =
          (c :: (lines cs).headD []) :: (lines cs).tail.map (inset n) := by
        rw [literalBody, indentBroken, hc]
        simp only [Bool.not_false, Bool.and_true, Bool.false_eq_true, if_false, List.nil_append]
        rw [lines_cons hb, ihinside]
        cases lines cs <;> rfl
      constructor
      · have hline : inset n (c :: (lines cs).headD []) =
            spaces n ++ c :: (lines cs).headD [] := by
          simp [inset, content, hb]
        have hstart : literalBody n true (c :: cs) = spaces n ++ literalBody n false (c :: cs) := by
          simp [literalBody, indentBroken, hc]
        rw [hstart, lines_append_of_no_break (fun _ hd => spaces_no_break hd)
          (by simp [literalBody]), hinside, lines_cons hb, List.map_cons, hline]
        rfl
      · rw [hinside, lines_cons hb]
        rfl

theorem not_inBlock_of_outside {n : Nat} {rest : List Char} (h : Outside n rest) :
    ∀ l ∈ (lines rest).head?, inBlock n l = false := by
  cases h with
  | nothing => simp [lines]
  | @line k hk c hc cs =>
    simp only [spaceOrBreak, Bool.or_eq_false_iff] at hc
    have hb := isLineBreak_of_isBreak_false hc.2
    intro l hl
    rw [lines_append_of_no_break (fun _ hd => spaces_no_break hd) (by simp), lines_cons hb] at hl
    obtain rfl : spaces k ++ c :: (lines cs).headD [] = l := by simpa using hl
    have hblank : isBlankLine (spaces k ++ c :: (lines cs).headD []) = false := by
      rw [isBlankLine, content_spaces]
      simp [content, hb, hc.1]
    rw [inBlock, hblank, width_spaces, width_of_visible hc.1]
    simp
    omega

end Lines

section Chomping

inductive Chomping where
  | strip
  | clip
  | keep

def Chomping.apply (chomping : Chomping) (cs : List Char) : List Char :=
  let text := cs.rdropWhile isLineBreak
  match chomping with
  | .strip => text
  | .clip => text ++ if text.isEmpty then [] else (cs.drop text.length).take 1
  | .keep => cs

def Chomping.sign : Chomping → List Char
  | .strip => ['-']
  | .clip => []
  | .keep => ['+']

end Chomping

def hints? : Option Nat → Option Chomping → List Char → Option (Option Nat × Chomping × List Char)
  | _, _, [] => none
  | digit, chomping, c :: cs =>
    if c = '\n' then some (digit, chomping.getD .clip, cs)
    else match c, digit, chomping with
      | '-', digit, none => hints? digit (some .strip) cs
      | '+', digit, none => hints? digit (some .keep) cs
      | c, none, chomping =>
        if '1' ≤ c ∧ c ≤ '9' then hints? (some (c.toNat - '0'.toNat)) chomping cs else none
      | _, _, _ => none

def detected : List (List Char) → Nat
  | [] => 0
  | l :: ls => if isBlankLine l then max (width l) (detected ls) else width l

def decodeLiteral (parent : Nat) (cs : List Char) : Option (List Char × List Char) :=
  (hints? none none cs).map fun (digit, chomping, body) =>
    let n := match digit with
      | some k => parent + k
      | none => max (parent + 1) (detected (lines body))
    (chomping.apply (((lines body).takeWhile (inBlock n)).map (unset n)).flatten,
      ((lines body).dropWhile (inBlock n)).flatten)

section Written

theorem exists_chomping {cs : List Char} (hne : cs ≠ [])
    (h : ∀ c ∈ cs, isBreak c = isLineBreak c) :
    ∃ chomping : Chomping, chompHint cs = chomping.sign ∧
      chomping.apply (cs ++ literalTail cs) = cs := by
  obtain ⟨ds, c, rfl⟩ := (List.eq_nil_or_concat' cs).resolve_left hne
  have hc := h c (by simp)
  have hlast : literalTail (ds ++ [c]) = if isBreak c then [] else lineEnd := by
    simp [literalTail]
  rw [hlast, chompHint, List.reverse_append, List.reverse_singleton, List.singleton_append]
  cases hb : isBreak c with
  | false =>
    rw [hb] at hc
    refine ⟨.strip, by simp [hb, Chomping.sign], ?_⟩
    rw [if_neg (by simp), Chomping.apply, lineEnd, List.rdropWhile_concat_pos _ _ _ rfl,
      List.rdropWhile_concat_neg _ _ _ (by simp [← hc])]
  | true =>
    rw [hb] at hc
    rw [if_pos rfl, List.append_nil]
    rcases List.eq_nil_or_concat' ds with rfl | ⟨es, b, rfl⟩
    · exact ⟨.keep, by simp [hb, Chomping.sign], rfl⟩
    · have hb' := h b (by simp)
      rw [List.reverse_append, List.reverse_singleton, List.singleton_append]
      cases hbreak : isBreak b with
      | true => exact ⟨.keep, by simp [hb, hbreak, Chomping.sign], rfl⟩
      | false =>
        rw [hbreak] at hb'
        refine ⟨.clip, by simp [hb, hbreak, Chomping.sign], ?_⟩
        rw [Chomping.apply, List.rdropWhile_concat_pos _ _ _ hc.symm,
          List.rdropWhile_concat_neg _ _ _ (by simp [← hb'])]
        simp

theorem hints?_written (cs : List Char) (chomping : Chomping) (body : List Char) :
    hints? none none (indentHint cs ++ chomping.sign ++ '\n' :: body) =
      some (if cs.head?.any spaceOrBreak then some 2 else none, chomping, body) := by
  unfold indentHint
  split <;> cases chomping <;> rfl

theorem whole_literalBody {n : Nat} {cs : List Char} (h : Whole cs) :
    Whole (literalBody n true cs) := by
  obtain ⟨c, hc, hb⟩ := h
  exact ⟨c, (getLast?_literalBody n true cs).trans hc, hb⟩

variable {n : Nat} {cs rest : List Char}

theorem block_lines (h : ∀ c ∈ cs, isBreak c = isLineBreak c) (hw : Whole cs)
    (hrest : Outside n rest) :
    ((lines (literalBody n true cs ++ rest)).takeWhile (inBlock n)).map (unset n) = lines cs ∧
      (lines (literalBody n true cs ++ rest)).dropWhile (inBlock n) = lines rest := by
  have hin : ∀ l ∈ (lines cs).map (inset n), inBlock n l = true := by
    intro l hl
    obtain ⟨l, -, rfl⟩ := List.mem_map.1 hl
    exact inBlock_inset n l
  have hout := not_inBlock_of_outside hrest
  have hstop : (lines rest).takeWhile (inBlock n) = [] ∧
      (lines rest).dropWhile (inBlock n) = lines rest := by
    cases hlines : lines rest with
    | nil => exact ⟨rfl, rfl⟩
    | cons l ls =>
      have hl := hout l (by simp [hlines])
      simp [hl]
  have hback : unset n ∘ inset n = id := funext (unset_inset n)
  rw [lines_append (whole_literalBody hw), (lines_literalBody h).1, List.takeWhile_append_of_pos hin,
    List.dropWhile_append_of_pos hin, hstop.1, hstop.2, List.append_nil, List.map_map, hback,
    List.map_id]
  exact ⟨rfl, rfl⟩

theorem detected_literalBody (h : ∀ c ∈ cs, isBreak c = isLineBreak c) (hw : Whole cs) {c : Char}
    {ds : List Char} (hcs : cs = c :: ds) (hc : spaceOrBreak c = false) :
    detected (lines (literalBody n true cs ++ rest)) = n := by
  simp only [spaceOrBreak, Bool.or_eq_false_iff] at hc
  have hb := isLineBreak_of_isBreak_false hc.2
  have hvisible : content (c :: (lines ds).headD []) ≠ [] := by simp [content, hb]
  rw [lines_append (whole_literalBody hw), (lines_literalBody h).1, hcs, lines_cons hb,
    List.map_cons, List.cons_append, inset, if_neg hvisible, detected, isBlankLine,
    content_spaces, width_spaces, width_of_visible hc.1]
  simp [content, hb, hc.1]

theorem decodeLiteral_written {parent : Nat} (ha : literalAllowed cs = true) (hne : cs ≠ [])
    (hrest : Outside (parent + step) rest) :
    decodeLiteral parent (indentHint cs ++ chompHint cs ++
      '\n' :: (literalBody (parent + step) true cs ++ literalTail cs ++ rest)) =
        some (cs, rest) := by
  have hbreak : ∀ c ∈ cs, isBreak c = isLineBreak c := fun c hc =>
    isBreak_eq_of_not_special (not_special_of_literalAllowed ha) hc
  have hbreak' := isBreak_eq_of_mem_tail hbreak
  have hwhole : Whole (cs ++ literalTail cs) := whole_append_literalTail rfl hbreak
  obtain ⟨hlines, hafter⟩ := block_lines hbreak' hwhole hrest
  obtain ⟨chomping, hsign, hchomp⟩ := exists_chomping hne hbreak
  obtain ⟨c, ds, hcs⟩ := List.exists_cons_of_ne_nil hne
  rw [decodeLiteral, hsign, hints?_written, literalBody_append_tail, Option.map_some]
  dsimp only
  cases hhead : cs.head?.any spaceOrBreak with
  | true =>
    have hstep : parent + 2 = parent + step := rfl
    simp only [if_true, hstep, hlines, hafter, flatten_lines, hchomp]
  | false =>
    have hvisible : spaceOrBreak c = false := by simpa [hcs] using hhead
    have hdetected :
        detected (lines (literalBody (parent + step) true (cs ++ literalTail cs) ++ rest)) =
          parent + step :=
      detected_literalBody hbreak' hwhole (congrArg (· ++ literalTail cs) hcs) hvisible
    have hmax : max (parent + 1) (parent + step) = parent + step := by simp [step]
    simp only [Bool.false_eq_true, if_false, hdetected, hmax, hlines, hafter, flatten_lines, hchomp]

end Written

end WorkflowManifest.Yaml
