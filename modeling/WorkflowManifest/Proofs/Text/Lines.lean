import WorkflowManifest.Yaml.Scalar

namespace WorkflowManifest.Text

open Yaml (spaces)

/-- Line feeds and the two separators of Unicode. -/
def isLineBreak (c : Char) : Bool := c = '\n' || c = '\u2028' || c = '\u2029'

def lines : List Char → List (List Char)
  | [] => []
  | c :: cs =>
    if isLineBreak c then [c] :: lines cs
    else match lines cs with
      | [] => [[c]]
      | l :: ls => (c :: l) :: ls

def content (l : List Char) : List Char := l.takeWhile fun c => !isLineBreak c

def Whole (cs : List Char) : Prop := ∃ c ∈ cs.getLast?, isLineBreak c = true

def Deep (n : Nat) (l : List Char) : Prop := content l = [] ∨ spaces n <+: l

def Indented (n : Nat) (cs : List Char) : Prop := ∀ l ∈ lines cs, Deep n l

def Hanging (n : Nat) (cs : List Char) : Prop := ∀ l ∈ (lines cs).tail, Deep n l

theorem lines_break {c : Char} (h : isLineBreak c = true) (cs : List Char) :
    lines (c :: cs) = [c] :: lines cs := by
  simp [lines, h]

theorem lines_cons {c : Char} (h : isLineBreak c = false) (cs : List Char) :
    lines (c :: cs) = (c :: (lines cs).headD []) :: (lines cs).tail := by
  simp only [lines, h]
  cases lines cs <;> rfl

theorem lines_eq_nil {cs : List Char} : lines cs = [] ↔ cs = [] := by
  cases cs with
  | nil => simp [lines]
  | cons c cs =>
    cases h : isLineBreak c with
    | true => simp [lines_break h]
    | false => simp [lines_cons h]

@[simp] theorem flatten_lines (cs : List Char) : (lines cs).flatten = cs := by
  induction cs with
  | nil => rfl
  | cons c cs ih =>
    cases h : isLineBreak c with
    | true => simp [lines_break h, ih]
    | false =>
      rw [lines_cons h]
      cases hl : lines cs <;> simp_all

theorem Whole.ne_nil {cs : List Char} (h : Whole cs) : cs ≠ [] := by
  rintro rfl
  simp [Whole] at h

theorem whole_singleton {c : Char} : Whole [c] ↔ isLineBreak c = true := by
  simp [Whole]

theorem whole_cons {c d : Char} {cs : List Char} : Whole (c :: d :: cs) ↔ Whole (d :: cs) := by
  simp [Whole, List.getLast?_cons_cons]

theorem Whole.append {ys : List Char} (xs : List Char) (h : Whole ys) : Whole (xs ++ ys) := by
  obtain ⟨c, hc, hb⟩ := h
  exact ⟨c, by simp_all [List.getLast?_append], hb⟩

theorem Whole.cons {cs : List Char} (c : Char) (h : Whole cs) : Whole (c :: cs) := h.append [c]

theorem lines_append {xs : List Char} (h : Whole xs) (ys : List Char) :
    lines (xs ++ ys) = lines xs ++ lines ys := by
  induction xs with
  | nil => exact absurd rfl h.ne_nil
  | cons c xs ih =>
    cases xs with
    | nil => simp [lines_break (whole_singleton.1 h), lines]
    | cons d xs =>
      have ih := ih (whole_cons.1 h)
      have hne : lines (d :: xs) ≠ [] := by simp [lines_eq_nil]
      cases hc : isLineBreak c with
      | true => rw [List.cons_append, lines_break hc, lines_break hc, ih, List.cons_append]
      | false =>
        rw [List.cons_append, lines_cons hc, lines_cons hc, ih]
        obtain ⟨l, ls, hl⟩ := List.exists_cons_of_ne_nil hne
        simp [hl]

theorem indented_nil (n : Nat) : Indented n [] := by simp [Indented, lines]

theorem hanging_append {n : Nat} {xs ys : List Char} (h : Whole xs) :
    Hanging n (xs ++ ys) ↔ Hanging n xs ∧ Indented n ys := by
  have hne : lines xs ≠ [] := by simpa [lines_eq_nil] using h.ne_nil
  simp only [Hanging, Indented, lines_append h, List.tail_append_of_ne_nil hne, List.mem_append,
    or_imp, forall_and]

theorem indented_break {n : Nat} {c : Char} (h : isLineBreak c = true) {cs : List Char} :
    Indented n (c :: cs) ↔ Indented n cs := by
  simp [Indented, lines_break h, Deep, content, h]

theorem hanging_break {n : Nat} {c : Char} (h : isLineBreak c = true) {cs : List Char} :
    Hanging n (c :: cs) ↔ Indented n cs := by
  simp [Hanging, Indented, lines_break h]

theorem hanging_cons {n : Nat} {c : Char} (h : isLineBreak c = false) {cs : List Char} :
    Hanging n (c :: cs) ↔ Hanging n cs := by
  simp [Hanging, lines_cons h]

theorem hanging_of_no_break {n : Nat} {xs : List Char} (h : ∀ c ∈ xs, isLineBreak c = false)
    {ys : List Char} : Hanging n (xs ++ ys) ↔ Hanging n ys := by
  induction xs with
  | nil => rfl
  | cons c xs ih =>
    rw [List.cons_append, hanging_cons (h c (by simp)), ih fun d hd => h d (by simp [hd])]

theorem lines_append_of_no_break {xs : List Char} (h : ∀ c ∈ xs, isLineBreak c = false)
    {ys : List Char} (hys : ys ≠ []) :
    lines (xs ++ ys) = (xs ++ (lines ys).headD []) :: (lines ys).tail := by
  induction xs with
  | nil =>
    obtain ⟨l, ls, hl⟩ := List.exists_cons_of_ne_nil (mt lines_eq_nil.1 hys)
    simp [hl]
  | cons c xs ih =>
    rw [List.cons_append, lines_cons (h c (by simp)), ih fun d hd => h d (by simp [hd])]
    simp

theorem spaces_no_break {n : Nat} {c : Char} (h : c ∈ spaces n) : isLineBreak c = false := by
  rw [List.eq_of_mem_replicate h]
  rfl

theorem Hanging.indented {n k : Nat} (h : n ≤ k) {cs : List Char} (hcs : Hanging n cs)
    (hne : cs ≠ []) : Indented n (spaces k ++ cs) := by
  intro l hl
  rw [lines_append_of_no_break (fun c hc => spaces_no_break hc) hne, List.mem_cons] at hl
  rcases hl with rfl | hl
  · have hpre : spaces n <+: spaces k := ⟨spaces (k - n), by simp [spaces, h]⟩
    exact Or.inr (hpre.trans (List.prefix_append _ _))
  · exact hcs l hl

end WorkflowManifest.Text
