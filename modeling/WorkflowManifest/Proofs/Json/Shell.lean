import WorkflowManifest.Proofs.Json.Unwritable
import WorkflowManifest.Json.Printer

/-!
Places in a value. What stands around a place is a list of shells, and each operation treats what
stands in the place apart from them.
-/

namespace WorkflowManifest.Json

/-- An array or an object with one of its values left out. -/
inductive Shell where
  | item (before after : List Json)
  | entry (before : List (String × Json)) (key : String) (after : List (String × Json))

def Shell.wrap : Shell → Json → Json
  | .item before after, x => .arr (before ++ x :: after)
  | .entry before key after, x => .obj (before ++ (key, x) :: after)

def wrapAll (shells : List Shell) (x : Json) : Json := shells.foldr Shell.wrap x

section Numbers

def Shell.numbers : Shell → List Number × List Number
  | .item before after => (itemNumbers before, itemNumbers after)
  | .entry before _ after => (entryNumbers before, entryNumbers after)

theorem numbers_wrap (s : Shell) (x : Json) :
    numbers (s.wrap x) = s.numbers.1 ++ numbers x ++ s.numbers.2 := by
  cases s with
  | item before after =>
    rw [Shell.wrap, numbers, itemNumbers_append, itemNumbers, ← List.append_assoc]
    rfl
  | entry before key after =>
    rw [Shell.wrap, numbers, entryNumbers_append, entryNumbers, ← List.append_assoc]
    rfl

def numbersBefore (shells : List Shell) : List Number := shells.flatMap fun s => s.numbers.1

def numbersAfter (shells : List Shell) : List Number :=
  shells.reverse.flatMap fun s => s.numbers.2

theorem numbers_wrapAll (shells : List Shell) (x : Json) :
    numbers (wrapAll shells x) = numbersBefore shells ++ numbers x ++ numbersAfter shells := by
  induction shells with
  | nil => simp [wrapAll, numbersBefore, numbersAfter]
  | cons s shells ih =>
    rw [wrapAll, List.foldr_cons, ← wrapAll, numbers_wrap, ih]
    simp [numbersBefore, numbersAfter]

end Numbers

section Exact

def attempted {ε α : Type} (write : α → Except ε α) (a : α) : α := (write a).toOption.getD a

theorem attempted_of_ok {ε α : Type} {write : α → Except ε α} {a b : α} (h : write a = .ok b) :
    attempted write a = b := by
  rw [attempted, h]
  rfl

def Shell.written : Shell → Shell
  | .item before after => .item (attempted exactItems before) (attempted exactItems after)
  | .entry before key after =>
    .entry (attempted exactEntries before) key (attempted exactEntries after)

theorem exactItems_append_ok {xs ys zs : List Json} :
    exactItems (xs ++ ys) = .ok zs ↔
      ∃ xs' ys', exactItems xs = .ok xs' ∧ exactItems ys = .ok ys' ∧ zs = xs' ++ ys' := by
  induction xs generalizing zs with
  | nil => simp [exactItems]
  | cons x xs ih =>
    simp only [List.cons_append, exactItems_cons_ok, ih]
    constructor
    · rintro ⟨y, _, hy, ⟨xs', ys', hxs, hys, rfl⟩, rfl⟩
      exact ⟨_, ys', ⟨y, xs', hy, hxs, rfl⟩, hys, rfl⟩
    · rintro ⟨_, ys', ⟨y, xs', hy, hxs, rfl⟩, hys, rfl⟩
      exact ⟨y, _, hy, ⟨xs', ys', hxs, hys, rfl⟩, rfl⟩

theorem written_of_exact_wrap {s : Shell} {x y : Json} (h : exact (s.wrap x) = .ok y) :
    ∃ z, exact x = .ok z ∧ y = s.written.wrap z := by
  cases s with
  | item before after =>
    simp only [Shell.wrap, exact_arr_ok, exactItems_append_ok, exactItems_cons_ok] at h
    obtain ⟨_, ⟨xs, _, hxs, ⟨z, ys, hz, hys, rfl⟩, rfl⟩, rfl⟩ := h
    refine ⟨z, hz, ?_⟩
    rw [Shell.written, attempted_of_ok hxs, attempted_of_ok hys, Shell.wrap]
  | entry before key after =>
    simp only [Shell.wrap, exact_obj_ok, exactEntries_append_ok, exactEntries_cons_ok] at h
    obtain ⟨_, ⟨es, _, hes, ⟨z, fs, hz, hfs, rfl⟩, rfl⟩, rfl⟩ := h
    refine ⟨z, hz, ?_⟩
    rw [Shell.written, attempted_of_ok hes, attempted_of_ok hfs, Shell.wrap]

theorem written_of_exact_wrapAll {shells : List Shell} {x y : Json}
    (h : exact (wrapAll shells x) = .ok y) :
    ∃ z, exact x = .ok z ∧ y = wrapAll (shells.map Shell.written) z := by
  induction shells generalizing y with
  | nil => exact ⟨y, h, rfl⟩
  | cons s shells ih =>
    obtain ⟨w, hw, rfl⟩ := written_of_exact_wrap h
    obtain ⟨z, hz, rfl⟩ := ih hw
    exact ⟨z, hz, rfl⟩

end Exact

section Printed

theorem itemChars_append_cons (xs : List Json) (x : Json) (ys : List Json) :
    itemChars (xs ++ x :: ys) =
      xs.flatMap (fun y => y.chars ++ [',']) ++ x.chars ++ ys.flatMap fun y => ',' :: y.chars := by
  induction xs with
  | nil =>
    induction ys generalizing x with
    | nil => simp [itemChars]
    | cons y ys ih => simp_all [itemChars]
  | cons w xs ih => cases xs <;> simp_all [itemChars]

theorem entryChars_append_cons (es : List (String × Json)) (key : String) (x : Json)
    (fs : List (String × Json)) :
    entryChars (es ++ (key, x) :: fs) =
      es.flatMap (fun e => entryChars [e] ++ [',']) ++ entryChars [(key, x)] ++
        fs.flatMap fun e => ',' :: entryChars [e] := by
  induction es with
  | nil =>
    induction fs generalizing key x with
    | nil => simp
    | cons f fs ih => simp_all [entryChars]
  | cons e es ih => cases es <;> simp_all [entryChars]

theorem chars_wrap (s : Shell) :
    ∃ before after, ∀ x, (s.wrap x).chars = before ++ x.chars ++ after := by
  cases s with
  | item xs ys =>
    refine ⟨'[' :: xs.flatMap (fun y => y.chars ++ [',']),
      ys.flatMap (fun y => ',' :: y.chars) ++ [']'], fun x => ?_⟩
    simp [Shell.wrap, chars, itemChars_append_cons]
  | entry es key fs =>
    refine ⟨'\x7b' :: es.flatMap (fun e => entryChars [e] ++ [',']) ++ quote key ++ [':'],
      fs.flatMap (fun e => ',' :: entryChars [e]) ++ ['\x7d'], fun x => ?_⟩
    simp [Shell.wrap, chars, entryChars_append_cons, entryChars]

theorem chars_wrapAll (shells : List Shell) :
    ∃ before after, ∀ x, (wrapAll shells x).chars = before ++ x.chars ++ after := by
  induction shells with
  | nil => exact ⟨[], [], fun x => by simp [wrapAll]⟩
  | cons s shells ih =>
    obtain ⟨before, after, hs⟩ := chars_wrap s
    obtain ⟨inner, outer, hshells⟩ := ih
    refine ⟨before ++ inner, outer ++ after, fun x => ?_⟩
    rw [wrapAll, List.foldr_cons, ← wrapAll, hs, hshells]
    simp

end Printed

end WorkflowManifest.Json
