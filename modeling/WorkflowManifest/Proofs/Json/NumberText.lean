import WorkflowManifest.Json.Basic

namespace WorkflowManifest.Json.Number

@[simp] theorem ofChar?_point : Digit.ofChar? '.' = none := rfl
@[simp] theorem ofChar?_mark : Digit.ofChar? 'e' = none := rfl
@[simp] theorem ofChar?_plus : Digit.ofChar? '+' = none := rfl
@[simp] theorem ofChar?_minus : Digit.ofChar? '-' = none := rfl

def bodyChars (n : Number) : List Char :=
  (if n.negative then ['-'] else []) ++ n.whole.digits.map Digit.char ++ fractionChars n.fraction

namespace Scan

def past : Scan → List Char → Option Scan
  | s, [] => some s
  | s, c :: cs =>
    match s.move c with
    | .more t => t.past cs
    | _ => none

theorem past_cons {s t : Scan} {c : Char} (h : s.move c = .more t) (cs : List Char) :
    s.past (c :: cs) = t.past cs := by
  simp [past, h]

theorem past_append {s t : Scan} {xs : List Char} (h : s.past xs = some t) (ys : List Char) :
    s.past (xs ++ ys) = t.past ys := by
  induction xs generalizing s with
  | nil =>
    obtain rfl : s = t := by simpa [past] using h
    rfl
  | cons c xs ih =>
    rw [List.cons_append, past]
    rw [past] at h
    cases hm : s.move c with
    | more u =>
      rw [hm] at h
      exact ih h
    | finished n => simp [hm] at h
    | refused consumed => simp [hm] at h

theorem past_whole (n : Number) (first : Fin 9) (rest ds : List Digit) :
    (Scan.whole { n with whole := .lead first rest }).past (ds.map Digit.char) =
      some (.whole { n with whole := .lead first (rest ++ ds) }) := by
  induction ds generalizing rest with
  | nil => simp [past]
  | cons d ds ih => simp [past, move, pushWhole?, Whole.push?, ih]

theorem past_fraction (n : Number) (ds : List Digit) :
    (Scan.fraction n).past (ds.map Digit.char) =
      some (.fraction { n with fraction := n.fraction ++ ds }) := by
  induction ds generalizing n with
  | nil => simp [past]
  | cons d ds ih => simp [past, move, pushFraction, ih]

theorem past_exponent (n : Number) (e : Exponent) (ds : List Digit) :
    (Scan.exponent { n with exponent := some e }).past (ds.map Digit.char) =
      some (.exponent { n with exponent := some { e with rest := e.rest ++ ds } }) := by
  induction ds generalizing e with
  | nil => simp [past]
  | cons d ds ih => simp [past, move, pushExponent, ih]

def last (n : Number) : Scan :=
  match n.exponent, n.fraction with
  | some _, _ => .exponent n
  | none, [] => .whole n
  | none, _ :: _ => .fraction n

theorem finish?_last (n : Number) : (last n).finish? = some n := by
  unfold last
  split <;> rfl

def Closes (c : Char) : Prop := Digit.ofChar? c = none ∧ c ≠ '.' ∧ isMark c = false

theorem move_last (n : Number) {c : Char} (h : Closes c) : (last n).move c = .finished n := by
  obtain ⟨hd, hp, hm⟩ := h
  unfold last
  split <;> simp [move, hd, hp, hm]

section Parts

variable {plus : List Char}

theorem past_mark (hplus : plus = [] ∨ plus = ['+']) (n : Number) (e : Exponent) :
    (Scan.mark n).past ((if e.negative then ['-'] else plus) ++
      (e.first :: e.rest).map Digit.char) = some (.exponent { n with exponent := some e }) := by
  have hrest (negative : Bool) :
      (Scan.exponent (n.startExponent negative e.first)).past (e.rest.map Digit.char) =
        some (.exponent { n with exponent := some ⟨negative, e.first, e.rest⟩ }) :=
    past_exponent n ⟨negative, e.first, []⟩ e.rest
  obtain ⟨negative, first, rest⟩ := e
  cases negative with
  | true => simpa [past, move] using hrest true
  | false =>
    rcases hplus with rfl | rfl
    · simpa [past, move] using hrest false
    · simpa [past, move] using hrest false

theorem past_marked (hplus : plus = [] ∨ plus = ['+']) {s : Scan} {n : Number}
    (hs : s = .whole n ∨ s = .fraction n) {mark : Char} (hmark : isMark mark = true)
    (e : Exponent) :
    s.past (mark :: (if e.negative then ['-'] else plus) ++ (e.first :: e.rest).map Digit.char) =
      some (.exponent { n with exponent := some e }) := by
  have hdigit : Digit.ofChar? mark = none ∧ mark ≠ '.' := by
    rcases (by simpa [isMark] using hmark : mark = 'e' ∨ mark = 'E') with rfl | rfl <;> decide
  have hmove : s.move mark = .more (.mark n) := by
    rcases hs with rfl | rfl <;> simp [move, hdigit, hmark]
  rw [List.cons_append, past_cons hmove]
  exact past_mark hplus n e

theorem past_fractionChars (n : Number) (d : Digit) (ds : List Digit) :
    (Scan.whole n).past (fractionChars (d :: ds)) =
      some (.fraction { n with fraction := n.fraction ++ d :: ds }) := by
  simp [fractionChars, past, move, past_fraction, pushFraction]

theorem last_bare (n : Number) :
    last { n with exponent := none } = .whole { n with exponent := none } ∨
      last { n with exponent := none } = .fraction { n with exponent := none } := by
  obtain ⟨negative, whole, fraction, exponent⟩ := n
  cases fraction with
  | nil => exact .inl rfl
  | cons d ds => exact .inr rfl

theorem past_fraction_rest (n : Number) :
    (Scan.whole { n with fraction := [], exponent := none }).past (fractionChars n.fraction) =
      some (last { n with exponent := none }) := by
  obtain ⟨negative, whole, fraction, exponent⟩ := n
  cases fraction with
  | nil => rfl
  | cons d ds => exact past_fractionChars _ d ds

theorem ofDigit_succ (first : Fin 9) : Whole.ofDigit first.succ = .lead first [] := by
  simp [Whole.ofDigit, Fin.succ_ne_zero]

theorem past_digits (negative : Bool) (w : Whole) :
    ∃ d ds, w.digits = d :: ds ∧
      (Scan.whole { negative, whole := .ofDigit d }).past (ds.map Digit.char) =
        some (.whole { negative, whole := w }) := by
  cases w with
  | zero => exact ⟨0, [], rfl, rfl⟩
  | lead first rest =>
    refine ⟨first.succ, rest, rfl, ?_⟩
    rw [ofDigit_succ]
    exact past_whole { negative, whole := .zero } first [] rest

theorem start?_digit (d : Digit) :
    start? d.char = some (.whole { negative := false, whole := .ofDigit d }) := by
  have hd : ∀ d : Digit, d.char ≠ '-' := by decide
  simp [start?, hd d]

theorem scan_body (n : Number) {tail : List Char}
    (htail : (last { n with exponent := none }).past tail = some (last n)) :
    ∃ c cs s, n.bodyChars ++ tail = c :: cs ∧ start? c = some s ∧ s.past cs = some (last n) := by
  obtain ⟨d, ds, hds, hpast⟩ := past_digits n.negative n.whole
  have hrest := past_append hpast (fractionChars n.fraction ++ tail)
  rw [past_append (past_fraction_rest n), htail] at hrest
  cases hn : n.negative with
  | false =>
    refine ⟨d.char, _, _, ?_, start?_digit d, hn ▸ hrest⟩
    simp [bodyChars, hn, hds]
  | true =>
    refine ⟨'-', d.char :: (ds.map Digit.char ++ (fractionChars n.fraction ++ tail)), .minus, ?_,
      rfl, ?_⟩
    · simp [bodyChars, hn, hds]
    · simpa [past, move, hn] using hrest

theorem past_exponentChars (hplus : plus = [] ∨ plus = ['+']) (n : Number) :
    (last { n with exponent := none }).past (exponentChars plus n.exponent) = some (last n) := by
  obtain ⟨negative, whole, fraction, exponent⟩ := n
  cases exponent with
  | none => rfl
  | some e => exact past_marked hplus (last_bare _) rfl e

theorem scan_charsWith (hplus : plus = [] ∨ plus = ['+']) (n : Number) :
    ∃ c cs s, n.charsWith plus = c :: cs ∧ start? c = some s ∧ s.past cs = some (last n) :=
  scan_body n (past_exponentChars hplus n)

end Parts

theorem read_over {s : Scan} {cs : List Char} {n : Number} (h : s.past cs = some (last n))
    (place : Position) : s.read place cs = .ok n := by
  induction cs generalizing s place with
  | nil =>
    obtain rfl : s = last n := by simpa [past] using h
    simp [read, finish?_last]
  | cons c cs ih =>
    rw [past] at h
    rw [read]
    cases hm : s.move c with
    | more t =>
      rw [hm] at h
      exact ih h _
    | finished m => simp [hm] at h
    | refused consumed => simp [hm] at h

end Scan

theorem read_charsWith {plus : List Char} (hplus : plus = [] ∨ plus = ['+']) (n : Number) :
    read (n.charsWith plus) = .ok n := by
  obtain ⟨c, cs, s, hcs, hs, hpast⟩ := Scan.scan_charsWith hplus n
  rw [hcs, read, hs]
  exact Scan.read_over hpast _

end WorkflowManifest.Json.Number
