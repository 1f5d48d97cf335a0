import WorkflowManifest.Proofs.Json.RoundTrip
import WorkflowManifest.Proofs.Json.Runs

/-!
The compact text tells the value, whichever value it is and whatever stands behind it. Only a number
does not show its own end, so that what stands behind it has to begin with a closing character.
-/

namespace WorkflowManifest.Json

open Number (Scan)
open Number.Scan (Closes)

def Ends (cs : List Char) : Prop := ∀ c ∈ cs.head?, Closes c

theorem Ends.nil : Ends [] := by simp [Ends]

theorem Ends.cons {c : Char} (h : Closes c) (cs : List Char) : Ends (c :: cs) := by
  simpa [Ends] using h

/-- Where `a` is written, both `a` and what stands behind it can be told from the characters. -/
def Tells {α : Type} (write : α → List Char) (a : α) : Prop :=
  ∀ ⦃b : α⦄ ⦃r s : List Char⦄, Ends r → Ends s → write a ++ r = write b ++ s → a = b ∧ r = s

theorem Tells.cons {α : Type} {write : α → List Char} {a : α} (h : Tells write a) (c : Char) :
    Tells (fun a => c :: write a) a := by
  intro b r s hr hs hbs
  exact h hr hs (List.cons.inj hbs).2

section Numbers

theorem Number.Scan.eq_nil_of_past {t u : Scan} {n : Number} {cs ds s : List Char}
    (hn : t.past cs = some (.last n)) (hu : t.past (cs ++ ds) = some u) (hds : Ends (ds ++ s)) :
    ds = [] := by
  cases ds with
  | nil => rfl
  | cons d ds =>
    have hd : Closes d := hds d rfl
    rw [Scan.past_append hn, Scan.past, Scan.move_last n hd] at hu
    cases hu

theorem Number.Scan.last_injective {m n : Number} (h : Scan.last m = Scan.last n) : m = n := by
  simpa [Scan.finish?_last] using congrArg Scan.finish? h

theorem number_tells (n : Number) : Tells Number.chars n := by
  intro m r s hr hs h
  obtain ⟨c, cs, t, hcs, ht, hn⟩ := Scan.scan_charsWith (.inr rfl) n
  obtain ⟨d, ds, u, hds, hu, hm⟩ := Scan.scan_charsWith (.inr rfl) m
  rw [Number.chars, Number.chars, hcs, hds, List.cons_append, List.cons_append] at h
  obtain ⟨rfl, hrest⟩ := List.cons.inj h
  obtain rfl : t = u := Option.some.inj (ht.symm.trans hu)
  -- One literal begins with the other, but nothing that could go on stands behind either.
  obtain ⟨es, rfl, rfl⟩ | ⟨es, rfl, rfl⟩ := List.append_eq_append_iff.1 hrest
  · obtain rfl := Scan.eq_nil_of_past hn hm hr
    rw [List.append_nil, hn] at hm
    exact ⟨Scan.last_injective (Option.some.inj hm), rfl⟩
  · obtain rfl := Scan.eq_nil_of_past hm hn hs
    rw [List.append_nil, hm] at hn
    exact ⟨Scan.last_injective (Option.some.inj hn.symm), rfl⟩

end Numbers

section Strings

def unescape? : List Char → Option (Char × List Char)
  | '\\' :: 'u' :: '0' :: '0' :: high :: low :: cs => do
    return (Char.ofNat (16 * (← Text.hexValue? high) + (← Text.hexValue? low)), cs)
  | '\\' :: e :: cs => (Reader.simpleEscape? e).map fun c => (c, cs)
  | '"' :: _ => none
  | c :: cs => some (c, cs)
  | [] => none

theorem unescape?_escape (c : Char) (cs : List Char) :
    unescape? (escape c ++ cs) = some (c, cs) := by
  unfold escape
  split
  case h_8 hquote hslash _ _ _ _ _ =>
    split
    next hc =>
      have hhigh := hexValue?_hexDigit (by omega : c.toNat / 16 < 16)
      have hlow := hexValue?_hexDigit (by omega : c.toNat % 16 < 16)
      have hcode : 16 * (c.toNat / 16) + c.toNat % 16 = c.toNat := by omega
      simp [unescape?, hhigh, hlow, hcode, Char.ofNat_toNat]
    next =>
      unfold unescape?
      split <;> simp_all
  all_goals rfl

theorem escapes_tell {cs ds r s : List Char}
    (h : cs.flatMap escape ++ '"' :: r = ds.flatMap escape ++ '"' :: s) : cs = ds ∧ r = s := by
  have hquote (r : List Char) : unescape? ('"' :: r) = none := rfl
  induction cs generalizing ds with
  | nil =>
    cases ds with
    | nil => exact ⟨rfl, (List.cons.inj h).2⟩
    | cons d ds =>
      have hfirst := congrArg unescape? h
      simp [hquote, unescape?_escape] at hfirst
  | cons c cs ih =>
    have hfirst := congrArg unescape? h
    cases ds with
    | nil => simp [hquote, unescape?_escape] at hfirst
    | cons d ds =>
      simp only [List.flatMap_cons, List.append_assoc, unescape?_escape, Option.some.injEq,
        Prod.mk.injEq] at hfirst
      obtain ⟨rfl, hrest⟩ := hfirst
      obtain ⟨rfl, rfl⟩ := ih hrest
      exact ⟨rfl, rfl⟩

theorem string_tells (s : String) : Tells quote s := by
  intro t r r' _ _ h
  simp only [quote, List.cons_append, List.append_assoc, List.nil_append, List.cons.injEq,
    true_and] at h
  obtain ⟨hst, hr⟩ := escapes_tell h
  exact ⟨String.toList_injective hst, hr⟩

end Strings

section Rows

variable {α : Type} {write : α → List Char}

def commas (write : α → List Char) : List α → List Char
  | [] => []
  | x :: xs => write x ++ xs.flatMap fun x => ',' :: write x

theorem itemChars_eq (xs : List Json) : itemChars xs = commas chars xs := by
  cases xs with
  | nil => rfl
  | cons x xs =>
    induction xs generalizing x with
    | nil => simp [itemChars, commas]
    | cons y ys ih => simpa [itemChars, commas] using ih y

def memberChars (e : String × Json) : List Char := quote e.1 ++ ':' :: e.2.chars

theorem entryChars_eq (es : List (String × Json)) : entryChars es = commas memberChars es := by
  cases es with
  | nil => rfl
  | cons e es =>
    induction es generalizing e with
    | nil => simp [entryChars, commas, memberChars]
    | cons f fs ih => simpa [entryChars, commas, memberChars] using ih f

theorem ends_rest {close : Char} (hclose : Closes close) (xs : List α) (r : List Char) :
    Ends ((xs.flatMap fun x => ',' :: write x) ++ close :: r) := by
  cases xs with
  | nil => exact .cons hclose r
  | cons x xs => exact .cons Reader.closes_comma _

theorem rest_tells {close : Char} (hclose : Closes close) (hcomma : close ≠ ',') {xs ys : List α}
    (hxs : ∀ x ∈ xs, Tells write x) {r s : List Char}
    (h : (xs.flatMap fun x => ',' :: write x) ++ close :: r =
      (ys.flatMap fun y => ',' :: write y) ++ close :: s) : xs = ys ∧ r = s := by
  induction xs generalizing ys with
  | nil =>
    cases ys with
    | nil => exact ⟨rfl, (List.cons.inj h).2⟩
    | cons y ys => exact absurd (List.cons.inj h).1 hcomma
  | cons x xs ih =>
    cases ys with
    | nil => exact absurd (List.cons.inj h).1.symm hcomma
    | cons y ys =>
      obtain ⟨hx, hxs⟩ := List.forall_mem_cons.1 hxs
      rw [List.flatMap_cons, List.flatMap_cons, List.append_assoc, List.append_assoc] at h
      obtain ⟨rfl, hrest⟩ := hx.cons ',' (ends_rest hclose xs r) (ends_rest hclose ys s) h
      obtain ⟨rfl, rfl⟩ := ih hxs hrest
      exact ⟨rfl, rfl⟩

theorem commas_tells {close : Char} (hclose : Closes close) (hcomma : close ≠ ',')
    (hfirst : ∀ x r s, write x ++ r ≠ close :: s) {xs ys : List α}
    (hxs : ∀ x ∈ xs, Tells write x) {r s : List Char}
    (h : commas write xs ++ close :: r = commas write ys ++ close :: s) : xs = ys ∧ r = s := by
  cases xs with
  | nil =>
    cases ys with
    | nil => exact ⟨rfl, (List.cons.inj h).2⟩
    | cons y ys =>
      rw [commas, commas, List.append_assoc] at h
      exact absurd h.symm (hfirst y _ _)
  | cons x xs =>
    cases ys with
    | nil =>
      rw [commas, commas, List.append_assoc] at h
      exact absurd h (hfirst x _ _)
    | cons y ys =>
      obtain ⟨hx, hxs⟩ := List.forall_mem_cons.1 hxs
      rw [commas, commas, List.append_assoc, List.append_assoc] at h
      obtain ⟨rfl, hrest⟩ := hx (ends_rest hclose xs r) (ends_rest hclose ys s) h
      obtain ⟨rfl, rfl⟩ := rest_tells hclose hcomma hxs hrest
      exact ⟨rfl, rfl⟩

end Rows

section Values

inductive Shape where
  | null
  | bool (b : Bool)
  | num
  | str
  | arr
  | obj
  deriving DecidableEq

def shape : Json → Shape
  | .null => .null
  | .bool b => .bool b
  | .num _ => .num
  | .str _ => .str
  | .arr _ => .arr
  | .obj _ => .obj

def Shape.of? : Char → Option Shape
  | 'n' => some .null
  | 't' => some (.bool true)
  | 'f' => some (.bool false)
  | '"' => some .str
  | '[' => some .arr
  | '\x7b' => some .obj
  | c => (Scan.start? c).map fun _ => .num

theorem shape_of_start? {c : Char} {s : Scan} (h : Scan.start? c = some s) :
    Shape.of? c = some .num := by
  unfold Shape.of?
  split
  case h_7 => rw [h, Option.map_some]
  all_goals cases h

theorem chars_eq_cons (x : Json) : ∃ c cs, x.chars = c :: cs ∧ Shape.of? c = some x.shape := by
  cases x with
  | null => exact ⟨_, _, rfl, rfl⟩
  | bool b => cases b <;> exact ⟨_, _, rfl, rfl⟩
  | num n =>
    obtain ⟨c, cs, s, hcs, hs, -⟩ := Scan.scan_charsWith (.inr rfl) n
    exact ⟨c, cs, hcs, shape_of_start? hs⟩
  | str s => exact ⟨_, _, rfl, rfl⟩
  | arr xs => exact ⟨_, _, rfl, rfl⟩
  | obj es => exact ⟨_, _, rfl, rfl⟩

theorem shape_eq {x y : Json} {r s : List Char} (h : x.chars ++ r = y.chars ++ s) :
    x.shape = y.shape := by
  obtain ⟨c, cs, hx, hc⟩ := x.chars_eq_cons
  obtain ⟨d, ds, hy, hd⟩ := y.chars_eq_cons
  rw [hx, hy] at h
  obtain ⟨rfl, -⟩ := List.cons.inj h
  exact Option.some.inj (hc.symm.trans hd)

theorem chars_ne_bracket (x : Json) (r s : List Char) : x.chars ++ r ≠ ']' :: s := by
  obtain ⟨c, cs, hx, hc⟩ := x.chars_eq_cons
  rw [hx]
  intro h
  obtain ⟨rfl, -⟩ := List.cons.inj h
  cases hc

theorem memberChars_ne_brace (e : String × Json) (r s : List Char) :
    memberChars e ++ r ≠ '\x7d' :: s := by
  intro h
  exact absurd (List.cons.inj h).1 (by decide)

theorem member_tells {e : String × Json} (h : Tells chars e.2) : Tells memberChars e := by
  rintro ⟨l, y⟩ r s hr hs hes
  obtain ⟨k, x⟩ := e
  simp only [memberChars, List.append_assoc, List.cons_append] at hes
  have hcolon (cs : List Char) : Ends (':' :: cs) := .cons Reader.closes_colon cs
  obtain ⟨rfl, hrest⟩ := string_tells k (hcolon _) (hcolon _) hes
  obtain ⟨rfl, rfl⟩ := h.cons ':' hr hs hrest
  exact ⟨rfl, rfl⟩

theorem tells_arr {xs : List Json} (h : ∀ x ∈ xs, Tells chars x) : Tells chars (.arr xs) := by
  intro y r s _ _ hxs
  have hshape := shape_eq hxs
  cases y with
  | arr ys =>
    simp only [chars, itemChars_eq, List.append_assoc, List.cons_append, List.nil_append,
      List.cons.injEq, true_and] at hxs
    obtain ⟨rfl, rfl⟩ := commas_tells Reader.closes_bracket (by decide) chars_ne_bracket h hxs
    exact ⟨rfl, rfl⟩
  | _ => cases hshape

theorem tells_obj {es : List (String × Json)} (h : ∀ e ∈ es, Tells chars e.2) :
    Tells chars (.obj es) := by
  intro y r s _ _ hes
  have hshape := shape_eq hes
  cases y with
  | obj fs =>
    simp only [chars, entryChars_eq, List.append_assoc, List.cons_append, List.nil_append,
      List.cons.injEq, true_and] at hes
    obtain ⟨rfl, rfl⟩ := commas_tells Reader.closes_brace (by decide) memberChars_ne_brace
      (fun e he => member_tells (h e he)) hes
    exact ⟨rfl, rfl⟩
  | _ => cases hshape

theorem chars_tells (x : Json) : Tells chars x := by
  induction x with
  | null =>
    intro y r s _ _ h
    have hshape := shape_eq h
    cases y with
    | null => exact ⟨rfl, List.append_cancel_left h⟩
    | _ => cases hshape
  | bool b =>
    intro y r s _ _ h
    have hshape := shape_eq h
    cases y with
    | bool c =>
      obtain rfl := Shape.bool.inj hshape
      exact ⟨rfl, List.append_cancel_left h⟩
    | _ => cases hshape
  | num n =>
    intro y r s hr hs h
    have hshape := shape_eq h
    cases y with
    | num m =>
      obtain ⟨rfl, rfl⟩ := number_tells n hr hs h
      exact ⟨rfl, rfl⟩
    | _ => cases hshape
  | str t =>
    intro y r s hr hs h
    have hshape := shape_eq h
    cases y with
    | str u =>
      obtain ⟨rfl, rfl⟩ := string_tells t hr hs h
      exact ⟨rfl, rfl⟩
    | _ => cases hshape
  | arr xs ih => exact tells_arr ih
  | obj es ih => exact tells_obj ih

theorem text_injective {x y : Json} (h : x.text = y.text) : x = y := by
  have hchars : x.chars ++ [] = y.chars ++ [] := congrArg (· ++ []) (String.ofList_injective h)
  exact (chars_tells x .nil .nil hchars).1

end Values

end WorkflowManifest.Json
