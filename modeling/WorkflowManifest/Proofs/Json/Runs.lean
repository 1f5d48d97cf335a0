import WorkflowManifest.Proofs.Json.NumberText
import WorkflowManifest.Proofs.Json.ReaderInvariant

/-!
What characters do to a reader wherever they stand. A number does not show its end, so that a value
is followed only up to a state that any closing character takes for the value itself.
-/

namespace WorkflowManifest.Json.Reader

open Number (Scan)
open Number.Scan (Closes)

/-- Wherever the characters stand, they take a reader from one state to the other. -/
def Leads (s : State) (cs : List Char) (t : State) : Prop :=
  ∀ place : Position, run place s cs = .ok t

theorem Leads.nil (s : State) : Leads s [] s := fun _ => rfl

theorem Leads.cons {s t u : State} {c : Char} {cs : List Char} (h : step s c = .ok t)
    (ht : Leads t cs u) : Leads s (c :: cs) u := by
  intro place
  rw [run, h]
  exact ht (place.next c)

theorem Leads.one {s t : State} {c : Char} (h : step s c = .ok t) : Leads s [c] t :=
  .cons h (.nil t)

theorem Leads.append {s t u : State} {xs ys : List Char} (h : Leads s xs t)
    (ht : Leads t ys u) : Leads s (xs ++ ys) u := by
  intro place
  rw [run_append (h place)]
  exact ht (place.after xs)

theorem past_leads {scan last : Scan} {cs : List Char} (h : scan.past cs = some last)
    (slot : Slot) : Leads (.number scan slot) cs (.number last slot) := by
  induction cs generalizing scan with
  | nil =>
    rw [Scan.past] at h
    cases h
    exact .nil _
  | cons c cs ih =>
    rw [Scan.past] at h
    split at h
    next t ht =>
      apply Leads.cons _ (ih h)
      simp [step, ht]
    next => cases h

def Skips (s : State) : Prop := ∀ c : Char, isBlank c = true → step s c = .ok s

theorem Skips.leads {s : State} (h : Skips s) {cs : List Char} (hcs : ∀ c ∈ cs, isBlank c = true) :
    Leads s cs s := by
  induction cs with
  | nil => exact .nil s
  | cons c cs ih =>
    obtain ⟨hc, hcs⟩ := List.forall_mem_cons.1 hcs
    exact .cons (h c hc) (ih hcs)

theorem after_skips (a : After) : Skips (.after a) := by
  intro c hc
  cases a <;> simp [step, After.step, hc]

structure StandsFor (s : State) (a : After) : Prop where
  step : ∀ {c : Char} {u : State}, Closes c → a.step c = .ok u → step s c = .ok u
  finish : finish s = a.finish

theorem standsFor_after (a : After) : StandsFor (.after a) a where
  step := fun _ hu => hu
  finish := rfl

theorem standsFor_number (n : Number) (stack : Stack) :
    StandsFor (.number (.last n) (.inside stack)) (put (.num n) stack) where
  step := by
    intro c u hc hu
    simp only [step, Scan.move_last n hc]
    exact hu
  finish := by
    simp only [finish, Scan.finish?_last]

/-- The characters are a whole value, after which the reader is to go on as `a` says. -/
def Settles (s : State) (cs : List Char) (a : After) : Prop :=
  ∃ t, Leads s cs t ∧ StandsFor t a

theorem Leads.settles {s : State} {cs : List Char} {a : After} (h : Leads s cs (.after a)) :
    Settles s cs a :=
  ⟨.after a, h, standsFor_after a⟩

theorem Leads.append_settles {s t : State} {xs ys : List Char} {a : After} (h : Leads s xs t)
    (ha : Settles t ys a) : Settles s (xs ++ ys) a := by
  obtain ⟨u, hu, hfor⟩ := ha
  exact ⟨u, h.append hu, hfor⟩

theorem Settles.closed {s u : State} {cs : List Char} {a : After} {c : Char}
    (h : Settles s cs a) (hc : Closes c) (hu : a.step c = .ok u) : Leads s (cs ++ [c]) u := by
  obtain ⟨t, ht, hfor⟩ := h
  exact ht.append (.one (hfor.step hc hu))

theorem closes_of_isBlank {c : Char} (h : isBlank c = true) : Closes c := by
  simp only [isBlank, Bool.or_eq_true, decide_eq_true_eq] at h
  obtain ((rfl | rfl) | rfl) | rfl := h <;> exact ⟨rfl, by decide, rfl⟩

theorem Settles.blanks {s : State} {cs bs : List Char} {a : After} (h : Settles s cs a)
    (hbs : ∀ c ∈ bs, isBlank c = true) : Settles s (cs ++ bs) a := by
  cases bs with
  | nil => rwa [List.append_nil]
  | cons b bs =>
    obtain ⟨hb, hbs⟩ := List.forall_mem_cons.1 hbs
    have hfirst := h.closed (closes_of_isBlank hb) (after_skips a b hb)
    have hall := hfirst.append ((after_skips a).leads hbs)
    rw [List.append_assoc] at hall
    exact hall.settles

theorem Settles.readFrom {s : State} {cs : List Char} {j : Json} (h : Settles s cs (.all j)) :
    readFrom s cs = .ok j := by
  obtain ⟨t, ht, hfor⟩ := h
  rw [Reader.readFrom, ht]
  simp only [hfor.finish, After.finish]

theorem closes_comma : Closes ',' := ⟨rfl, by decide, rfl⟩
theorem closes_colon : Closes ':' := ⟨rfl, by decide, rfl⟩
theorem closes_bracket : Closes ']' := ⟨rfl, by decide, rfl⟩
theorem closes_brace : Closes '\x7d' := ⟨rfl, by decide, rfl⟩

end WorkflowManifest.Json.Reader
