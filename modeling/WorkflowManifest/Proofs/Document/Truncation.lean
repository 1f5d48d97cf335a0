import Mathlib.Data.List.DropRight
import WorkflowManifest.Proofs.Document.Grammar

/-!
Texts that have been cut off. What a reader still admits of the text it has not seen tells what it
answers if nothing more comes.
-/

namespace WorkflowManifest

namespace Position

def lastBytes (cs : List Char) : Nat :=
  (cs.rtakeWhile (· ≠ '\n')).foldl (fun n c => n + c.utf8Size) 0

theorem start_after (cs : List Char) : start.after cs = ⟨cs.count '\n' + 1, lastBytes cs⟩ := by
  induction cs using List.reverseRecOn with
  | nil => rfl
  | append_singleton cs c ih =>
    rw [after_append, ih, after_cons, after_nil, next]
    by_cases hc : c = '\n'
    · simp [lastBytes, hc]
    · simp [lastBytes, hc]

end Position

namespace Json

/-- What a reader that finds no more text has been in the middle of. -/
inductive EndsIn : Cause → String → Prop
  | value : EndsIn .endOfValue "a value"
  | string : EndsIn .endOfString "a string"
  | list : EndsIn .endOfList "a list"
  | object : EndsIn .endOfObject "an object"

theorem EndsIn.message {cause : Cause} {what : String} (h : EndsIn cause what) :
    cause.message = "EOF while parsing " ++ what := by
  cases h <;> rfl

theorem EndsIn.mem {cause : Cause} {what : String} (h : EndsIn cause what) :
    what ∈ ["a value", "a string", "a list", "an object"] := by
  cases h <;> simp

namespace Reader

open Grammar

theorem run_split {place : Position} {s t : State} {xs ys : List Char}
    (h : run place s (xs ++ ys) = .ok t) :
    ∃ u, run place s xs = .ok u ∧ run (place.after xs) u ys = .ok t := by
  induction xs generalizing place s with
  | nil => exact ⟨s, rfl, h⟩
  | cons c cs ih =>
    rw [List.cons_append, run] at h
    split at h
    next s' hs =>
      obtain ⟨u, hu, ht⟩ := ih h
      exact ⟨u, by rw [run, hs]; exact hu, ht⟩
    next => cases h

theorem put_ends (v : Json) (frame : Frame) (stack : Stack) :
    ∃ cause what, EndsIn cause what ∧ (put v (frame :: stack)).finish = .error cause := by
  cases frame with
  | list items => exact ⟨_, _, .list, rfl⟩
  | entry entries key => exact ⟨_, _, .object, rfl⟩

theorem number_ends {scan : Number.Scan} {slot : Slot} {cs : List Char} {es : Entries String Json}
    (h : State.Admits (.number scan slot) cs (.obj es)) :
    ∃ cause what, EndsIn cause what ∧ finish (.number scan slot) = .error cause := by
  obtain ⟨ds, rest, last, n, v, _, _, _, hv, h⟩ := h
  cases slot with
  | inside stack =>
    cases stack with
    | nil =>
      obtain ⟨_, rfl⟩ := h
      cases hv
    | cons frame stack =>
      cases hm : scan.finish? with
      | none => exact ⟨_, _, .value, by simp [finish, hm]⟩
      | some m =>
        obtain ⟨cause, what, hends, hfinish⟩ := put_ends (.num m) frame stack
        exact ⟨cause, what, hends, by simpa [finish, hm] using hfinish⟩
  -- A number is no document.
  | document => exact hv.elim
  | held stack =>
    obtain ⟨s, m, hs, _⟩ := hv
    cases hs

theorem finish_of_admits {s : State} {cs : List Char} {es : Entries String Json}
    (h : s.Admits cs (.obj es)) :
    (∃ cause what, EndsIn cause what ∧ finish s = .error cause) ∨
      finish s = .ok (.obj es) ∧ Blank cs := by
  cases s with
  | value _ | literal _ _ _ _ | nextItem _ _ | nextKey _ _ => exact .inl ⟨_, _, .value, rfl⟩
  | string _ _ _ => exact .inl ⟨_, _, .string, rfl⟩
  | firstItem _ => exact .inl ⟨_, _, .list, rfl⟩
  | firstKey _ _ | colon _ _ _ | heldColon _ | heldEnd _ _ => exact .inl ⟨_, _, .object, rfl⟩
  | number scan slot => exact .inl (number_ends h)
  | after a =>
    cases a with
    | item _ _ => exact .inl ⟨_, _, .list, rfl⟩
    | entry _ _ => exact .inl ⟨_, _, .object, rfl⟩
    | all v =>
      obtain ⟨hcs, rfl⟩ := h
      exact .inr ⟨rfl, hcs⟩

theorem readFrom_prefix {s : State} {xs ys : List Char} {es : Entries String Json}
    (h : readFrom s (xs ++ ys) = .ok (.obj es)) :
    (∃ cause what, EndsIn cause what ∧
        readFrom s xs = .error ⟨cause, Position.start.after xs⟩) ∨
      readFrom s xs = .ok (.obj es) ∧ Blank ys := by
  rw [readFrom] at h
  split at h
  · cases h
  next t hrun =>
    split at h
    next j hfinish =>
      cases h
      obtain ⟨u, hu, ht⟩ := run_split hrun
      have hadmits : u.Admits ys (.obj es) := by simpa using run_admits ht (admits_nil hfinish)
      obtain ⟨cause, what, hends, hu'⟩ | ⟨hu', hys⟩ := finish_of_admits hadmits
      · exact .inl ⟨cause, what, hends, by simp [readFrom, hu, hu']⟩
      · exact .inr ⟨by simp [readFrom, hu, hu'], hys⟩
    next => cases h

end Reader

end Json

namespace Document

open Json

/-- A text that has been cut off is never read as another document: either blanks alone are missing,
or the answer is that the text ends too early, with the line and column of its end. -/
theorem read_cut {cut rest : String} {d : Document} (h : read (cut ++ rest) = .ok d) :
    read cut = .ok d ∧ (∀ c ∈ rest.toList, c = ' ' ∨ c = '\t' ∨ c = '\n' ∨ c = '\r') ∨
      ∃ f what, read cut = .error f ∧ what ∈ ["a value", "a string", "a list", "an object"] ∧
        f.position = ⟨cut.toList.count '\n' + 1, Position.lastBytes cut.toList⟩ ∧
        f.message = s!"EOF while parsing {what} at " ++
          s!"line {f.position.line} column {f.position.column}" := by
  obtain ⟨es⟩ := d
  have hes := readEntries_eq_ok (read_iff.1 h)
  rw [String.toList_append] at hes
  obtain ⟨cause, what, hends, hread⟩ | ⟨hread, hblank⟩ := Reader.readFrom_prefix hes
  · right
    refine ⟨⟨cause, Position.start.after cut.toList⟩, what, ?_, hends.mem, ?_, ?_⟩
    · rw [read, readEntries, hread]
      rfl
    · exact Position.start_after cut.toList
    · simp only [Failure.message, hends.message, Position.text, toString, String.append_assoc]
  · left
    refine ⟨?_, hblank⟩
    rw [read, readEntries, hread]
    rfl

def halved : String := "\x7b\n \"é\":\"\\ud83d\\ud"

theorem read_cut_halved :
    ∃ d f, read (halved ++ "e00\"\x7d") = .ok d ∧ read halved = .error f ∧
      f.position = ⟨2, 16⟩ := by
  have hread : (read (halved ++ "e00\"\x7d")).toOption.isSome := by decide +kernel
  obtain ⟨d, hd⟩ := Option.isSome_iff_exists.1 hread
  obtain ⟨_, hblank⟩ | ⟨f, _, hf, _, hposition, _⟩ := read_cut (ok_of_toOption hd)
  · have he := hblank 'e' (by decide +kernel)
    simp at he
  · exact ⟨d, f, ok_of_toOption hd, hf, hposition.trans (by decide +kernel)⟩

end Document

end WorkflowManifest
