import WorkflowManifest.Proofs.Json.Meaning
import WorkflowManifest.Proofs.Json.NumberGrammar
import WorkflowManifest.Proofs.Json.StringGrammar

/-!
The reader takes no text but those of the grammar. For each of its states it is said what may still
come, and that a step leaves of this what comes behind its character.
-/

namespace WorkflowManifest.Json.Reader

open Grammar
open Number (Scan)

inductive MoreItems : Nat → List Char → List Json → Prop
  | none {depth : Nat} {cs : List Char} (h : Blank cs) : MoreItems depth cs []
  | some {depth : Nat} {before cs : List Char} {xs ys : List Json} (hbefore : Blank before)
      (h : Items depth cs xs) (hm : MeansItems xs ys) : MoreItems depth (before ++ ',' :: cs) ys

inductive MoreMembers : Nat → List Char → List (String × Json) → Prop
  | none {depth : Nat} {cs : List Char} (h : Blank cs) : MoreMembers depth cs []
  | some {depth : Nat} {before cs : List Char} {es fs : List (String × Json)}
      (hbefore : Blank before) (h : Members depth cs es) (hm : MeansEntries es fs) :
      MoreMembers depth (before ++ ',' :: cs) fs

def Stack.Admits : Stack → Json → List Char → Json → Prop
  | [], v, cs, j => Blank cs ∧ v = j
  | .list items :: stack, v, cs, j => ∃ body rest ys, cs = body ++ ']' :: rest ∧
      MoreItems (room (stack.length + 1)) body ys ∧
      Admits stack (.arr (items.reverse ++ v :: ys)) rest j
  | .entry entries key :: stack, v, cs, j => ∃ body rest fs, cs = body ++ '\x7d' :: rest ∧
      MoreMembers (room (stack.length + 1)) body fs ∧
      Admits stack (.obj ((entries.insert key v).insertAll fs)) rest j

def After.Admits : After → List Char → Json → Prop
  | .item items stack, cs, j => ∃ body rest ys, cs = body ++ ']' :: rest ∧
      MoreItems (room (stack.length + 1)) body ys ∧
      Stack.Admits stack (.arr (items.reverse ++ ys)) rest j
  | .entry entries stack, cs, j => ∃ body rest fs, cs = body ++ '\x7d' :: rest ∧
      MoreMembers (room (stack.length + 1)) body fs ∧
      Stack.Admits stack (.obj (entries.insertAll fs)) rest j
  | .all v, cs, j => Blank cs ∧ v = j

def Slot.Delivers : Slot → Json → Json → Prop
  | .inside _, i, v => v = i
  | .document, _, _ => False
  | .held _, i, v => ∃ s n, i = .str s ∧ Number.read s.toList = .ok n ∧ v = .num n

def Slot.Takes : Slot → List Char → Json → Prop
  | .inside stack, cs, v => ∃ i, Value (room stack.length) cs i ∧ Means i v
  | .document, cs, v => ∃ es fs, Value maxDepth cs (.obj es) ∧ MeansEntries es fs ∧
      v = .obj (Entries.insertAll [] fs)
  | .held _, cs, v => ∃ s n, Str cs s ∧ Number.read s.toList = .ok n ∧ v = .num n

def Slot.Admits : Slot → Json → List Char → Json → Prop
  | .inside stack, v, cs, j => Stack.Admits stack v cs j
  | .document, v, cs, j => Blank cs ∧ v = j
  | .held stack, v, cs, j => ∃ before rest, cs = before ++ '\x7d' :: rest ∧ Blank before ∧
      Stack.Admits stack v rest j

def Slot.Begins (slot : Slot) (cs : List Char) (j : Json) : Prop :=
  ∃ before value rest v, cs = before ++ value ++ rest ∧ Blank before ∧ slot.Takes value v ∧
    slot.Admits v rest j

def Slot.BeginsColon (slot : Slot) (cs : List Char) (j : Json) : Prop :=
  ∃ before rest, cs = before ++ ':' :: rest ∧ Blank before ∧ slot.Begins rest j

def keySlot (mayHold : Bool) (entries : Entries String Json) (stack : Stack) (key : String) :
    Slot :=
  if mayHold && key = numberKey then .held stack else .inside (.entry entries key :: stack)

def Role.Admits : Role → String → List Char → Json → Prop
  | .value slot, s, cs, j => ∃ v, slot.Delivers (.str s) v ∧ slot.Admits v cs j
  | .key mayHold entries stack, s, cs, j => (keySlot mayHold entries stack s).BeginsColon cs j

def Role.Begins (role : Role) (cs : List Char) (j : Json) : Prop :=
  ∃ before string s rest, cs = before ++ string ++ rest ∧ Blank before ∧ Str string s ∧
    role.Admits s rest j

def Stack.AdmitsEmpty (stack : Stack) (v : Json) (close : Char) (cs : List Char) (j : Json) :
    Prop :=
  ∃ before rest, cs = before ++ close :: rest ∧ Blank before ∧ Stack.Admits stack v rest j

/-- The texts that take the reader from a state to the value `j`. -/
def State.Admits : State → List Char → Json → Prop
  | .value slot, cs, j => slot.Begins cs j
  | .literal next more i slot, cs, j => ∃ rest v, cs = next :: more ++ rest ∧
      slot.Delivers i v ∧ slot.Admits v rest j
  | .number scan slot, cs, j => ∃ ds rest last n v, cs = ds ++ rest ∧
      scan.past ds = some last ∧ last.finish? = some n ∧
      slot.Delivers (.num n) v ∧ slot.Admits v rest j
  | .string phase text role, cs, j => ∃ body ds rest, cs = body ++ '"' :: rest ∧
      phase.Rest body ds ∧ role.Admits (ds.foldl String.push text) rest j
  | .firstItem stack, cs, j => Slot.Begins (.inside (.list [] :: stack)) cs j ∨
      Stack.AdmitsEmpty stack (.arr []) ']' cs j
  | .nextItem items stack, cs, j => Slot.Begins (.inside (.list items :: stack)) cs j
  | .firstKey mayHold stack, cs, j => Role.Begins (.key mayHold [] stack) cs j ∨
      Stack.AdmitsEmpty stack (.obj []) '\x7d' cs j
  | .nextKey entries stack, cs, j => Role.Begins (.key false entries stack) cs j
  | .colon entries key stack, cs, j =>
      Slot.BeginsColon (.inside (.entry entries key :: stack)) cs j
  | .after a, cs, j => a.Admits cs j
  | .heldColon stack, cs, j => Slot.BeginsColon (.held stack) cs j
  | .heldEnd n stack, cs, j => Slot.Admits (.held stack) (.num n) cs j

/-- A step that fails admits nothing behind it. -/
def Leaves : Except Fault State → List Char → Json → Prop
  | .ok t, cs, j => t.Admits cs j
  | .error _, _, _ => False

section Blanks

variable {c : Char} {cs : List Char} {j : Json}

theorem blank_of_isBlank (h : isBlank c = true) : c = ' ' ∨ c = '\t' ∨ c = '\n' ∨ c = '\r' := by
  simpa [isBlank, or_assoc] using h

theorem MoreItems.blank {depth : Nat} {ys : List Json} (hc : isBlank c = true)
    (h : MoreItems depth cs ys) : MoreItems depth (c :: cs) ys := by
  cases h with
  | none h => exact .none (h.cons (blank_of_isBlank hc))
  | some hbefore h hm => exact .some (hbefore.cons (blank_of_isBlank hc)) h hm

theorem MoreMembers.blank {depth : Nat} {fs : List (String × Json)} (hc : isBlank c = true)
    (h : MoreMembers depth cs fs) : MoreMembers depth (c :: cs) fs := by
  cases h with
  | none h => exact .none (h.cons (blank_of_isBlank hc))
  | some hbefore h hm => exact .some (hbefore.cons (blank_of_isBlank hc)) h hm

theorem Slot.Begins.blank {slot : Slot} (hc : isBlank c = true) (h : slot.Begins cs j) :
    slot.Begins (c :: cs) j := by
  obtain ⟨before, value, rest, v, rfl, hbefore, h⟩ := h
  exact ⟨c :: before, value, rest, v, rfl, hbefore.cons (blank_of_isBlank hc), h⟩

theorem Slot.BeginsColon.blank {slot : Slot} (hc : isBlank c = true) (h : slot.BeginsColon cs j) :
    slot.BeginsColon (c :: cs) j := by
  obtain ⟨before, rest, rfl, hbefore, h⟩ := h
  exact ⟨c :: before, rest, rfl, hbefore.cons (blank_of_isBlank hc), h⟩

theorem Role.Begins.blank {role : Role} (hc : isBlank c = true) (h : role.Begins cs j) :
    role.Begins (c :: cs) j := by
  obtain ⟨before, string, s, rest, rfl, hbefore, h⟩ := h
  exact ⟨c :: before, string, s, rest, rfl, hbefore.cons (blank_of_isBlank hc), h⟩

theorem Stack.AdmitsEmpty.blank {stack : Stack} {v : Json} {close : Char} (hc : isBlank c = true)
    (h : Stack.AdmitsEmpty stack v close cs j) :
    Stack.AdmitsEmpty stack v close (c :: cs) j := by
  obtain ⟨before, rest, rfl, hbefore, h⟩ := h
  exact ⟨c :: before, rest, rfl, hbefore.cons (blank_of_isBlank hc), h⟩

theorem After.Admits.blank {a : After} (hc : isBlank c = true) (h : a.Admits cs j) :
    a.Admits (c :: cs) j := by
  cases a with
  | item items stack =>
    obtain ⟨body, rest, ys, rfl, hmore, h⟩ := h
    exact ⟨c :: body, rest, ys, rfl, hmore.blank hc, h⟩
  | entry entries stack =>
    obtain ⟨body, rest, fs, rfl, hmore, h⟩ := h
    exact ⟨c :: body, rest, fs, rfl, hmore.blank hc, h⟩
  | all v => exact ⟨h.1.cons (blank_of_isBlank hc), h.2⟩

end Blanks

section Parts

variable {depth : Nat} {before value between body : List Char}

theorem items_of_more {i v : Json} {ys : List Json} (hbefore : Blank before)
    (hvalue : Value depth value i) (hm : Means i v) (hmore : MoreItems depth body ys) :
    ∃ xs, Items depth (before ++ value ++ body) xs ∧ MeansItems xs (v :: ys) := by
  cases hmore with
  | none hafter => exact ⟨[i], .one (.mk hbefore hvalue hafter), .cons hm .nil⟩
  | some hafter hrest hms =>
    have hitems := Items.more (.mk hbefore hvalue hafter) hrest
    rw [List.append_assoc] at hitems
    exact ⟨_, hitems, .cons hm hms⟩

theorem members_of_more {key : List Char} {k : String} {inner : List Char} {i v : Json}
    {fs : List (String × Json)} (hbefore : Blank before) (hkey : Str key k)
    (hbetween : Blank between) (hinner : Blank inner) (hvalue : Value depth value i)
    (hm : Means i v) (hmore : MoreMembers depth body fs) :
    ∃ es, Members depth (before ++ key ++ between ++ ':' :: (inner ++ value ++ body))
      ((k, i) :: es) ∧
      MeansEntries ((k, i) :: es) ((k, v) :: fs) := by
  cases hmore with
  | none hafter =>
    exact ⟨[], .one (.mk hbefore hkey hbetween (.mk hinner hvalue hafter)), .cons hm .nil⟩
  | some hafter hrest hms =>
    have hmember := Member.mk hbefore hkey hbetween (.mk hinner hvalue hafter)
    have hmembers := Members.more hmember hrest
    exact ⟨_, by simpa using hmembers, .cons hm hms⟩

end Parts

section Steps

variable {cs : List Char} {j : Json}

theorem put_admits {stack : Stack} {v : Json} (h : (put v stack).Admits cs j) :
    Stack.Admits stack v cs j := by
  cases stack with
  | nil => exact h
  | cons frame stack =>
    cases frame with
    | list items =>
      obtain ⟨body, rest, ys, hcs, hmore, h⟩ := h
      rw [List.reverse_cons, List.append_assoc] at h
      exact ⟨body, rest, ys, hcs, hmore, h⟩
    | entry entries key => exact h

theorem deliver_leaves {bytes : Nat} {i : Json} {slot : Slot}
    (h : Leaves (deliver bytes i slot) cs j) :
    ∃ v, slot.Delivers i v ∧ slot.Admits v cs j := by
  cases slot with
  | inside stack => exact ⟨i, rfl, put_admits h⟩
  | document => exact h.elim
  | held stack =>
    cases i with
    | str s =>
      rw [deliver] at h
      split at h
      next n hn => exact ⟨.num n, ⟨s, n, rfl, hn, rfl⟩, h⟩
      next => exact h.elim
    | _ => exact h.elim

theorem Slot.Delivers.takes {slot : Slot} {value : List Char} {i v : Json}
    (h : slot.Delivers i v) (hvalue : ∀ depth, Value depth value i) (hi : Means i i) :
    slot.Takes value v := by
  cases slot with
  | inside stack =>
    cases h
    exact ⟨i, hvalue _, hi⟩
  | document => exact h.elim
  | held stack =>
    obtain ⟨s, n, rfl, hn, rfl⟩ := h
    cases hvalue 0 with
    | str hs => exact ⟨s, n, hs, hn, rfl⟩

theorem begins_opened {stack : Stack} {value rest : List Char} {i v : Json}
    (hd : stack.length < maxDepth) (hvalue : Value (room (stack.length + 1) + 1) value i)
    (hi : Means i v) (h : Stack.Admits stack v rest j) :
    Slot.Begins (.inside stack) (value ++ rest) j := by
  rw [← room_eq hd] at hvalue
  exact ⟨[], value, rest, v, rfl, .nil, ⟨i, hvalue, hi⟩, h⟩

theorem beginList_leaves {slot : Slot} (h : Leaves (beginList slot) cs j) :
    slot.Begins ('[' :: cs) j := by
  cases slot with
  | inside stack =>
    rw [beginList] at h
    split at h
    next hd =>
      obtain ⟨before, value, rest, v, rfl, hbefore, ⟨i, hvalue, hi⟩, h⟩ |
        ⟨before, rest, rfl, hbefore, h⟩ := h
      · obtain ⟨body, rest, ys, rfl, hmore, h⟩ := h
        obtain ⟨xs, hitems, hxs⟩ := items_of_more hbefore hvalue hi hmore
        have hall := begins_opened hd (.arr hitems) (.arr hxs) h
        simpa using hall
      · have hall := begins_opened hd (.emptyArr hbefore) (.arr .nil) h
        simpa using hall
    next => exact h.elim
  | document => exact h.elim
  | held stack => exact h.elim

structure Opened (mayHold : Bool) (es : List (String × Json)) (v : Json) : Prop where
  inner : mayHold = true → Means (.obj es) v
  top : mayHold = false → ∃ fs, MeansEntries es fs ∧ v = .obj (Entries.insertAll [] fs)

theorem opened_of_means {mayHold : Bool} {es fs : List (String × Json)}
    (hkey : mayHold = true → (Entries.keys es).head? ≠ some numberKey) (h : MeansEntries es fs) :
    Opened mayHold es (.obj (Entries.insertAll [] fs)) where
  inner := fun hm => .obj (hkey hm) h
  top := fun _ => ⟨fs, h, rfl⟩

theorem object_of_firstKey {mayHold : Bool} {stack : Stack} (hd : stack.length < maxDepth)
    (h : State.Admits (.firstKey mayHold stack) cs j) :
    ∃ body rest es v, cs = body ++ '\x7d' :: rest ∧
      Value (room stack.length) ('\x7b' :: body ++ ['\x7d']) (.obj es) ∧
      Opened mayHold es v ∧ Stack.Admits stack v rest j := by
  rw [room_eq hd]
  obtain ⟨before, key, k, rest, rfl, hbefore, hkey, between, rest, rfl, hbetween, h⟩ |
    ⟨before, rest, rfl, hbefore, h⟩ := h
  · obtain ⟨inner, value, rest, v, rfl, hinner, htakes, h⟩ := h
    rw [keySlot] at htakes h
    split at htakes
    next hk =>
      rw [if_pos hk] at h
      obtain ⟨hm, rfl⟩ : mayHold = true ∧ k = numberKey := by simpa using hk
      obtain ⟨s, n, hs, hn, rfl⟩ := htakes
      obtain ⟨after, rest, rfl, hafter, h⟩ := h
      have hmember : Member (room (stack.length + 1)) _ _ :=
        .mk hbefore hkey hbetween (.mk hinner (.str hs) hafter)
      refine ⟨_, rest, _, .num n, by simp, .obj (.one hmember), ?_, h⟩
      exact ⟨fun _ => .held hn, fun hf => by simp [hm] at hf⟩
    next hk =>
      rw [if_neg hk] at h
      obtain ⟨i, hvalue, hi⟩ := htakes
      obtain ⟨body, rest, fs, rfl, hmore, h⟩ := h
      obtain ⟨es, hmembers, hes⟩ :=
        members_of_more hbefore hkey hbetween hinner hvalue hi hmore
      refine ⟨_, rest, _, _, by simp, .obj hmembers, opened_of_means ?_ hes, h⟩
      rintro rfl
      simpa [Entries.keys] using hk
  · refine ⟨before, rest, [], .obj [], rfl, .emptyObj hbefore, ?_, h⟩
    exact opened_of_means (by simp [Entries.keys]) .nil

theorem beginObject_leaves {slot : Slot} (h : Leaves (beginObject slot) cs j) :
    slot.Begins ('\x7b' :: cs) j := by
  cases slot with
  | inside stack =>
    rw [beginObject] at h
    split at h
    next hd =>
      obtain ⟨body, rest, es, v, rfl, hvalue, hopened, h⟩ := object_of_firstKey hd h
      exact ⟨[], _, rest, v, by simp, .nil, ⟨_, hvalue, hopened.inner rfl⟩, h⟩
    next => exact h.elim
  | document =>
    obtain ⟨body, rest, es, v, rfl, hvalue, hopened, h⟩ :=
      object_of_firstKey (by decide : [].length < maxDepth) h
    obtain ⟨fs, hfs, rfl⟩ := hopened.top rfl
    exact ⟨[], _, rest, _, by simp, .nil, ⟨es, fs, hvalue, hfs, rfl⟩, h⟩
  | held stack => exact h.elim

theorem literal_begins {slot : Slot} {c next : Char} {more : List Char} {i : Json}
    (hvalue : ∀ depth, Value depth (c :: next :: more) i) (hi : Means i i)
    (h : State.Admits (.literal next more i slot) cs j) : slot.Begins (c :: cs) j := by
  obtain ⟨rest, v, rfl, hv, h⟩ := h
  exact ⟨[], c :: next :: more, rest, v, rfl, .nil, hv.takes hvalue hi, h⟩

theorem string_begins {role : Role} (h : State.Admits (.string .plain "" role) cs j) :
    role.Begins ('"' :: cs) j := by
  obtain ⟨body, ds, rest, rfl, hbody, h⟩ := h
  have hstr : Str ('"' :: body ++ ['"']) (ds.foldl String.push "") :=
    ⟨body, rfl, by simpa [toList_foldl_push, Phase.Rest] using hbody⟩
  exact ⟨[], _, _, rest, by simp, .nil, hstr, h⟩

theorem beginValue_leaves {slot : Slot} {c : Char} (h : Leaves (beginValue slot c) cs j) :
    slot.Begins (c :: cs) j := by
  unfold beginValue at h
  split at h
  · exact literal_begins (fun _ => .null) .null h
  · exact literal_begins (fun _ => .bool true) (.bool true) h
  · exact literal_begins (fun _ => .bool false) (.bool false) h
  · obtain ⟨before, string, s, rest, hcs, hbefore, hstr, v, hv, h⟩ := string_begins h
    exact ⟨before, string, rest, v, hcs, hbefore, hv.takes (fun _ => .str hstr) (.str s), h⟩
  · exact beginList_leaves h
  · exact beginObject_leaves h
  · split at h
    next scan hstart =>
      obtain ⟨ds, rest, last, n, v, rfl, hpast, hfin, hv, h⟩ := h
      have hnumber : NumberText (c :: ds) n :=
        Scan.numberText_of_finish? (Scan.past_follows (Scan.start?_follows hstart) hpast) hfin
      exact ⟨[], c :: ds, rest, v, rfl, .nil, hv.takes (fun _ => .num hnumber) (.num n), h⟩
    next => exact h.elim

theorem beginKey_leaves {mayHold : Bool} {entries : Entries String Json} {stack : Stack} {c : Char}
    (h : Leaves (beginKey mayHold entries stack c) cs j) :
    Role.Begins (.key mayHold entries stack) (c :: cs) j := by
  rw [beginKey] at h
  split at h
  next hc =>
    rw [hc]
    exact string_begins h
  next => exact h.elim

theorem endString_leaves {text : String} {role : Role} (h : Leaves (endString text role) cs j) :
    role.Admits text cs j := by
  cases role with
  | value slot => exact deliver_leaves h
  | key mayHold entries stack =>
    rw [endString] at h
    rw [Role.Admits, keySlot]
    split at h
    next hk =>
      rw [if_pos hk]
      exact h
    next hk =>
      rw [if_neg hk]
      exact h

theorem after_leaves {a : After} {c : Char} (h : Leaves (a.step c) cs j) :
    a.Admits (c :: cs) j := by
  cases a with
  | item items stack =>
    rw [After.step] at h
    split at h
    next hc => exact After.Admits.blank hc h
    split at h
    next hc =>
      obtain ⟨before, value, rest, v, rfl, hbefore, ⟨i, hvalue, hi⟩, h⟩ := h
      obtain ⟨body, rest, ys, rfl, hmore, h⟩ := h
      obtain ⟨xs, hitems, hxs⟩ := items_of_more hbefore hvalue hi hmore
      exact ⟨_, rest, _, by simp [hc], .some .nil hitems hxs, h⟩
    split at h
    next hc => exact ⟨[], cs, [], by simp [hc], .none .nil, by simpa using put_admits h⟩
    next => exact h.elim
  | entry entries stack =>
    rw [After.step] at h
    split at h
    next hc => exact After.Admits.blank hc h
    split at h
    next hc =>
      obtain ⟨before, key, k, rest, rfl, hbefore, hkey, between, rest, rfl, hbetween, h⟩ := h
      obtain ⟨inner, value, rest, v, rfl, hinner, htakes, h⟩ := h
      obtain ⟨i, hvalue, hi⟩ := htakes
      obtain ⟨body, rest, fs, rfl, hmore, h⟩ := h
      obtain ⟨es, hmembers, hes⟩ :=
        members_of_more hbefore hkey hbetween hinner hvalue hi hmore
      exact ⟨_, rest, _, by simp [hc], .some .nil hmembers hes, h⟩
    split at h
    next hc => exact ⟨[], cs, [], by simp [hc], .none .nil, put_admits h⟩
    next => exact h.elim
  | all v =>
    rw [After.step] at h
    split at h
    next hc => exact After.Admits.blank hc h
    next => exact h.elim

theorem endNumber_leaves {n : Number} {slot : Slot} {c : Char}
    (h : Leaves (endNumber n c slot) cs j) :
    ∃ v, slot.Delivers (.num n) v ∧ slot.Admits v (c :: cs) j := by
  cases slot with
  | inside stack => exact ⟨.num n, rfl, put_admits (after_leaves h)⟩
  | document => exact h.elim
  | held stack => exact h.elim

theorem string_leaves {phase : Phase} {text : String} {role : Role} {c : Char}
    (h : Leaves (stepString text role phase c) cs j) :
    State.Admits (.string phase text role) (c :: cs) j := by
  cases ht : stepString text role phase c with
  | error fault =>
    rw [ht] at h
    exact h.elim
  | ok t =>
    obtain ⟨phase', added, rfl, hadds⟩ | ⟨rfl, rfl, hend⟩ := stepString_goesOn ht
    · rw [ht] at h
      obtain ⟨body, ds, rest, rfl, hbody, h⟩ := h
      refine ⟨c :: body, added ++ ds, rest, rfl, hadds body ds hbody, ?_⟩
      rwa [List.foldl_append]
    · rw [ht, ← hend] at h
      exact ⟨[], [], cs, rfl, .nil, endString_leaves h⟩

theorem finish?_of_finished {scan : Scan} {c : Char} {n : Number} (h : scan.move c = .finished n) :
    scan.finish? = some n := by
  cases scan with
  | whole m => grind [Scan.move, Scan.finish?]
  | fraction m => grind [Scan.move, Scan.finish?]
  | exponent m => grind [Scan.move, Scan.finish?]
  | _ => grind [Scan.move]

theorem step_leaves {s : State} {c : Char} (h : Leaves (step s c) cs j) :
    s.Admits (c :: cs) j := by
  cases s with
  | value slot =>
    rw [step] at h
    split at h
    next hc => exact Slot.Begins.blank hc h
    next => exact beginValue_leaves h
  | literal next more i slot =>
    simp only [step] at h
    split at h
    next hc =>
      split at h
      · obtain ⟨v, hv, h⟩ := deliver_leaves h
        exact ⟨cs, v, by simp [hc], hv, h⟩
      · obtain ⟨rest, v, rfl, hv, h⟩ := h
        exact ⟨rest, v, by simp [hc], hv, h⟩
    next => exact h.elim
  | number scan slot =>
    rw [step] at h
    split at h
    next scan' hmove =>
      obtain ⟨ds, rest, last, n, v, rfl, hpast, h⟩ := h
      exact ⟨c :: ds, rest, last, n, v, rfl, by simpa [Scan.past, hmove] using hpast, h⟩
    next => exact h.elim
    next n hmove =>
      obtain ⟨v, hv, h⟩ := endNumber_leaves h
      exact ⟨[], c :: cs, scan, n, v, rfl, rfl, finish?_of_finished hmove, hv, h⟩
  | string phase text role => exact string_leaves h
  | firstItem stack =>
    rw [step] at h
    split at h
    next hc => exact h.imp (Slot.Begins.blank hc) (Stack.AdmitsEmpty.blank hc)
    split at h
    next hc => exact .inr ⟨[], cs, by simp [hc], .nil, put_admits h⟩
    next => exact .inl (beginValue_leaves h)
  | nextItem items stack =>
    rw [step] at h
    split at h
    next hc => exact Slot.Begins.blank hc h
    split at h
    next => exact h.elim
    next => exact beginValue_leaves h
  | firstKey mayHold stack =>
    rw [step] at h
    split at h
    next hc => exact h.imp (Role.Begins.blank hc) (Stack.AdmitsEmpty.blank hc)
    split at h
    next hc => exact .inr ⟨[], cs, by simp [hc], .nil, put_admits h⟩
    next => exact .inl (beginKey_leaves h)
  | nextKey entries stack =>
    rw [step] at h
    split at h
    next hc => exact Role.Begins.blank hc h
    split at h
    next => exact h.elim
    next => exact beginKey_leaves h
  | colon entries key stack =>
    rw [step] at h
    split at h
    next hc => exact Slot.BeginsColon.blank hc h
    split at h
    next hc => exact ⟨[], cs, by simp [hc], .nil, h⟩
    next => exact h.elim
  | after a => exact after_leaves h
  | heldColon stack =>
    rw [step] at h
    split at h
    next hc => exact Slot.BeginsColon.blank hc h
    split at h
    next hc => exact ⟨[], cs, by simp [hc], .nil, h⟩
    next => exact h.elim
  | heldEnd n stack =>
    rw [step] at h
    split at h
    next hc => exact Stack.AdmitsEmpty.blank hc h
    split at h
    next hc => exact ⟨[], cs, by simp [hc], .nil, put_admits h⟩
    split at h <;> exact h.elim

end Steps

section Runs

variable {cs : List Char} {j : Json}

theorem after_admits_nil {a : After} (h : a.finish = .ok j) : a.Admits [] j := by
  cases a with
  | all v =>
    cases h
    exact ⟨.nil, rfl⟩
  | item items stack => cases h
  | entry entries stack => cases h

theorem admits_nil {s : State} (h : finish s = .ok j) : s.Admits [] j := by
  cases s with
  | after a => exact after_admits_nil h
  | number scan slot =>
    simp only [finish] at h
    split at h
    · cases h
    next n stack hfin =>
      exact ⟨[], [], scan, n, .num n, rfl, rfl, hfin, rfl, put_admits (after_admits_nil h)⟩
    · cases h
    · cases h
  | _ => cases h

theorem run_admits {s t : State} {place : Position} {more : List Char}
    (hrun : run place s cs = .ok t) (h : t.Admits more j) : s.Admits (cs ++ more) j := by
  induction cs generalizing s place with
  | nil =>
    rw [run] at hrun
    cases hrun
    exact h
  | cons c cs ih =>
    rw [run] at hrun
    split at hrun
    next u hu =>
      apply step_leaves
      rw [hu]
      exact ih hrun
    next => cases hrun

theorem readFrom_admits {s : State} (h : readFrom s cs = .ok j) : s.Admits cs j := by
  rw [readFrom] at h
  split at h
  · cases h
  next t hrun =>
    split at h
    next i hf =>
      cases h
      simpa using run_admits hrun (admits_nil hf)
    next => cases h

theorem text_of_readFrom (h : readFrom (.value .document) cs = .ok j) :
    ∃ es fs, Text cs (.obj es) ∧ MeansEntries es fs ∧ j = .obj (Entries.insertAll [] fs) := by
  obtain ⟨before, value, after, v, hcs, hbefore, htakes, hafter, rfl⟩ := readFrom_admits h
  obtain ⟨es, fs, hvalue, hfs, rfl⟩ := htakes
  exact ⟨es, fs, ⟨before, value, after, hcs, hbefore, hafter, hvalue⟩, hfs, rfl⟩

end Runs

end WorkflowManifest.Json.Reader

namespace WorkflowManifest.Json

open Grammar Reader

theorem text_of_read {cs : List Char} {j : Json} (h : Json.read cs = .ok j) :
    ∃ i, Text cs i ∧ Means i j := by
  obtain ⟨before, value, after, v, hcs, hbefore, htakes, hafter, rfl⟩ := readFrom_admits h
  obtain ⟨i, hvalue, hi⟩ := htakes
  exact ⟨i, ⟨before, value, after, hcs, hbefore, hafter, hvalue⟩, hi⟩

end WorkflowManifest.Json
