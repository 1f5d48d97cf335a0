import WorkflowManifest.Proofs.Json.Fits

namespace WorkflowManifest.Json.Reader

def room (depth : Nat) : Nat := maxDepth - depth

theorem room_eq {depth : Nat} (h : depth < maxDepth) : room depth = room (depth + 1) + 1 := by
  unfold room
  omega

structure Kept (stack : Stack) (entries : Entries String Json) : Prop where
  nodup : (Entries.keys entries).Nodup
  head : stack ≠ [] → (Entries.keys entries).head? ≠ some numberKey
  fits : FitsEntries (room (stack.length + 1)) entries

def Starts (stack : Stack) (entries : Entries String Json) (key : String) : Prop :=
  entries = [] → stack ≠ [] → key ≠ numberKey

def Frame.Sound (stack : Stack) : Frame → Prop
  | .list items => FitsItems (room (stack.length + 1)) items
  | .entry entries key => Kept stack entries ∧ Starts stack entries key

def Stack.Sound : Stack → Prop
  | [] => True
  | frame :: stack => stack.length < maxDepth ∧ frame.Sound stack ∧ Sound stack

structure Stack.Opens (stack : Stack) : Prop where
  sound : Stack.Sound stack
  depth : stack.length < maxDepth

def Whole (j : Json) : Prop := ∀ es, j = .obj es → (Document.ofEntries es).Storable

structure Placeable (stack : Stack) (j : Json) : Prop where
  whole : stack = [] → Whole j
  fits : stack ≠ [] → Fits (room stack.length) j

def Slot.Sound : Slot → Prop
  | .inside stack | .held stack => Stack.Sound stack
  | .document => True

def Role.Sound : Role → Prop
  | .value slot => slot.Sound
  | .key mayHold entries stack =>
    Stack.Opens stack ∧ Kept stack entries ∧ (entries = [] → stack ≠ [] → mayHold = true)

def After.Sound : After → Prop
  | .item items stack => Stack.Sound (.list items :: stack)
  | .entry entries stack => Stack.Opens stack ∧ Kept stack entries ∧ entries ≠ []
  | .all j => Whole j

def State.Sound : State → Prop
  | .value slot | .number _ slot => slot.Sound
  | .literal _ _ j slot => slot.Sound ∧ ∀ n, Fits n j
  | .string _ _ role => role.Sound
  | .firstItem stack => Stack.Opens stack
  | .nextItem items stack => Stack.Sound (.list items :: stack)
  | .firstKey mayHold stack => Stack.Opens stack ∧ (stack ≠ [] → mayHold = true)
  | .nextKey entries stack => Stack.Opens stack ∧ Kept stack entries ∧ entries ≠ []
  | .colon entries key stack => Stack.Sound (.entry entries key :: stack)
  | .after a => a.Sound
  | .heldColon stack | .heldEnd _ stack => Stack.Sound stack

/-- A step that fails leaves nothing to hold of. -/
def Keeps : Except Fault State → Prop
  | .ok s => s.Sound
  | .error _ => True

theorem Kept.nil (stack : Stack) : Kept stack [] where
  nodup := List.nodup_nil
  head := by simp [Entries.keys]
  fits := trivial

theorem Kept.insert {stack : Stack} {entries : Entries String Json} {key : String} {j : Json}
    (h : Kept stack entries) (hk : Starts stack entries key)
    (hj : Fits (room (stack.length + 1)) j) : Kept stack (entries.insert key j) where
  nodup := Entries.nodup_keys_insert h.nodup
  head := by
    intro hs
    cases entries with
    | nil => simpa [Entries.insert, Entries.keys] using hk rfl hs
    | cons e es =>
      rw [Entries.head?_insert]
      exact h.head hs
  fits := h.fits.insert key hj

theorem Kept.placeable {stack : Stack} {entries : Entries String Json} (h : Kept stack entries)
    (hd : stack.length < maxDepth) : Placeable stack (.obj entries) where
  whole := by
    intro hs es he
    cases he
    cases hs
    exact ⟨h.nodup, h.fits⟩
  fits := by
    intro hs
    rw [room_eq hd, Fits]
    exact ⟨h.nodup, h.head hs, h.fits⟩

theorem placeable_arr {stack : Stack} {items : List Json} (hd : stack.length < maxDepth)
    (h : FitsItems (room (stack.length + 1)) items) : Placeable stack (.arr items) where
  whole := by
    intro _ es he
    cases he
  fits := by
    intro _
    rw [room_eq hd, Fits]
    exact h

theorem placeable_scalar (stack : Stack) {j : Json} (h : ∀ n, Fits n j) : Placeable stack j where
  whole := by
    intro _ es he
    cases he
    exact absurd (h 0) (by simp [Fits])
  fits := fun _ => h _

theorem put_sound {stack : Stack} {j : Json} (hs : Stack.Sound stack) (hj : Placeable stack j) :
    (put j stack).Sound := by
  cases stack with
  | nil => exact hj.whole rfl
  | cons frame stack =>
    have hfits := hj.fits (List.cons_ne_nil _ _)
    obtain ⟨hd, hframe, hstack⟩ := hs
    cases frame with
    | list items => exact ⟨hd, ⟨hfits, hframe⟩, hstack⟩
    | entry entries key =>
      exact ⟨⟨hstack, hd⟩, hframe.1.insert hframe.2 hfits, Entries.insert_ne_nil key j entries⟩

theorem deliver_keeps {slot : Slot} {j : Json} (bytes : Nat) (h : slot.Sound)
    (hj : ∀ n, Fits n j) : Keeps (deliver bytes j slot) := by
  cases slot with
  | inside stack => exact put_sound h (placeable_scalar stack hj)
  | document => trivial
  | held stack =>
    cases j with
    | str s =>
      simp only [deliver]
      split
      · exact h
      · trivial
    | _ => trivial

theorem beginList_keeps {slot : Slot} (h : slot.Sound) : Keeps (beginList slot) := by
  cases slot with
  | inside stack =>
    rw [beginList]
    split
    next hd => exact ⟨h, hd⟩
    next => trivial
  | document => trivial
  | held stack => trivial

theorem beginObject_keeps {slot : Slot} (h : slot.Sound) : Keeps (beginObject slot) := by
  cases slot with
  | inside stack =>
    rw [beginObject]
    split
    next hd => exact ⟨⟨h, hd⟩, fun _ => rfl⟩
    next => trivial
  | document => exact ⟨⟨trivial, by decide⟩, fun hne => absurd rfl hne⟩
  | held stack => trivial

theorem beginValue_keeps {slot : Slot} (h : slot.Sound) (c : Char) :
    Keeps (beginValue slot c) := by
  unfold beginValue
  split
  · exact ⟨h, by simp [Fits]⟩
  · exact ⟨h, by simp [Fits]⟩
  · exact ⟨h, by simp [Fits]⟩
  · exact h
  · exact beginList_keeps h
  · exact beginObject_keeps h
  · split
    · exact h
    · trivial

theorem beginKey_keeps {mayHold : Bool} {entries : Entries String Json} {stack : Stack}
    (hs : Stack.Opens stack) (he : Kept stack entries)
    (hm : entries = [] → stack ≠ [] → mayHold = true) (c : Char) :
    Keeps (beginKey mayHold entries stack c) := by
  rw [beginKey]
  split
  · exact ⟨hs, he, hm⟩
  · trivial

theorem After.step_keeps {a : After} (h : a.Sound) (c : Char) : Keeps (a.step c) := by
  cases a with
  | item items stack =>
    rw [After.step]
    split
    · exact h
    split
    · exact h
    split
    · obtain ⟨hd, hitems, hstack⟩ := h
      apply put_sound hstack
      apply placeable_arr hd
      rw [fitsItems_iff]
      intro x hx
      exact fitsItems_iff.1 hitems x (List.mem_reverse.1 hx)
    · trivial
  | entry entries stack =>
    rw [After.step]
    split
    · exact h
    split
    · exact h
    split
    · exact put_sound h.1.sound (h.2.1.placeable h.1.depth)
    · trivial
  | all j =>
    rw [After.step]
    split
    · exact h
    · trivial

theorem endString_keeps {role : Role} (h : role.Sound) (text : String) :
    Keeps (endString text role) := by
  cases role with
  | value slot => exact deliver_keeps 1 h (by simp [Fits])
  | key mayHold entries stack =>
    obtain ⟨hs, he, hm⟩ := h
    rw [endString]
    split
    · exact hs.sound
    next hkey =>
      refine ⟨hs.depth, ⟨he, ?_⟩, hs.sound⟩
      intro hnil hne heq
      exact hkey (by simp [hm hnil hne, heq])

theorem stepHex_keeps {role : Role} (h : role.Sound) (bytes : Nat) (code high : Option Nat)
    (text : String) (c : Char) : Keeps (stepHex bytes code high text role c) := by
  simp only [stepHex]
  split
  · exact h
  split
  next n _ =>
    cases high with
    | some m =>
      rw [endHex]
      split
      · exact h
      · trivial
    | none =>
      rw [endHex]
      split
      · trivial
      split
      · exact h
      · exact h
  next => trivial

theorem stepString_keeps {role : Role} (h : role.Sound) (phase : Phase) (text : String)
    (c : Char) : Keeps (stepString text role phase c) := by
  cases phase with
  | plain =>
    rw [stepString]
    split
    · exact endString_keeps h text
    split
    · exact h
    split
    · trivial
    · exact h
  | escape =>
    rw [stepString]
    split
    · exact h
    split
    · exact h
    · trivial
  | hex bytes code high => exact stepHex_keeps h bytes code high text c
  | pairBackslash high =>
    rw [stepString]
    split
    · exact h
    · trivial
  | pairLetter high =>
    rw [stepString]
    split
    · exact h
    · trivial

theorem endNumber_keeps {slot : Slot} (h : slot.Sound) (n : Number) (c : Char) :
    Keeps (endNumber n c slot) := by
  have hn (m : Nat) : Fits m (.num n) := by simp [Fits]
  cases slot with
  | inside stack => exact After.step_keeps (put_sound h (placeable_scalar stack hn)) c
  | document => trivial
  | held stack => trivial

theorem step_keeps {s : State} (h : s.Sound) (c : Char) : Keeps (step s c) := by
  cases s with
  | value slot =>
    rw [step]
    split
    · exact h
    · exact beginValue_keeps h c
  | literal next rest j slot =>
    simp only [step]
    split
    · split
      · exact deliver_keeps 1 h.1 h.2
      · exact h
    · trivial
  | number scan slot =>
    rw [step]
    split
    · exact h
    · trivial
    · exact endNumber_keeps h _ c
  | string phase text role => exact stepString_keeps h phase text c
  | firstItem stack =>
    rw [step]
    split
    · exact h
    split
    · exact put_sound h.sound (placeable_arr h.depth trivial)
    · have hslot : Slot.Sound (.inside (.list [] :: stack)) := ⟨h.depth, trivial, h.sound⟩
      exact beginValue_keeps hslot c
  | nextItem items stack =>
    rw [step]
    split
    · exact h
    split
    · trivial
    · have hslot : Slot.Sound (.inside (.list items :: stack)) := h
      exact beginValue_keeps hslot c
  | firstKey mayHold stack =>
    rw [step]
    split
    · exact h
    split
    · exact put_sound h.1.sound ((Kept.nil stack).placeable h.1.depth)
    · exact beginKey_keeps h.1 (Kept.nil stack) (fun _ => h.2) c
  | nextKey entries stack =>
    rw [step]
    split
    · exact h
    split
    · trivial
    · exact beginKey_keeps h.1 h.2.1 (fun hnil => absurd hnil h.2.2) c
  | colon entries key stack =>
    rw [step]
    split
    · exact h
    split
    · exact h
    · trivial
  | after a => exact After.step_keeps h c
  | heldColon stack =>
    rw [step]
    split
    · exact h
    split
    · exact h
    · trivial
  | heldEnd n stack =>
    rw [step]
    split
    · exact h
    split
    · exact put_sound h (placeable_scalar stack (by simp [Fits]))
    split
    · trivial
    · trivial

theorem run_sound {s t : State} {cs : List Char} {place : Position} (h : s.Sound)
    (hrun : run place s cs = .ok t) : t.Sound := by
  induction cs generalizing s place with
  | nil =>
    rw [run] at hrun
    cases hrun
    exact h
  | cons c cs ih =>
    have hstep := step_keeps h c
    rw [run] at hrun
    split at hrun
    next u hu =>
      rw [hu] at hstep
      exact ih hstep hrun
    next => cases hrun

theorem After.finish_whole {a : After} {j : Json} (h : a.Sound) (hf : a.finish = .ok j) :
    Whole j := by
  cases a with
  | all i =>
    cases hf
    exact h
  | item items stack => cases hf
  | entry entries stack => cases hf

theorem finish_whole {s : State} {j : Json} (h : s.Sound) (hf : finish s = .ok j) : Whole j := by
  cases s with
  | after a => exact After.finish_whole h hf
  | number scan slot =>
    simp only [finish] at hf
    split at hf
    · cases hf
    next n stack _ =>
      exact After.finish_whole (put_sound h (placeable_scalar stack (by simp [Fits]))) hf
    · cases hf
    · cases hf
  | _ => cases hf

theorem readFrom_whole {s : State} {cs : List Char} {j : Json} (h : s.Sound)
    (hread : readFrom s cs = .ok j) : Whole j := by
  rw [readFrom] at hread
  split at hread
  · cases hread
  next t hrun =>
    split at hread
    next i hf =>
      cases hread
      exact finish_whole (run_sound h hrun) hf
    next => cases hread

end WorkflowManifest.Json.Reader
