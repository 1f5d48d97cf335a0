import WorkflowManifest.Proofs.Json.Meaning
import WorkflowManifest.Proofs.Json.NumberGrammar
import WorkflowManifest.Proofs.Json.StringGrammar

namespace WorkflowManifest.Json

theorem Grammar.Blank.isBlank {cs : List Char} (h : Blank cs) :
    ∀ c ∈ cs, Reader.isBlank c = true := by
  intro c hc
  obtain rfl | rfl | rfl | rfl := h c hc <;> rfl

namespace Reader

open Grammar
open Number (Scan)

structure Begins (c : Char) : Prop where
  notBlank : isBlank c = false
  notEnd : c ≠ ']'

structure Awaits (s : State) (stack : Stack) : Prop where
  skips : Skips s
  begins : ∀ c : Char, Begins c → step s c = beginValue (.inside stack) c

theorem value_awaits (stack : Stack) : Awaits (.value (.inside stack)) stack where
  skips := by
    intro c hc
    simp [step, hc]
  begins := by
    intro c hc
    simp [step, hc.notBlank]

theorem firstItem_awaits (stack : Stack) : Awaits (.firstItem stack) (.list [] :: stack) where
  skips := by
    intro c hc
    simp [step, hc]
  begins := by
    intro c hc
    simp [step, hc.notBlank, hc.notEnd]

theorem nextItem_awaits (items : List Json) (stack : Stack) :
    Awaits (.nextItem items stack) (.list items :: stack) where
  skips := by
    intro c hc
    simp [step, hc]
  begins := by
    intro c hc
    simp [step, hc.notBlank, hc.notEnd]

structure AwaitsKey (s : State) (entries : Entries String Json) (stack : Stack) (key : String) :
    Prop where
  skips : Skips s
  begins : ∃ mayHold : Bool, (mayHold = true → key ≠ numberKey) ∧
    step s '"' = .ok (.string .plain "" (.key mayHold entries stack))

theorem firstKey_skips (mayHold : Bool) (stack : Stack) : Skips (.firstKey mayHold stack) := by
  intro c hc
  simp [step, hc]

theorem firstKey_awaitsKey {mayHold : Bool} {key : String} (h : mayHold = true → key ≠ numberKey)
    (stack : Stack) : AwaitsKey (.firstKey mayHold stack) [] stack key where
  skips := firstKey_skips mayHold stack
  begins := ⟨mayHold, h, rfl⟩

theorem nextKey_awaitsKey (entries : Entries String Json) (stack : Stack) (key : String) :
    AwaitsKey (.nextKey entries stack) entries stack key where
  skips := by
    intro c hc
    simp [step, hc]
  begins := ⟨false, by simp, rfl⟩

section Scalars

variable {s : State} {stack : Stack}

theorem null_leads (h : Awaits s stack) :
    Leads s "null".toList (.after (put .null stack)) := by
  have hn : step s 'n' = .ok (.literal 'u' ['l', 'l'] .null (.inside stack)) :=
    h.begins 'n' ⟨rfl, by decide⟩
  exact .cons hn fun _ => rfl

theorem bool_leads (h : Awaits s stack) (b : Bool) :
    Leads s (if b then "true" else "false").toList (.after (put (.bool b) stack)) := by
  cases b with
  | true =>
    have ht : step s 't' = .ok (.literal 'r' ['u', 'e'] (.bool true) (.inside stack)) :=
      h.begins 't' ⟨rfl, by decide⟩
    exact .cons ht fun _ => rfl
  | false =>
    have hf : step s 'f' = .ok (.literal 'a' ['l', 's', 'e'] (.bool false) (.inside stack)) :=
      h.begins 'f' ⟨rfl, by decide⟩
    exact .cons hf fun _ => rfl

theorem str_leads (h : Awaits s stack) {cs : List Char} {text : String} (hcs : Str cs text) :
    Leads s cs (.after (put (.str text) stack)) := by
  obtain ⟨body, rfl, hbody⟩ := hcs
  have hq : step s '"' = .ok (.string .plain "" (.value (.inside stack))) :=
    h.begins '"' ⟨rfl, by decide⟩
  exact .cons hq (body_leads hbody rfl)

theorem begins_of_start? {c : Char} {scan : Scan} (h : Scan.start? c = some scan) : Begins c where
  notBlank := by
    have hne : ∀ d : Char, Scan.start? d = none → c ≠ d := by
      rintro d hd rfl
      rw [hd] at h
      cases h
    simp [isBlank, hne ' ' rfl, hne '\t' rfl, hne '\n' rfl, hne '\r' rfl]
  notEnd := by
    rintro rfl
    cases h

theorem beginValue_start? {c : Char} {scan : Scan} (h : Scan.start? c = some scan) (slot : Slot) :
    beginValue slot c = .ok (.number scan slot) := by
  unfold beginValue
  split
  case h_7 => rw [h]
  all_goals cases h

theorem num_settles (h : Awaits s stack) {cs : List Char} {n : Number} (hcs : NumberText cs n) :
    Settles s cs (put (.num n) stack) := by
  obtain ⟨c, ds, scan, rfl, hstart, hpast⟩ := Scan.scan_numberText hcs
  have hfirst : step s c = .ok (.number scan (.inside stack)) :=
    (h.begins c (begins_of_start? hstart)).trans (beginValue_start? hstart _)
  exact ⟨_, .cons hfirst (past_leads hpast _), standsFor_number n stack⟩

end Scalars

section Brackets

variable {s : State} {stack : Stack} {cs : List Char}

theorem beginList_step (h : Awaits s stack) (hd : stack.length < maxDepth) :
    step s '[' = .ok (.firstItem stack) := by
  rw [h.begins '[' ⟨rfl, by decide⟩]
  simp [beginValue, beginList, hd]

theorem beginObject_step (h : Awaits s stack) (hd : stack.length < maxDepth) :
    step s '\x7b' = .ok (.firstKey true stack) := by
  rw [h.begins '\x7b' ⟨rfl, by decide⟩]
  simp [beginValue, beginObject, hd]

theorem depth_of_room {depth : Nat} (h : depth + 1 = room stack.length) :
    stack.length < maxDepth ∧ depth = room (stack.length + 1) := by
  unfold room at *
  omega

theorem emptyList_leads (h : Blank cs) :
    Leads (.firstItem stack) (cs ++ [']']) (.after (put (.arr []) stack)) :=
  ((firstItem_awaits stack).skips.leads h.isBlank).append (.one rfl)

theorem emptyObject_leads (h : Blank cs) (mayHold : Bool) :
    Leads (.firstKey mayHold stack) (cs ++ ['\x7d']) (.after (put (.obj []) stack)) :=
  ((firstKey_skips mayHold stack).leads h.isBlank).append (.one rfl)

end Brackets

section Entry

variable {s : State} {entries : Entries String Json} {stack : Stack} {key : String}
  {before cs between : List Char}

theorem key_leads (h : AwaitsKey s entries stack key) (hbefore : Blank before) (hcs : Str cs key)
    (hbetween : Blank between) :
    Leads s (before ++ cs ++ between ++ [':'])
      (.value (.inside (.entry entries key :: stack))) := by
  obtain ⟨body, rfl, hbody⟩ := hcs
  obtain ⟨mayHold, hkey, hs⟩ := h.begins
  have hend : endString key (.key mayHold entries stack) = .ok (.colon entries key stack) := by
    cases mayHold with
    | true => simp [endString, hkey rfl]
    | false => rfl
  have hcolon : Skips (.colon entries key stack) := by
    intro c hc
    simp [step, hc]
  have hstring : Leads s ('"' :: body ++ ['"']) _ := .cons hs (body_leads hbody hend)
  have hfront := (h.skips.leads hbefore.isBlank).append hstring
  exact (hfront.append (hcolon.leads hbetween.isBlank)).append (.one rfl)

end Entry

theorem held_leads {stack : Stack} {depth : Nat} {cs : List Char} {text : String} {n : Number}
    (h : Members depth cs [(numberKey, .str text)]) (hn : Number.read text.toList = .ok n) :
    Leads (.firstKey true stack) (cs ++ ['\x7d']) (.after (put (.num n) stack)) := by
  obtain ⟨hbefore, ⟨body, rfl, hbody⟩, hbetween, hinner, hvalue, hafter⟩ : Member depth cs _ := by
    cases h with
    | one h => exact h
    | more _ hrest => cases hrest
  obtain ⟨digits, rfl, hdigits⟩ : Str _ text := by
    cases hvalue with
    | str h => exact h
  have hcolon : Skips (.heldColon stack) := by
    intro c hc
    simp [step, hc]
  have hheld : Skips (.value (.held stack)) := by
    intro c hc
    simp [step, hc]
  have hend : Skips (.heldEnd n stack) := by
    intro c hc
    simp [step, hc]
  have hkeyText : Leads (.string .plain "" (.key true [] stack)) _ (.heldColon stack) :=
    body_leads hbody rfl
  have hkey : Leads (.firstKey true stack) ('"' :: body ++ ['"']) (.heldColon stack) :=
    .cons rfl hkeyText
  have hdeliver : endString text (.value (.held stack)) = .ok (.heldEnd n stack) := by
    simp [endString, deliver, hn]
  have hstring : Leads (.value (.held stack)) ('"' :: digits ++ ['"']) (.heldEnd n stack) :=
    .cons rfl (body_leads hdigits hdeliver)
  have hfront := ((firstKey_skips true stack).leads hbefore.isBlank).append hkey
  have hmiddle := hfront.append (hcolon.leads hbetween.isBlank)
  have hback := ((hheld.leads hinner.isBlank).append hstring).append (hend.leads hafter.isBlank)
  exact (hmiddle.append (.cons rfl hback)).append (.one rfl)

theorem item_settles {depth : Nat} {cs : List Char} {x : Json} {s : State} {a : After}
    (h : Item depth cs x) (hs : Skips s)
    (hx : ∀ {value : List Char}, Value depth value x → Settles s value a) : Settles s cs a := by
  obtain ⟨hbefore, hvalue, hafter⟩ := h
  exact ((hs.leads hbefore.isBlank).append_settles (hx hvalue)).blanks hafter.isBlank

theorem member_settles {depth : Nat} {cs : List Char} {k : String} {x : Json}
    {entries : Entries String Json} {s : State} {stack : Stack} {a : After}
    (h : Member depth cs (k, x)) (hs : AwaitsKey s entries stack k)
    (hx : ∀ {value : List Char}, Value depth value x →
      Settles (.value (.inside (.entry entries k :: stack))) value a) : Settles s cs a := by
  obtain ⟨hbefore, hkey, hbetween, hitem⟩ := h
  have hvalue := item_settles hitem (value_awaits (.entry entries k :: stack)).skips hx
  have hall := (key_leads hs hbefore hkey hbetween).append_settles hvalue
  rwa [List.append_assoc, List.singleton_append] at hall

mutual

theorem value_settles : ∀ {depth : Nat} {cs : List Char} {j : Json} {s : State} {stack : Stack}
    (i : Json), Value depth cs i → Means i j → Awaits s stack → depth = room stack.length →
    Settles s cs (put j stack)
  | _, _, _, _, _, .null, h, hm, hs, _ => by
    cases h
    cases hm
    exact (null_leads hs).settles
  | _, _, _, _, _, .bool b, h, hm, hs, _ => by
    cases h
    cases hm
    exact (bool_leads hs b).settles
  | _, _, _, _, _, .num n, h, hm, hs, _ => by
    cases hm
    cases h with
    | num h => exact num_settles hs h
  | _, _, _, _, _, .str text, h, hm, hs, _ => by
    cases hm
    cases h with
    | str h => exact (str_leads hs h).settles
  | _, _, _, _, stack, .arr xs, h, hm, hs, hd => by
    cases hm with
    | arr hm =>
      apply Leads.settles
      cases h with
      | emptyArr h =>
        cases hm
        exact .cons (beginList_step hs (depth_of_room hd).1) (emptyList_leads h)
      | arr h =>
        obtain ⟨hlt, hd⟩ := depth_of_room hd
        exact .cons (beginList_step hs hlt) (items_lead xs h hm (firstItem_awaits stack) hd)
  | _, _, _, _, stack, .obj es, h, hm, hs, hd => by
    apply Leads.settles
    cases h with
    | emptyObj h =>
      have hbegin := beginObject_step hs (depth_of_room hd).1
      cases hm with
      | obj _ hm =>
        cases hm
        exact .cons hbegin (emptyObject_leads h true)
    | obj h =>
      obtain ⟨hlt, hd⟩ := depth_of_room hd
      have hbegin := beginObject_step hs hlt
      cases hm with
      | held hn => exact .cons hbegin (held_leads h hn)
      | obj hhead hm =>
        have hkey (k : String) (hk : k ∈ (Entries.keys es).head?) :
            AwaitsKey (.firstKey true stack) [] stack k := by
          apply firstKey_awaitsKey
          rintro _ rfl
          exact hhead hk
        exact .cons hbegin (members_lead es h hm hkey hd)

theorem items_lead : ∀ {depth : Nat} {cs : List Char} {ys items : List Json} {s : State}
    {stack : Stack} (xs : List Json), Items depth cs xs → MeansItems xs ys →
    Awaits s (.list items :: stack) → depth = room (stack.length + 1) →
    Leads s (cs ++ [']']) (.after (put (.arr (items.reverse ++ ys)) stack))
  | _, _, _, _, _, _, [], h, _, _, _ => by cases h
  | _, _, _, items, s, stack, x :: xs, h, hm, hs, hd => by
    cases hm with
    | @cons _ y _ ys hx hxs =>
      have hy {cs : List Char} (h : Item _ cs x) : Settles s cs (.item (y :: items) stack) :=
        item_settles h hs.skips fun hvalue => value_settles x hvalue hx hs hd
      cases h with
      | one h =>
        cases hxs
        apply (hy h).closed closes_bracket
        simp [After.step, isBlank]
      | more h hrest =>
        have hcomma : Leads s (_ ++ [',']) (.nextItem (y :: items) stack) :=
          (hy h).closed closes_comma rfl
        have hnext := nextItem_awaits (y :: items) stack
        have hall := hcomma.append (items_lead xs hrest hxs hnext hd)
        simpa using hall

theorem members_lead : ∀ {depth : Nat} {cs : List Char} {fs : List (String × Json)}
    {entries : Entries String Json} {s : State} {stack : Stack} (es : List (String × Json)),
    Members depth cs es → MeansEntries es fs →
    (∀ k ∈ (Entries.keys es).head?, AwaitsKey s entries stack k) →
    depth = room (stack.length + 1) →
    Leads s (cs ++ ['\x7d']) (.after (put (.obj (entries.insertAll fs)) stack))
  | _, _, _, _, _, _, [], h, _, _, _ => by cases h
  | _, _, _, entries, s, stack, (k, x) :: es, h, hm, hs, hd => by
    have hawaits := value_awaits (.entry entries k :: stack)
    cases hm with
    | @cons _ _ y _ fs hx hes =>
      have hy {cs : List Char} (h : Member _ cs (k, x)) :
          Settles s cs (.entry (entries.insert k y) stack) :=
        member_settles h (hs k rfl) fun hvalue => value_settles x hvalue hx hawaits hd
      cases h with
      | one h =>
        cases hes
        exact (hy h).closed closes_brace rfl
      | more h hrest =>
        have hcomma : Leads s (_ ++ [',']) (.nextKey (entries.insert k y) stack) :=
          (hy h).closed closes_comma rfl
        have hnext := fun l (_ : l ∈ (Entries.keys es).head?) =>
          nextKey_awaitsKey (entries.insert k y) stack l
        have hall := hcomma.append (members_lead es hrest hes hnext hd)
        simpa [Entries.insertAll_cons] using hall

end

theorem settles_text {cs before value after : List Char} {s : State} {j : Json}
    (hcs : cs = before ++ value ++ after) (hbefore : Blank before) (hafter : Blank after)
    (hs : Skips s) (h : Settles s value (.all j)) : readFrom s cs = .ok j := by
  rw [hcs]
  exact (((hs.leads hbefore.isBlank).append_settles h).blanks hafter.isBlank).readFrom

theorem readFrom_text {cs : List Char} {es fs : List (String × Json)} (h : Text cs (.obj es))
    (hm : MeansEntries es fs) :
    readFrom (.value .document) cs = .ok (.obj (Entries.insertAll [] fs)) := by
  obtain ⟨before, value, after, hcs, hbefore, hafter, h⟩ := h
  have hskips : Skips (.value .document) := by
    intro c hc
    simp [step, hc]
  apply settles_text hcs hbefore hafter hskips
  apply Leads.settles
  cases h with
  | emptyObj h =>
    cases hm
    have hempty : Leads (.firstKey false []) _ _ := emptyObject_leads h false
    exact .cons rfl hempty
  | obj h =>
    have hkey (k : String) (_ : k ∈ (Entries.keys es).head?) :
        AwaitsKey (.firstKey false []) [] [] k := firstKey_awaitsKey (by simp) []
    exact .cons rfl (members_lead es h hm hkey rfl)

end Reader

open Grammar Reader

theorem read_of_text {cs : List Char} {i j : Json} (h : Text cs i) (hm : Means i j) :
    Json.read cs = .ok j := by
  obtain ⟨before, value, after, hcs, hbefore, hafter, h⟩ := h
  have hawaits := value_awaits []
  exact settles_text hcs hbefore hafter hawaits.skips (value_settles i h hm hawaits rfl)

end WorkflowManifest.Json
