import WorkflowManifest.Json.Basic
import WorkflowManifest.Text.Hex

/-!
The reader: a machine with a stack of open lists and objects that takes one character at a time.
What it makes of a text is the fold of `step`, then `finish`.
-/

namespace WorkflowManifest.Json.Reader

/-- An object whose first key is this one holds the text of a number, and stands for it. -/
def numberKey : String := "$serde_json::private::Number"

def maxDepth : Nat := 127

inductive Frame where
  | list (items : List Json)
  | entry (entries : Entries String Json) (key : String)

abbrev Stack := List Frame

/-- Where the next value goes: to the innermost open list or object, if there is one; to the top of
a document, where only an object fits; or into an object that holds the text of a number. -/
inductive Slot where
  | inside (stack : Stack)
  | document
  | held (stack : Stack)

inductive Role where
  | value (slot : Slot)
  | key (mayHold : Bool) (entries : Entries String Json) (stack : Stack)

inductive Phase where
  | plain
  | escape
  | hex (bytes : Nat) (code : Option Nat) (high : Option Nat)
  | pairBackslash (high : Nat)
  | pairLetter (high : Nat)

inductive After where
  | item (items : List Json) (stack : Stack)
  | entry (entries : Entries String Json) (stack : Stack)
  | all (j : Json)

inductive State where
  | value (slot : Slot)
  | literal (next : Char) (rest : List Char) (j : Json) (slot : Slot)
  | number (scan : Number.Scan) (slot : Slot)
  | string (phase : Phase) (text : String) (role : Role)
  | firstItem (stack : Stack)
  | nextItem (items : List Json) (stack : Stack)
  | firstKey (mayHold : Bool) (stack : Stack)
  | nextKey (entries : Entries String Json) (stack : Stack)
  | colon (entries : Entries String Json) (key : String) (stack : Stack)
  | after (a : After)
  | heldColon (stack : Stack)
  | heldEnd (n : Number) (stack : Stack)

/-- A failure shows some bytes ahead of the character that brought it about, or at a place of its
own inside the text of a held number. -/
inductive Fault where
  | ahead (cause : Cause) (bytes : Nat)
  | held (failure : Failure)

def isBlank (c : Char) : Bool := c = ' ' || c = '\t' || c = '\n' || c = '\r'

def put (j : Json) : Stack → After
  | [] => .all j
  | .list items :: stack => .item (j :: items) stack
  | .entry entries key :: stack => .entry (entries.insert key j) stack

def deliver (bytes : Nat) (j : Json) : Slot → Except Fault State
  | .inside stack => .ok (.after (put j stack))
  | .document => .error (.ahead (.wrongType j.kind .map) bytes)
  | .held stack =>
    match j with
    | .str s =>
      match Number.read s.toList with
      | .ok n => .ok (.heldEnd n stack)
      | .error f => .error (.held f)
    | j => .error (.ahead (.wrongType j.kind .numberText) bytes)

def beginList : Slot → Except Fault State
  | .inside stack =>
    if stack.length < maxDepth then .ok (.firstItem stack) else .error (.ahead .tooDeep 1)
  | .document => .error (.ahead (.wrongType .sequence .map) 0)
  | .held _ => .error (.ahead (.wrongType .sequence .numberText) 0)

def beginObject : Slot → Except Fault State
  | .inside stack =>
    if stack.length < maxDepth then .ok (.firstKey true stack) else .error (.ahead .tooDeep 1)
  | .document => .ok (.firstKey false [])
  | .held _ => .error (.ahead (.wrongType .map .numberText) 0)

def beginValue (slot : Slot) (c : Char) : Except Fault State :=
  match c with
  | 'n' => .ok (.literal 'u' ['l', 'l'] .null slot)
  | 't' => .ok (.literal 'r' ['u', 'e'] (.bool true) slot)
  | 'f' => .ok (.literal 'a' ['l', 's', 'e'] (.bool false) slot)
  | '"' => .ok (.string .plain "" (.value slot))
  | '[' => beginList slot
  | '\x7b' => beginObject slot
  | c =>
    match Number.Scan.start? c with
    | some scan => .ok (.number scan slot)
    | none => .error (.ahead .expectedValue 1)

def beginKey (mayHold : Bool) (entries : Entries String Json) (stack : Stack) (c : Char) :
    Except Fault State :=
  if c = '"' then .ok (.string .plain "" (.key mayHold entries stack))
  else .error (.ahead .keyNotString 1)

def After.step : After → Char → Except Fault State
  | .item items stack, c =>
    if isBlank c then .ok (.after (.item items stack))
    else if c = ',' then .ok (.nextItem items stack)
    else if c = ']' then .ok (.after (put (.arr items.reverse) stack))
    else .error (.ahead .expectedListEnd 1)
  | .entry entries stack, c =>
    if isBlank c then .ok (.after (.entry entries stack))
    else if c = ',' then .ok (.nextKey entries stack)
    else if c = '\x7d' then .ok (.after (put (.obj entries) stack))
    else .error (.ahead .expectedObjectEnd 1)
  | .all j, c =>
    if isBlank c then .ok (.after (.all j)) else .error (.ahead .trailingCharacters 1)

def endString (text : String) : Role → Except Fault State
  | .value slot => deliver 1 (.str text) slot
  | .key mayHold entries stack =>
    if mayHold && text = numberKey then .ok (.heldColon stack)
    else .ok (.colon entries text stack)

def simpleEscape? (c : Char) : Option Char :=
  match c with
  | '"' => some '"'
  | '\\' => some '\\'
  | '/' => some '/'
  | 'b' => some '\x08'
  | 'f' => some '\x0c'
  | 'n' => some '\n'
  | 'r' => some '\r'
  | 't' => some '\t'
  | _ => none

def isHighSurrogate (n : Nat) : Bool := 0xD800 ≤ n && n < 0xDC00
def isLowSurrogate (n : Nat) : Bool := 0xDC00 ≤ n && n < 0xE000

def pairChar (high low : Nat) : Char :=
  Char.ofNat (0x10000 + (high - 0xD800) * 0x400 + (low - 0xDC00))

def endHex (code : Nat) (high : Option Nat) (text : String) (role : Role) :
    Except Fault State :=
  match high with
  | some h =>
    if isLowSurrogate code then .ok (.string .plain (text.push (pairChar h code)) role)
    else .error (.ahead .loneSurrogate 1)
  | none =>
    if isLowSurrogate code then .error (.ahead .loneSurrogate 1)
    else if isHighSurrogate code then .ok (.string (.pairBackslash code) text role)
    else .ok (.string .plain (text.push (Char.ofNat code)) role)

/-- The four bytes after `\u` are taken together, whatever they hold. -/
def stepHex (bytes : Nat) (code : Option Nat) (high : Option Nat) (text : String) (role : Role)
    (c : Char) : Except Fault State :=
  let code' := match code, Text.hexValue? c with
    | some n, some d => some (16 * n + d)
    | _, _ => none
  if bytes + c.utf8Size < 4 then .ok (.string (.hex (bytes + c.utf8Size) code' high) text role)
  else match code' with
    | some n => endHex n high text role
    | none => .error (.ahead .invalidEscape (4 - bytes))

def stepString (text : String) (role : Role) : Phase → Char → Except Fault State
  | .plain, c =>
    if c = '"' then endString text role
    else if c = '\\' then .ok (.string .escape text role)
    else if c.toNat < 0x20 then .error (.ahead .controlCharacter 1)
    else .ok (.string .plain (text.push c) role)
  | .escape, c =>
    if c = 'u' then .ok (.string (.hex 0 (some 0) none) text role)
    else match simpleEscape? c with
      | some d => .ok (.string .plain (text.push d) role)
      | none => .error (.ahead .invalidEscape 1)
  | .hex bytes code high, c => stepHex bytes code high text role c
  | .pairBackslash high, c =>
    if c = '\\' then .ok (.string (.pairLetter high) text role)
    else .error (.ahead .unfinishedSurrogate 1)
  | .pairLetter high, c =>
    if c = 'u' then .ok (.string (.hex 0 (some 0) (some high)) text role)
    else .error (.ahead .unfinishedSurrogate 1)

def endNumber (n : Number) (c : Char) : Slot → Except Fault State
  | .inside stack => (put (.num n) stack).step c
  | slot => deliver 0 (.num n) slot

def step : State → Char → Except Fault State
  | .value slot, c => if isBlank c then .ok (.value slot) else beginValue slot c
  | .literal next rest j slot, c =>
    if c = next then
      match rest with
      | [] => deliver 1 j slot
      | d :: rest => .ok (.literal d rest j slot)
    else .error (.ahead .expectedLiteral 1)
  | .number scan slot, c =>
    match scan.move c with
    | .more scan' => .ok (.number scan' slot)
    | .refused _ => .error (.ahead .invalidNumber 1)
    | .finished n => endNumber n c slot
  | .string phase text role, c => stepString text role phase c
  | .firstItem stack, c =>
    if isBlank c then .ok (.firstItem stack)
    else if c = ']' then .ok (.after (put (.arr []) stack))
    else beginValue (.inside (.list [] :: stack)) c
  | .nextItem items stack, c =>
    if isBlank c then .ok (.nextItem items stack)
    else if c = ']' then .error (.ahead .trailingComma 1)
    else beginValue (.inside (.list items :: stack)) c
  | .firstKey mayHold stack, c =>
    if isBlank c then .ok (.firstKey mayHold stack)
    else if c = '\x7d' then .ok (.after (put (.obj []) stack))
    else beginKey mayHold [] stack c
  | .nextKey entries stack, c =>
    if isBlank c then .ok (.nextKey entries stack)
    else if c = '\x7d' then .error (.ahead .trailingComma 1)
    else beginKey false entries stack c
  | .colon entries key stack, c =>
    if isBlank c then .ok (.colon entries key stack)
    else if c = ':' then .ok (.value (.inside (.entry entries key :: stack)))
    else .error (.ahead .expectedColon 1)
  | .after a, c => a.step c
  | .heldColon stack, c =>
    if isBlank c then .ok (.heldColon stack)
    else if c = ':' then .ok (.value (.held stack))
    else .error (.ahead .expectedColon 1)
  | .heldEnd n stack, c =>
    if isBlank c then .ok (.heldEnd n stack)
    else if c = '\x7d' then .ok (.after (put (.num n) stack))
    else if c = ',' then .error (.ahead .trailingComma 1)
    else .error (.ahead .trailingCharacters 1)

def After.finish : After → Except Cause Json
  | .item _ _ => .error .endOfList
  | .entry _ _ => .error .endOfObject
  | .all j => .ok j

def finish : State → Except Cause Json
  | .value _ | .literal _ _ _ _ | .nextItem _ _ | .nextKey _ _ => .error .endOfValue
  | .number scan slot =>
    match scan.finish?, slot with
    | none, _ => .error .endOfValue
    | some n, .inside stack => (put (.num n) stack).finish
    | some n, .document => .error (.wrongType n.kind .map)
    | some n, .held _ => .error (.wrongType n.kind .numberText)
  | .string _ _ _ => .error .endOfString
  | .firstItem _ => .error .endOfList
  | .firstKey _ _ | .colon _ _ _ | .heldColon _ | .heldEnd _ _ => .error .endOfObject
  | .after a => a.finish

def Fault.located (place : Position) (cs : List Char) : Fault → Failure
  | .ahead cause bytes => ⟨cause, place.ahead bytes cs⟩
  | .held failure => failure

def run (place : Position) (s : State) : List Char → Except Failure State
  | [] => .ok s
  | c :: cs =>
    match step s c with
    | .ok s' => run (place.next c) s' cs
    | .error fault => .error (fault.located place (c :: cs))

theorem run_append {place : Position} {s t : State} {xs : List Char}
    (h : run place s xs = .ok t) (ys : List Char) :
    run place s (xs ++ ys) = run (place.after xs) t ys := by
  induction xs generalizing place s with
  | nil => simp_all [run]
  | cons c cs ih =>
    cases hs : step s c with
    | ok s' => simp_all [run]
    | error fault => simp [run, hs] at h

def readFrom (s : State) (cs : List Char) : Except Failure Json :=
  match run .start s cs with
  | .error f => .error f
  | .ok s =>
    match finish s with
    | .ok j => .ok j
    | .error cause => .error ⟨cause, Position.start.after cs⟩

end WorkflowManifest.Json.Reader

namespace WorkflowManifest.Json

def read (cs : List Char) : Except Failure Json :=
  Reader.readFrom (.value (.inside [])) cs

end WorkflowManifest.Json
