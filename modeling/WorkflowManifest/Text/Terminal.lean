namespace WorkflowManifest.Text.Terminal

inductive State where
  | ground
  | escape
  | escapeIntermediate
  | controlStart
  | controlParameter
  | controlIntermediate
  | controlIgnored
  | deviceStart
  | deviceParameter
  | deviceIntermediate
  | deviceIgnored
  | devicePassed
  | systemCommand
  | privateMessage
  deriving DecidableEq

namespace State

def endsAtByte : State → Bool
  | .deviceIgnored | .devicePassed | .privateMessage => true
  | _ => false

def nextAscii (s : State) (n : Nat) : State :=
  let intermediate := 0x20 ≤ n && n ≤ 0x2f
  let parameter := 0x30 ≤ n && n ≤ 0x3b
  let marker := 0x3c ≤ n && n ≤ 0x3f
  let final := 0x40 ≤ n && n ≤ 0x7e
  match s with
  | .ground => .ground
  | .escape =>
    if intermediate then .escapeIntermediate
    else if n = 0x50 then .deviceStart
    else if n = 0x5b then .controlStart
    else if n = 0x5d then .systemCommand
    else if n = 0x58 || n = 0x5e || n = 0x5f then .privateMessage
    else if parameter || marker || final then .ground
    else .escape
  | .escapeIntermediate =>
    if parameter || marker || final then .ground else .escapeIntermediate
  | .controlStart =>
    if intermediate then .controlIntermediate
    else if parameter || marker then .controlParameter
    else if final then .ground
    else .controlStart
  | .controlParameter =>
    if intermediate then .controlIntermediate
    else if marker then .controlIgnored
    else if final then .ground
    else .controlParameter
  | .controlIntermediate =>
    if parameter || marker then .controlIgnored
    else if final then .ground
    else .controlIntermediate
  | .controlIgnored => if final then .ground else .controlIgnored
  | .deviceStart =>
    if intermediate then .deviceIntermediate
    else if parameter || marker then .deviceParameter
    else if final then .devicePassed
    else .deviceStart
  | .deviceParameter =>
    if intermediate then .deviceIntermediate
    else if marker then .deviceIgnored
    else if final then .devicePassed
    else .deviceParameter
  | .deviceIntermediate =>
    if parameter || marker then .deviceIgnored
    else if final then .devicePassed
    else .deviceIntermediate
  | .systemCommand => if n = 0x07 then .ground else .systemCommand
  | .deviceIgnored => .deviceIgnored
  | .devicePassed => .devicePassed
  | .privateMessage => .privateMessage

def next (s : State) (c : Char) : State :=
  if c = '\x18' || c = '\x1a' then .ground
  else if c = '\x1b' then .escape
  else if c.toNat < 0x80 then s.nextAscii c.toNat
  else if s.endsAtByte && (String.utf8EncodeChar c).contains 0x9c then .ground
  else s

def obeysControls : State → Bool
  | .ground | .escape | .escapeIntermediate | .controlStart | .controlParameter
  | .controlIntermediate | .controlIgnored => true
  | _ => false

def shows (s : State) (c : Char) : Bool :=
  if c = '\t' || c = '\n' || c = '\x0c' || c = '\r' then s.obeysControls
  else s = .ground && 0x20 ≤ c.toNat && c ≠ '\x7f'

end State

def shownFrom (s : State) : List Char → List Char
  | [] => []
  | c :: cs => if s.shows c then c :: shownFrom .ground cs else shownFrom (s.next c) cs

def sentFrom (s : State) (showing : Bool) : List Char → List Char
  | [] => []
  | c :: cs =>
    if (if showing then State.ground else s).shows c then
      c :: sentFrom (if c.toNat < 0x80 then s else .ground) true cs
    else sentFrom (s.next c) false cs

def shown (text : String) : String := String.ofList (shownFrom .ground text.toList)

def sent (text : String) : String := String.ofList (sentFrom .ground false text.toList)

end WorkflowManifest.Text.Terminal
