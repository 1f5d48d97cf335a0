import WorkflowManifest.Pattern.Brackets
import WorkflowManifest.Text.Property.Letters

namespace WorkflowManifest.Pattern

structure Branches where
  start : Nat
  complete : List Node := []
  branchStart : Nat
  parts : List Node := []

namespace Branches

def startingAt (o : Nat) : Branches := { start := o, branchStart := o }

def push (b : Branches) (node : Node) : Branches := { b with parts := node :: b.parts }

def lastBranch (b : Branches) (stop : Nat) : Node :=
  .ofSequence ⟨b.branchStart, stop⟩ b.parts.reverse

def close (b : Branches) (stop : Nat) : Node :=
  match b.complete with
  | [] => b.lastBranch stop
  | nodes => .alternation ⟨b.start, stop⟩ (nodes.reverse ++ [b.lastBranch stop])

def another (b : Branches) (bar : Nat) : Branches :=
  { b with complete := b.lastBranch bar :: b.complete, branchStart := bar + 1, parts := [] }

end Branches

inductive Opening where
  | flags (extent : Extent) (changes : FlagChanges)
  | group (extent : Extent) (changes : FlagChanges)

structure OpenGroup where
  outer : Branches
  extent : Extent
  changes : FlagChanges
  ignoreSpace : Bool

def flagOf? : Char → Option Flag
  | 'i' => some .ignoreCase
  | 'm' => some .multiLine
  | 's' => some .dotMatchesLineFeed
  | 'U' => some .swapGreed
  | 'u' => some .unicode
  | 'R' => some .carriageReturns
  | 'x' => some .ignoreSpace
  | _ => none

def isNameStart (c : Char) : Bool :=
  c = '_' || Text.CodeSet.alphabetic.has c || Text.CodeSet.laterAlphabetic.has c

def isNamePart (c : Char) : Bool :=
  isNameStart c || c = '.' || c = '[' || c = ']' ||
    Text.Category.numbers.contains (Text.category c) || Text.CodeSet.laterNumber.has c

def FlagChanges.value? (changes : FlagChanges) (flag : Flag) : Option Bool :=
  (changes.find? fun change => change.1 = flag).map (·.2)

def repetitionOf? : Char → Option (Nat × Option Nat)
  | '?' => some (0, some 1)
  | '*' => some (0, none)
  | '+' => some (1, none)
  | _ => none

structure FlagReading where
  changes : FlagChanges := []
  places : List (Flag × Extent) := []
  minus : Option Extent := none

namespace Reader

def failAgain (cause : Cause) (extent earlier : Extent) : Reader α :=
  throw { cause, extent, earlier := some earlier }

def flag (r : FlagReading) (c : Char) : Reader FlagReading := do
  let o ← offset
  let here : Extent := ⟨o, o + 1⟩
  if c = '-' then
    match r.minus with
    | some earlier => failAgain .flagNegationRepeated here earlier
    | none => return { r with minus := some here }
  else match flagOf? c with
    | none => fail .flagUnrecognized here
    | some f =>
      match r.places.find? fun place => place.1 = f with
      | some (_, earlier) => failAgain .flagDuplicate here earlier
      | none =>
        return { r with
          changes := r.changes ++ [(f, r.minus.isNone)]
          places := r.places ++ [(f, here)] }

def flags : Nat → FlagReading → Reader (FlagChanges × Bool × Char)
  | 0, _ => failHere .flagMissing
  | fuel + 1, r => do
    match ← current? with
    | none => failHere .flagMissing
    | some c =>
      if c = ':' || c = ')' then
        match r.minus with
        | some e =>
          if e.stop = (← offset) then fail .flagNegationDangling e
          else return (r.changes, false, c)
        | none => return (r.changes, r.changes.isEmpty, c)
      else
        let r ← flag r c
        next
        flags fuel r

def groupName : Reader Unit := do
  let start ← offset
  match ← current? with
  | none => failHere .groupNameUnclosed
  | some c =>
    if c ≠ '>' && !isNameStart c then failAtCharacter .groupNameInvalid
    else
      let name ← if c = '>' then pure [] else take isNamePart
      match ← current? with
      | none => failHere .groupNameUnclosed
      | some '>' =>
        let extent ← since start
        next
        if name.isEmpty then fail .groupNameEmpty extent
        else
          let text := String.ofList name
          match (← get).names.find? fun n => n.1 = text with
          | some (_, earlier) => failAgain .groupNameDuplicate extent earlier
          | none => modify fun k => { k with names := k.names ++ [(text, extent)] }
      | some _ => failAtCharacter .groupNameInvalid

def passed (text : String) : Reader Bool := do
  if text.toList.isPrefixOf (← get).rest then
    skip text.length
    return true
  else return false

def opening : Reader Opening := do
  let start ← offset
  next
  let paren ← since start
  passSpace
  if ← passed "?=" <||> passed "?!" <||> passed "?<=" <||> passed "?<!" then
    failSince .lookAround start
  else
    let mark ← offset
    if ← passed "?P<" <||> passed "?<" then
      groupName
      return .group paren []
    else if ← passed "?" then
      if (← current?).isNone then fail .groupUnclosed paren
      else
        let (changes, bare, last) ← flags (← fuel) {}
        next
        if last = ':' then return .group paren changes
        else if bare then fail .repetitionMissing ⟨mark, mark⟩
        else return .flags (← since start) changes
    else return .group paren []

def repeated (b : Branches) : Reader (Node × List Node) :=
  match b.parts with
  | [] => failHere .repetitionMissing
  | node :: parts => if node.isRepeatable then return (node, parts) else failHere .repetitionMissing

def preference : Reader Unit := do
  if (← current?) = some '?' then next

def repetition (b : Branches) (least : Nat) (most : Option Nat) : Reader Branches := do
  let (node, parts) ← repeated b
  next
  preference
  let extent ← since node.extent.start
  return { b with parts := .repetition extent node least most :: parts }

def decimal : Reader (Except Failure Nat) := do
  let _ ← take Text.isBlank
  let start ← offset
  let digits ← takeSolid Char.isDigit
  let extent ← since start
  let _ ← takeSolid Text.isBlank
  let value := Digit.value (digits.filterMap Digit.ofChar?)
  if digits.isEmpty then
    return .error { cause := .repetitionCountMissing, extent }
  else if value < 0x100000000 then return .ok value
  else return .error { cause := .decimalInvalid, extent }

def counts (start : Nat) : Reader (Nat × Option Nat) := do
  let least ← decimal
  match ← current? with
  | none => failSince .repetitionCountUnclosed start
  | some ',' =>
    nextSolid
    match ← current? with
    | none => failSince .repetitionCountUnclosed start
    | some '\x7d' => return (← least, none)
    | some _ =>
      let least ← least
      return (least, some (← (← decimal : Except Failure Nat)))
  | some _ =>
    let least ← least
    return (least, some least)

def countedRepetition (b : Branches) : Reader Branches := do
  let start ← offset
  let (node, parts) ← repeated b
  nextSolid
  if (← current?).isNone then failSince .repetitionCountUnclosed start
  else
    let (least, most) ← counts start
    if (← current?) ≠ some '\x7d' then failSince .repetitionCountUnclosed start
    else
      nextSolid
      preference
      if most.all (least ≤ ·) then
        let extent ← since node.extent.start
        return { b with parts := .repetition extent node least most :: parts }
      else failSince .repetitionCountInvalid start

def setIgnoreSpace (value : Bool) : Reader Unit := modify fun k => { k with ignoreSpace := value }

def branches : Nat → Branches → List OpenGroup → Reader Node
  | 0, _, _ => failHere .groupUnclosed
  | fuel + 1, b, groups => do
    passSpace
    match ← current? with
    | none =>
      match groups with
      | [] => return b.close (← offset)
      | g :: _ => fail .groupUnclosed g.extent
    | some '(' =>
      match ← opening with
      | .flags extent changes =>
        setIgnoreSpace ((changes.value? .ignoreSpace).getD (← get).ignoreSpace)
        branches fuel (b.push (.flags extent changes)) groups
      | .group extent changes =>
        let outer := (← get).ignoreSpace
        setIgnoreSpace ((changes.value? .ignoreSpace).getD outer)
        branches fuel (.startingAt (← offset)) (⟨b, extent, changes, outer⟩ :: groups)
    | some ')' =>
      match groups with
      | [] => failAtCharacter .groupUnopened
      | g :: groups =>
        let node := b.close (← offset)
        setIgnoreSpace g.ignoreSpace
        next
        let extent ← since g.extent.start
        branches fuel (g.outer.push (.group extent g.changes node)) groups
    | some '|' =>
      let bar ← offset
      next
      branches fuel (b.another bar) groups
    | some '[' => branches fuel (b.push (← bracketed)) groups
    | some '\x7b' => branches fuel (← countedRepetition b) groups
    | some c =>
      match repetitionOf? c with
      | some (least, most) => branches fuel (← repetition b least most) groups
      | none => branches fuel (b.push (← atom c).node) groups

end Reader

def readTree (pattern : String) : Except Failure Node := do
  let (node, _) ← (Reader.branches (pattern.length + 1) (.startingAt 0) []).run (.ofText pattern)
  node.checkDepth 0
  return node

end WorkflowManifest.Pattern
