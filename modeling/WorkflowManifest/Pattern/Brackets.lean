import WorkflowManifest.Pattern.Escape

namespace WorkflowManifest.Pattern

structure Gathered where
  extent : Extent
  items : List ClassItem := []

namespace Gathered

def push (g : Gathered) (item : ClassItem) : Gathered where
  extent := ⟨if g.items.isEmpty then item.extent.start else g.extent.start, item.extent.stop⟩
  items := item :: g.items

def set (g : Gathered) : ClassSet := .union g.extent g.items.reverse

end Gathered

structure OpenClass where
  outer : Gathered
  extent : Extent
  negated : Bool

inductive ClassFrame where
  | opened (c : OpenClass)
  | operation (kind : SetOperation) (left : ClassSet)

def finishOperation (right : ClassSet) : List ClassFrame → ClassSet × List ClassFrame
  | .operation kind left :: frames =>
    (.operation ⟨left.extent.start, right.extent.stop⟩ kind left right, frames)
  | frames => (right, frames)

def innermost? : List ClassFrame → Option OpenClass
  | [] => none
  | .opened c :: _ => some c
  | .operation _ _ :: frames => innermost? frames

def setOperation? (first : Char) (second : Option Char) : Option SetOperation :=
  if second ≠ some first then none
  else match first with
    | '&' => some .intersection
    | '-' => some .difference
    | '~' => some .symmetricDifference
    | _ => none

def namedClass? : List Char → Option (Bool × NamedClass × Nat)
  | '[' :: ':' :: cs =>
    let negated := cs.head? = some '^'
    let rest := if negated then cs.tail else cs
    let name := rest.takeWhile (· ≠ ':')
    if [':', ']'].isPrefixOf (rest.dropWhile (· ≠ ':')) then
      (NamedClass.ofName? (String.ofList name)).map fun kind =>
        (negated, kind, name.length + (if negated then 5 else 4))
    else none
  | _ => none

def Atom.classItem : Atom → Except Failure ClassItem
  | .literal l => .ok (.literal l)
  | .plain c => .ok (.plain c)
  | a => .error { cause := .classEscapeInvalid, extent := a.extent }

def Atom.rangeEnd : Atom → Except Failure Literal
  | .literal l => .ok l
  | a => .error { cause := .classRangeNotLiteral, extent := a.extent }

namespace Reader

def skip : Nat → Reader Unit
  | 0 => return ()
  | n + 1 => do
    next
    skip n

def hyphens (start : Nat) (g : Gathered) : Nat → Reader Gathered
  | 0 => return g
  | fuel + 1 => do
    if (← current?) = some '-' then
      let o ← offset
      nextSolid
      if (← current?).isNone then fail .classUnclosed ⟨start, start⟩
      else hyphens start (g.push (.literal { extent := ⟨o, o + 1⟩, char := '-' })) fuel
    else return g

def leadingBracket (start : Nat) (g : Gathered) : Reader Gathered := do
  if g.items.isEmpty && (← current?) = some ']' then
    let o ← offset
    nextSolid
    if (← current?).isNone then failSince .classUnclosed start
    else return g.push (.literal { extent := ⟨o, o + 1⟩, char := ']' })
  else return g

def openClass (outer : Gathered) : Reader (OpenClass × Gathered) := do
  let start ← offset
  nextSolid
  let negated := (← current?) = some '^'
  if negated then nextSolid
  if (← current?).isNone then failSince .classUnclosed start
  else
    let here ← offset
    let g ← hyphens start { extent := ⟨here, here⟩ } (← fuel)
    let g ← leadingBracket start g
    return (⟨outer, ← since start, negated⟩, g)

def failUnclosed (frames : List ClassFrame) : Reader α :=
  match innermost? frames with
  | some c => fail .classUnclosed c.extent
  | none => failHere .classUnclosed

def classAtom (c : Char) : Reader Atom := do
  if c = '\\' then escape else return .literal (← verbatim c)

def classRange (frames : List ClassFrame) (c : Char) : Reader ClassItem := do
  let low ← classAtom c
  passSpace
  let k ← get
  match k.rest.head? with
  | none => failUnclosed frames
  | some sign =>
    if sign ≠ '-' || k.secondSolid? = some ']' || k.secondSolid? = some '-' then
      low.classItem
    else
      nextSolid
      match ← current? with
      | none => failUnclosed frames
      | some d =>
        let high ← classAtom d
        let extent : Extent := ⟨low.extent.start, high.extent.stop⟩
        let first ← low.rangeEnd
        let last ← high.rangeEnd
        if first.char ≤ last.char then return .range extent first last
        else fail .classRangeInvalid extent

def classFrom : Nat → Gathered → List ClassFrame → Reader Node
  | 0, _, frames => failUnclosed frames
  | fuel + 1, g, frames => do
    passSpace
    let k ← get
    match k.rest.head? with
    | none => failUnclosed frames
    | some '[' =>
      match namedClass? k.rest with
      | some (negated, kind, length) =>
        skip length
        classFrom fuel (g.push (.named (← since k.offset) negated kind)) frames
      | none =>
        let (c, inner) ← openClass g
        classFrom fuel inner (.opened c :: frames)
    | some ']' =>
      let (set, frames) := finishOperation g.set frames
      match frames with
      | .opened c :: outer =>
        next
        let extent ← since c.extent.start
        if outer.isEmpty then return .bracketed extent c.negated set
        else classFrom fuel (c.outer.push (.bracketed extent c.negated set)) outer
      | _ => failUnclosed frames
    | some c =>
      match setOperation? c k.second? with
      | some kind =>
        skip 2
        let (left, frames) := finishOperation g.set frames
        let here ← offset
        classFrom fuel { extent := ⟨here, here⟩ } (.operation kind left :: frames)
      | none => classFrom fuel (g.push (← classRange frames c)) frames

def bracketed : Reader Node := do
  let here ← offset
  let (c, g) ← openClass { extent := ⟨here, here⟩ }
  classFrom (← fuel) g [.opened c]

end Reader

end WorkflowManifest.Pattern
