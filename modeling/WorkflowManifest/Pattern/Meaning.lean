import WorkflowManifest.Pattern.Expr

namespace WorkflowManifest.Pattern

structure Mode where
  ignoreCase : Bool := false
  multiLine : Bool := false
  dotMatchesLineFeed : Bool := false
  unicode : Bool := true
  carriageReturns : Bool := false
  deriving DecidableEq

namespace Mode

def set (m : Mode) : Flag × Bool → Mode
  | (.ignoreCase, b) => { m with ignoreCase := b }
  | (.multiLine, b) => { m with multiLine := b }
  | (.dotMatchesLineFeed, b) => { m with dotMatchesLineFeed := b }
  | (.unicode, b) => { m with unicode := b }
  | (.carriageReturns, b) => { m with carriageReturns := b }
  | (.swapGreed, _) | (.ignoreSpace, _) => m

def change (m : Mode) (changes : FlagChanges) : Mode := changes.foldl set m

def word (m : Mode) : CharSet := if m.unicode then .word else .named .word

def fold (m : Mode) (s : CharSet) : CharSet :=
  if !m.ignoreCase then s else if m.unicode then .anyCase s else .anyAsciiCase s

def foldAndNegate (m : Mode) (e : Extent) (negated : Bool) (s : CharSet) :
    Except Failure CharSet :=
  if !negated then .ok (m.fold s)
  else if m.unicode then .ok (.compl (m.fold s))
  else .error { cause := .invalidText, extent := e }

def literal (m : Mode) (l : Literal) : Except Failure Char :=
  if !m.unicode && l.byte && 0x80 ≤ l.char.toNat then
    .error { cause := .invalidText, extent := l.extent }
  else .ok l.char

def classLiteral (m : Mode) (l : Literal) : Except Failure Char := do
  let c ← m.literal l
  if !m.unicode && 0x80 ≤ c.toNat then
    .error { cause := .unicodeNotAllowed, extent := l.extent }
  else .ok c

def letterClass (m : Mode) : LetterClass → CharSet
  | .digit => if m.unicode then .digit else .named .digit
  | .space => if m.unicode then .space else .named .space
  | .word => m.word

def plainClass (m : Mode) : PlainClass → Except Failure CharSet
  | .letter e negated kind =>
    if !negated then .ok (m.letterClass kind)
    else if m.unicode then .ok (.compl (m.letterClass kind))
    else .error { cause := .invalidText, extent := e }
  | .property e negated query =>
    if m.unicode then
      match Property.ofQuery query with
      | .ok p => m.foldAndNegate e negated (.property p)
      | .error cause => .error { cause, extent := e }
    else .error { cause := .unicodeNotAllowed, extent := e }

def look (m : Mode) : Assertion → Look
  | .lineStart =>
    if !m.multiLine then .textStart else if m.carriageReturns then .anyLineStart else .lineStart
  | .lineEnd =>
    if !m.multiLine then .textEnd else if m.carriageReturns then .anyLineEnd else .lineEnd
  | .textStart => .textStart
  | .textEnd => .textEnd
  | .wordBoundary => .boundary m.word
  | .notWordBoundary => .noBoundary m.word
  | .wordStart => .wordStart m.word
  | .wordEnd => .wordEnd m.word
  | .wordStartHalf => .wordStartHalf m.word
  | .wordEndHalf => .wordEndHalf m.word

def dot (m : Mode) (e : Extent) : Except Failure CharSet :=
  if !m.unicode then .error { cause := .invalidText, extent := e }
  else if m.dotMatchesLineFeed then .ok .any
  else if m.carriageReturns then .ok (.compl (.union (.char '\n') (.char '\r')))
  else .ok (.compl (.char '\n'))

end Mode

mutual

def ClassItem.meaning (m : Mode) : ClassItem → Except Failure CharSet
  | .literal l => do return .char (← m.classLiteral l)
  | .range _ low high => do return .range (← m.classLiteral low) (← m.classLiteral high)
  | .named e negated kind => m.foldAndNegate e negated (.named kind)
  | .plain c => m.plainClass c
  | .bracketed e negated set => do m.foldAndNegate e negated (← set.meaning m)

def ClassSet.meaning (m : Mode) : ClassSet → Except Failure CharSet
  | .union _ items => unionMeaning m items
  | .operation _ kind left right => do
    let a ← left.meaning m
    let b ← right.meaning m
    return .ofOperation kind (m.fold a) (m.fold b)

def unionMeaning (m : Mode) : List ClassItem → Except Failure CharSet
  | [] => .ok .none
  | item :: items => do
    let a ← item.meaning m
    let b ← unionMeaning m items
    return .union a b

end

mutual

def Node.meaning (m : Mode) : Node → Except Failure (Expr × Mode)
  | .empty _ => .ok (.empty, m)
  | .flags _ changes => .ok (.empty, m.change changes)
  | .literal l => do return (.set (m.fold (.char (← m.literal l))), m)
  | .dot e => do return (.set (← m.dot e), m)
  | .assertion _ kind => .ok (.look (m.look kind), m)
  | .plain c => do return (.set (← m.plainClass c), m)
  | .bracketed e negated set => do
    return (.set (← m.foldAndNegate e negated (← set.meaning m)), m)
  | .repetition _ node least most => do
    let (a, m) ← node.meaning m
    return (.rep a least most, m)
  | .group _ changes node => do
    let (a, _) ← node.meaning (m.change changes)
    return (a, m)
  | .alternation _ nodes => alternationMeaning m nodes
  | .sequence _ nodes => sequenceMeaning m nodes

def alternationMeaning (m : Mode) : List Node → Except Failure (Expr × Mode)
  | [] => .ok (.never, m)
  | [node] => node.meaning m
  | node :: nodes => do
    let (a, m) ← node.meaning m
    let (b, m) ← alternationMeaning m nodes
    return (.alt a b, m)

def sequenceMeaning (m : Mode) : List Node → Except Failure (Expr × Mode)
  | [] => .ok (.empty, m)
  | node :: nodes => do
    let (a, m) ← node.meaning m
    let (b, m) ← sequenceMeaning m nodes
    return (.seq a b, m)

end

end WorkflowManifest.Pattern
