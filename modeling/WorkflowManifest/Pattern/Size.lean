import WorkflowManifest.Pattern.Expr

/-!
How large patterns may be. Counted parts are weighed as often as they may have to match; what counts
is about how many bytes an automaton takes that reads texts byte by byte and spells out all of them.
-/

namespace WorkflowManifest.Pattern

def stateSize : Nat := 32
def waySize : Nat := 4
def rangeSize : Nat := 8

def sizeLimit : Nat := 10 * 1024 * 1024

namespace CharSet

def edges : CharSet → List Nat
  | .none => []
  | .range low high => [low.toNat, high.toNat + 1]
  | .digit => Text.CodeSet.decimalDigit.edges
  | .word => Text.CodeSet.wordPart.edges
  | .space => Text.CodeSet.whiteSpace.edges
  | .property p => p.set.edges
  | .union a b | .inter a b | .diff a b | .symmDiff a b => a.edges ++ b.edges
  | .compl a => 0 :: a.edges
  | .anyCase a => a.edges ++ Text.foldEdges
  | .anyAsciiCase a =>
    a.edges ++ (List.range 27).flatMap fun n => ['A'.toNat + n, 'a'.toNat + n]

def spansBetween (s : CharSet) : List Nat → List (Nat × Nat)
  | [] => []
  | first :: edges =>
    let stop := edges.head?.getD 0x110000
    let later := spansBetween s edges
    if stop ≤ first || !first.isValidChar || !s.has (Char.ofNat first) then later
    else match later with
      | [] => [(first, stop - 1)]
      | (next, last) :: spans =>
        if next = stop then (first, last) :: spans else (first, stop - 1) :: later

def spans (s : CharSet) : List (Nat × Nat) :=
  spansBetween s (0xd800 :: 0xe000 :: s.edges).mergeSort

end CharSet

abbrev ByteRanges := List (Nat × Nat)

def digitRanges : Nat → Nat → Nat → List ByteRanges
  | 0, low, high => [[(low, high)]]
  | n + 1, low, high =>
    let base := 64 ^ (n + 1)
    let (first, last) := (low / base, high / base)
    let within := fun (digits : List ByteRanges) lead => digits.map ((lead, lead) :: ·)
    if first = last then within (digitRanges n (low % base) (high % base)) first
    else
      let startsWhole := low % base = 0
      let endsWhole := high % base = base - 1
      let (firstWhole, lastWhole) :=
        (if startsWhole then first else first + 1, if endsWhole then last + 1 else last)
      (if startsWhole then [] else within (digitRanges n (low % base) (base - 1)) first) ++
        (if firstWhole < lastWhole then
          [(firstWhole, lastWhole - 1) :: List.replicate (n + 1) (0, 63)] else []) ++
        (if endsWhole then [] else within (digitRanges n 0 (high % base)) last)

def encodings : List (Nat × Nat × Nat × Nat) :=
  [(0, 0, 0, 0x7f), (1, 0xc0, 0x80, 0x7ff), (2, 0xe0, 0x800, 0xffff), (3, 0xf0, 0x10000, 0x10ffff)]

def byteRanges (span : Nat × Nat) : List ByteRanges :=
  encodings.flatMap fun (following, lead, least, greatest) =>
    let (low, high) := (max span.1 least, min span.2 greatest)
    if high < low then []
    else (digitRanges following low high).map fun
      | (first, last) :: digits => (lead + first, lead + last) :: digits
      | [] => []

def ownLength : ByteRanges → ByteRanges → Nat
  | r :: before, s :: row => if r = s then ownLength before row else row.length + 1
  | _, row => row.length

def ownLengths (before : ByteRanges) : List ByteRanges → Nat
  | [] => 0
  | row :: rows => ownLength before row + ownLengths row rows

namespace CharSet

/-- One character takes a state for each byte, and so do rows of ranges of bytes but for what they
share; from a common state there is a way to each row. ASCII characters need no more than a way for
each range. -/
def weight (s : CharSet) : Nat :=
  match s.spans with
  | [] => stateSize
  | [(first, last)] =>
    if first = last then (Char.ofNat first).utf8Size * stateSize else weightOf [(first, last)]
  | spans => weightOf spans
where
  weightOf (spans : List (Nat × Nat)) : Nat :=
    if spans.all (·.2 < 0x80) then 2 * stateSize + rangeSize * spans.length
    else
      let rows := spans.flatMap byteRanges
      (ownLengths [] rows + 2) * stateSize + waySize * rows.length

def roughWeight : CharSet → Nat
  | .none => stateSize
  | .range _ _ => 2 ^ 12
  | .digit | .word | .space => 2 ^ 16
  | .property _ => 2 ^ 17
  | .union a b | .inter a b | .diff a b | .symmDiff a b => a.roughWeight + b.roughWeight
  | .compl a | .anyAsciiCase a => a.roughWeight + 2 ^ 12
  | .anyCase (.range low high) => min (2 ^ 17) (2 ^ 12 + 2 ^ 9 * (high.toNat - low.toNat))
  | .anyCase a => a.roughWeight + 2 ^ 17

end CharSet

namespace Expr

def isAlt : Expr → Bool
  | .alt _ _ => true
  | _ => false

def weight (ofSet : CharSet → Nat) : Expr → Nat
  | .empty | .look _ => stateSize
  | .set s => ofSet s
  | .seq a .empty => a.weight ofSet
  | .seq a b => a.weight ofSet + b.weight ofSet
  | .alt (.set s) (.set t) => ofSet (.union s t)
  | .alt a b =>
    a.weight ofSet + b.weight ofSet + waySize +
      (if b.isAlt then 0 else 2 * stateSize + waySize)
  | .rep a least most =>
    let forkSize := stateSize + 2 * waySize
    if a.isWidthless then a.weight ofSet + forkSize
    else match most with
      | none => max 1 least * a.weight ofSet + forkSize
      | some most =>
        if most = 0 then stateSize
        else if most = least then most * a.weight ofSet
        else most * a.weight ofSet + (most - least) * forkSize + stateSize

def frameSize : Nat := 6 * stateSize + 2 * waySize + rangeSize

def isTooLarge (e : Expr) : Bool :=
  sizeLimit < e.weight CharSet.roughWeight + frameSize &&
    sizeLimit < e.weight CharSet.weight + frameSize

end Expr

end WorkflowManifest.Pattern
