import WorkflowManifest.Pattern.Failure

namespace WorkflowManifest.Pattern

inductive Flag where
  | ignoreCase
  | multiLine
  | dotMatchesLineFeed
  | swapGreed
  | unicode
  | carriageReturns
  | ignoreSpace
  deriving DecidableEq

abbrev FlagChanges := List (Flag × Bool)

structure Literal where
  extent : Extent
  char : Char
  byte : Bool := false
  deriving DecidableEq

inductive Assertion where
  | lineStart
  | lineEnd
  | textStart
  | textEnd
  | wordBoundary
  | notWordBoundary
  | wordStart
  | wordEnd
  | wordStartHalf
  | wordEndHalf
  deriving DecidableEq

inductive LetterClass where
  | digit
  | space
  | word
  deriving DecidableEq

inductive NamedClass where
  | alnum
  | alpha
  | ascii
  | blank
  | cntrl
  | digit
  | graph
  | lower
  | print
  | punct
  | space
  | upper
  | word
  | xdigit
  deriving DecidableEq

def NamedClass.name : NamedClass → String
  | .alnum => "alnum"
  | .alpha => "alpha"
  | .ascii => "ascii"
  | .blank => "blank"
  | .cntrl => "cntrl"
  | .digit => "digit"
  | .graph => "graph"
  | .lower => "lower"
  | .print => "print"
  | .punct => "punct"
  | .space => "space"
  | .upper => "upper"
  | .word => "word"
  | .xdigit => "xdigit"

def NamedClass.all : List NamedClass :=
  [.alnum, .alpha, .ascii, .blank, .cntrl, .digit, .graph, .lower, .print, .punct, .space, .upper,
   .word, .xdigit]

def NamedClass.ofName? (name : String) : Option NamedClass :=
  NamedClass.all.find? fun c => c.name = name

inductive PropertyQuery where
  | named (name : String)
  | valued (property value : String)
  deriving DecidableEq

inductive SetOperation where
  | intersection
  | difference
  | symmetricDifference
  deriving DecidableEq

inductive PlainClass where
  | letter (extent : Extent) (negated : Bool) (kind : LetterClass)
  | property (extent : Extent) (negated : Bool) (query : PropertyQuery)
  deriving DecidableEq

def PlainClass.extent : PlainClass → Extent
  | .letter e _ _ => e
  | .property e _ _ => e

mutual

inductive ClassItem where
  | literal (l : Literal)
  | range (extent : Extent) (low high : Literal)
  | named (extent : Extent) (negated : Bool) (kind : NamedClass)
  | plain (c : PlainClass)
  | bracketed (extent : Extent) (negated : Bool) (set : ClassSet)

inductive ClassSet where
  | union (extent : Extent) (items : List ClassItem)
  | operation (extent : Extent) (kind : SetOperation) (left right : ClassSet)

end

def ClassItem.extent : ClassItem → Extent
  | .literal l => l.extent
  | .range e _ _ => e
  | .named e _ _ => e
  | .plain c => c.extent
  | .bracketed e _ _ => e

def ClassSet.extent : ClassSet → Extent
  | .union _ [item] => item.extent
  | .union e _ => e
  | .operation e _ _ _ => e

inductive Node where
  | empty (extent : Extent)
  | flags (extent : Extent) (changes : FlagChanges)
  | literal (l : Literal)
  | dot (extent : Extent)
  | assertion (extent : Extent) (kind : Assertion)
  | plain (c : PlainClass)
  | bracketed (extent : Extent) (negated : Bool) (set : ClassSet)
  | repetition (extent : Extent) (node : Node) (least : Nat) (most : Option Nat)
  | group (extent : Extent) (changes : FlagChanges) (node : Node)
  | alternation (extent : Extent) (nodes : List Node)
  | sequence (extent : Extent) (nodes : List Node)

namespace Node

def extent : Node → Extent
  | .empty e => e
  | .flags e _ => e
  | .literal l => l.extent
  | .dot e => e
  | .assertion e _ => e
  | .plain c => c.extent
  | .bracketed e _ _ => e
  | .repetition e _ _ _ => e
  | .group e _ _ => e
  | .alternation e _ => e
  | .sequence e _ => e

def ofSequence (e : Extent) : List Node → Node
  | [] => .empty e
  | [node] => node
  | nodes => .sequence e nodes

def isRepeatable : Node → Bool
  | .empty _ | .flags _ _ => false
  | _ => true

end Node

def descend (depth : Nat) (e : Extent) : Except Failure Nat :=
  if depth < nestingLimit then .ok (depth + 1) else .error { cause := .nestedTooDeep, extent := e }

mutual

def ClassItem.checkDepth (depth : Nat) : ClassItem → Except Failure Unit
  | .bracketed e _ set => do set.checkDepth (← descend depth e)
  | _ => .ok ()

def ClassSet.checkDepth (depth : Nat) : ClassSet → Except Failure Unit
  | .union _ [] => .ok ()
  | .union _ [item] => item.checkDepth depth
  | .union e (item :: next :: items) => do
    let deeper ← descend depth e
    item.checkDepth deeper
    next.checkDepth deeper
    checkItems deeper items
  | .operation e _ left right => do
    let deeper ← descend depth e
    left.checkDepth deeper
    right.checkDepth deeper

def checkItems (depth : Nat) : List ClassItem → Except Failure Unit
  | [] => .ok ()
  | item :: items => do
    item.checkDepth depth
    checkItems depth items

end

mutual

def Node.checkDepth (depth : Nat) : Node → Except Failure Unit
  | .bracketed e _ set => do set.checkDepth (← descend depth e)
  | .repetition e node _ _ => do node.checkDepth (← descend depth e)
  | .group e _ node => do node.checkDepth (← descend depth e)
  | .alternation e nodes => do checkNodes (← descend depth e) nodes
  | .sequence e nodes => do checkNodes (← descend depth e) nodes
  | _ => .ok ()

def checkNodes (depth : Nat) : List Node → Except Failure Unit
  | [] => .ok ()
  | node :: nodes => do
    node.checkDepth depth
    checkNodes depth nodes

end

end WorkflowManifest.Pattern
