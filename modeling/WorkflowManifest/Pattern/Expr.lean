import Std.Data.HashSet.Basic
import WorkflowManifest.Pattern.CharSet

/-!
What patterns mean: expressions, and whether one matches somewhere in a text. A text is read once
from left to right with the set of expressions that the rest may begin with.
-/

namespace WorkflowManifest.Pattern

structure Gap where
  before : Option Char
  after : Option Char
  deriving DecidableEq

instance : Hashable Gap where
  hash g := hash (g.before.map Char.toNat, g.after.map Char.toNat)

inductive Look where
  | textStart
  | textEnd
  | lineStart
  | lineEnd
  | anyLineStart
  | anyLineEnd
  | boundary (parts : CharSet)
  | noBoundary (parts : CharSet)
  | wordStart (parts : CharSet)
  | wordEnd (parts : CharSet)
  | wordStartHalf (parts : CharSet)
  | wordEndHalf (parts : CharSet)
  deriving DecidableEq, Hashable

/-- Any line may end in a line feed, a carriage return or both, and there is no gap between both. -/
def Look.holds (g : Gap) : Look → Bool
  | .textStart => g.before.isNone
  | .textEnd => g.after.isNone
  | .lineStart => g.before.all (· = '\n')
  | .lineEnd => g.after.all (· = '\n')
  | .anyLineStart =>
    g.before.all (· = '\n') || (g.before = some '\r' && g.after ≠ some '\n')
  | .anyLineEnd =>
    g.after.all (· = '\r') || (g.after = some '\n' && g.before ≠ some '\r')
  | .boundary parts => g.before.any parts.has != g.after.any parts.has
  | .noBoundary parts => g.before.any parts.has == g.after.any parts.has
  | .wordStart parts => !g.before.any parts.has && g.after.any parts.has
  | .wordEnd parts => g.before.any parts.has && !g.after.any parts.has
  | .wordStartHalf parts => !g.before.any parts.has
  | .wordEndHalf parts => !g.after.any parts.has

inductive Expr where
  | empty
  | set (s : CharSet)
  | look (l : Look)
  | seq (a b : Expr)
  | alt (a b : Expr)
  | rep (a : Expr) (least : Nat) (most : Option Nat)
  deriving DecidableEq, Hashable

namespace Expr

def never : Expr := .set .none

def nullable (g : Gap) : Expr → Bool
  | .empty => true
  | .set _ => false
  | .look l => l.holds g
  | .seq a b => a.nullable g && b.nullable g
  | .alt a b => a.nullable g || b.nullable g
  | .rep a least _ => least = 0 || a.nullable g

def andThen (b : Expr) : Expr → Expr
  | .empty => b
  | a => .seq a b

/-- What may be left to match after a character, which comes after the gap. Where the repeated part
also matches without a character it may be left out as often as is still due. -/
def residuals (before : Option Char) (c : Char) : Expr → List Expr
  | .empty => []
  | .set s => if s.has c then [.empty] else []
  | .look _ => []
  | .seq a b =>
    (a.residuals before c).map (andThen b) ++
      (if a.nullable ⟨before, some c⟩ then b.residuals before c else [])
  | .alt a b => a.residuals before c ++ b.residuals before c
  | .rep a least most =>
    if most = some 0 then []
    else
      let due := if a.nullable ⟨before, some c⟩ then 0 else least - 1
      (a.residuals before c).map (andThen (.rep a due (most.map (· - 1))))

def distinct (es : List Expr) : List Expr := (Std.HashSet.ofList es).toList

def occursFrom (e : Expr) (before : Option Char) (opened : List Expr) : List Char → Bool
  | [] => (e :: opened).any (·.nullable ⟨before, none⟩)
  | c :: cs =>
    let here := distinct (e :: opened)
    here.any (·.nullable ⟨before, some c⟩) ||
      occursFrom e (some c) (here.flatMap (·.residuals before c)) cs

def occursIn (e : Expr) (text : String) : Bool := occursFrom e none [] text.toList

def isWidthless : Expr → Bool
  | .empty | .look _ => true
  | .set _ => false
  | .seq a b | .alt a b => a.isWidthless && b.isWidthless
  | .rep a _ most => a.isWidthless || most = some 0

end Expr

end WorkflowManifest.Pattern
