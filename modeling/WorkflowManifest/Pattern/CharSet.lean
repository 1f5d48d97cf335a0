import WorkflowManifest.Pattern.Property
import WorkflowManifest.Text.CaseFold

namespace WorkflowManifest.Pattern

inductive CharSet where
  | none
  | range (low high : Char)
  | digit
  | word
  | space
  | property (p : Property)
  | union (a b : CharSet)
  | inter (a b : CharSet)
  | diff (a b : CharSet)
  | symmDiff (a b : CharSet)
  | compl (a : CharSet)
  | anyCase (a : CharSet)
  | anyAsciiCase (a : CharSet)
  deriving DecidableEq, Hashable

namespace CharSet

def otherCase (c : Char) : Char := if c.isUpper then c.toLower else c.toUpper

def has : CharSet → Char → Bool
  | .none, _ => false
  | .range low high, c => low ≤ c && c ≤ high
  | .digit, c => Text.CodeSet.decimalDigit.has c
  | .word, c => Text.CodeSet.wordPart.has c
  | .space, c => Text.CodeSet.whiteSpace.has c
  | .property p, c => p.set.has c
  | .union a b, c => a.has c || b.has c
  | .inter a b, c => a.has c && b.has c
  | .diff a b, c => a.has c && !b.has c
  | .symmDiff a b, c => a.has c != b.has c
  | .compl a, c => !a.has c
  | .anyCase a, c => (Text.sameLetters c).any a.has
  | .anyAsciiCase a, c => a.has c || a.has (otherCase c)

def char (c : Char) : CharSet := .range c c

def any : CharSet := .range (Char.ofNat 0) (Char.ofNat 0x10ffff)

def ranges : List (Char × Char) → CharSet
  | [] => .none
  | (low, high) :: rs => .union (.range low high) (ranges rs)

def named : NamedClass → CharSet
  | .alnum => ranges [('0', '9'), ('A', 'Z'), ('a', 'z')]
  | .alpha => ranges [('A', 'Z'), ('a', 'z')]
  | .ascii => .range '\x00' '\x7f'
  | .blank => ranges [('\t', '\t'), (' ', ' ')]
  | .cntrl => ranges [('\x00', '\x1f'), ('\x7f', '\x7f')]
  | .digit => .range '0' '9'
  | .graph => .range '!' '~'
  | .lower => .range 'a' 'z'
  | .print => .range ' ' '~'
  | .punct => ranges [('!', '/'), (':', '@'), ('[', '\x60'), ('\x7b', '~')]
  | .space => ranges [('\t', '\r'), (' ', ' ')]
  | .upper => .range 'A' 'Z'
  | .word => ranges [('0', '9'), ('A', 'Z'), ('_', '_'), ('a', 'z')]
  | .xdigit => ranges [('0', '9'), ('A', 'F'), ('a', 'f')]

def ofOperation : SetOperation → CharSet → CharSet → CharSet
  | .intersection => .inter
  | .difference => .diff
  | .symmetricDifference => .symmDiff

end CharSet

end WorkflowManifest.Pattern
