import WorkflowManifest.Yaml.Plain

namespace WorkflowManifest.Yaml

def isBreak (c : Char) : Bool :=
  c = '\n' || c = '\r' || c = '\u0085' || c = '\u2028' || c = '\u2029'

def isPrintable (c : Char) : Bool :=
  c = '\n' || (0x20 ≤ c.toNat && c.toNat ≤ 0x7e) ||
    (0xa0 ≤ c.toNat && c != '\ufeff' && c != '\ufffe' && c != '\uffff')

def isGap (c : Char) : Bool := c = ' ' || c = '\t' || c = '\x00' || isBreak c

def startsGap : List Char → Bool
  | [] => true
  | c :: _ => isGap c

def startMarks : List Char :=
  ['#', ',', '[', ']', '\x7b', '\x7d', '&', '*', '!', '|', '>', '\x27', '"', '%', '@', '\x60']

def hasInnerMark (previous : Char) : List Char → Bool
  | [] => false
  | c :: cs =>
    (c = ':' && startsGap cs) || (c = '#' && isGap previous) || hasInnerMark c cs

def hasMark : List Char → Bool
  | [] => false
  | c :: cs =>
    ['-', '-', '-'].isPrefixOf (c :: cs) || ['.', '.', '.'].isPrefixOf (c :: cs) ||
      startMarks.contains c || ((c = '?' || c = ':' || c = '-') && startsGap cs) ||
      hasInnerMark c cs

def hasPair (p q : Char → Bool) : List Char → Bool
  | c :: d :: cs => (p c && q d) || hasPair p q (d :: cs)
  | _ => false

def isSpace (c : Char) : Bool := c = ' '

def spaceOrBreak (c : Char) : Bool := isSpace c || isBreak c

def hasSpecial (cs : List Char) : Bool := cs.any fun c => !isPrintable c

def isMultiline (cs : List Char) : Bool := cs.any isBreak

def singleAllowed (cs : List Char) : Bool :=
  !hasSpecial cs && !hasPair isSpace isBreak cs && !hasPair isBreak isSpace cs

def plainAllowed (cs : List Char) : Bool :=
  singleAllowed cs && !hasMark cs && !isMultiline cs &&
    !cs.head?.any spaceOrBreak && !cs.getLast?.any spaceOrBreak

def literalAllowed (cs : List Char) : Bool :=
  !hasSpecial cs && !hasPair isSpace isBreak cs && !cs.getLast?.any isSpace

inductive Style where
  | plain
  | single
  | double
  | literal
  deriving DecidableEq

def wanted (cs : List Char) : Style :=
  if cs.contains '\n' then .literal else if looksOther cs then .single else .plain

/-- Plain falls back to single quotes, and what fits no other style to double quotes. -/
def style (cs : List Char) : Style :=
  match wanted cs with
  | .literal => if literalAllowed cs then .literal else .double
  | .plain =>
    if plainAllowed cs then .plain else if singleAllowed cs then .single else .double
  | .single | .double => if singleAllowed cs then .single else .double

def spaces (n : Nat) : List Char := List.replicate n ' '

def lineEnd : List Char := ['\n']

/-- After a break the indentation comes before the next character that is no break. -/
def indentBroken (indent : Nat) (broken : Bool) (c : Char) : List Char :=
  if broken && !isBreak c then spaces indent else []

def singleBody (indent : Nat) (broken : Bool) : List Char → List Char
  | [] => if broken then spaces indent else []
  | c :: cs =>
    indentBroken indent broken c ++ (if c = '\x27' then ['\x27', '\x27'] else [c]) ++
      singleBody indent (isBreak c) cs

def upperHex : Nat → Nat → List Char
  | 0, _ => []
  | width + 1, n => upperHex width (n / 16) ++ [(Text.hexDigit (n % 16)).toUpper]

def escape (c : Char) : List Char :=
  match c with
  | '\x00' => ['\\', '0']
  | '\x07' => ['\\', 'a']
  | '\x08' => ['\\', 'b']
  | '\t' => ['\\', 't']
  | '\n' => ['\\', 'n']
  | '\x0b' => ['\\', 'v']
  | '\x0c' => ['\\', 'f']
  | '\r' => ['\\', 'r']
  | '\x1b' => ['\\', 'e']
  | '"' => ['\\', '"']
  | '\\' => ['\\', '\\']
  | '\u0085' => ['\\', 'N']
  | '\u2028' => ['\\', 'L']
  | '\u2029' => ['\\', 'P']
  | c =>
    if isPrintable c then [c]
    else if c.toNat ≤ 0xff then '\\' :: 'x' :: upperHex 2 c.toNat
    else if c.toNat ≤ 0xffff then '\\' :: 'u' :: upperHex 4 c.toNat
    else '\\' :: 'U' :: upperHex 8 c.toNat

def literalBody (indent : Nat) (broken : Bool) : List Char → List Char
  | [] => []
  | c :: cs => indentBroken indent broken c ++ c :: literalBody indent (isBreak c) cs

def indentHint (cs : List Char) : List Char := if cs.head?.any spaceOrBreak then ['2'] else []

def chompHint (cs : List Char) : List Char :=
  match cs.reverse with
  | [] => ['-']
  | c :: rest =>
    if !isBreak c then ['-']
    else match rest with
      | [] => ['+']
      | b :: _ => if isBreak b then ['+'] else []

def scalarChars (indent : Nat) (cs : List Char) : List Char :=
  match style cs with
  | .plain => cs
  | .single => '\x27' :: singleBody indent false cs ++ ['\x27']
  | .double => '"' :: cs.flatMap escape ++ ['"']
  | .literal => '|' :: indentHint cs ++ chompHint cs ++ '\n' :: literalBody indent true cs

def endsLine (cs : List Char) : Bool := style cs = .literal && cs.getLast?.any isBreak

def scalarLines (indent : Nat) (s : String) : List Char :=
  scalarChars indent s.toList ++ if endsLine s.toList then [] else lineEnd

end WorkflowManifest.Yaml
