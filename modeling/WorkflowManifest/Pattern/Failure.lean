import WorkflowManifest.Text.Split

namespace WorkflowManifest.Pattern

structure Extent where
  start : Nat
  stop : Nat
  deriving DecidableEq

inductive Cause where
  | classUnclosed
  | classEscapeInvalid
  | classRangeInvalid
  | classRangeNotLiteral
  | decimalInvalid
  | hexEmpty
  | hexInvalid
  | hexInvalidDigit
  | escapeUnfinished
  | escapeUnrecognized
  | flagNegationDangling
  | flagDuplicate
  | flagNegationRepeated
  | flagMissing
  | flagUnrecognized
  | groupNameDuplicate
  | groupNameEmpty
  | groupNameInvalid
  | groupNameUnclosed
  | groupUnclosed
  | groupUnopened
  | nestedTooDeep
  | repetitionCountInvalid
  | repetitionCountMissing
  | repetitionCountUnclosed
  | repetitionMissing
  | boundaryUnclosed
  | boundaryUnrecognized
  | boundaryOrRepetitionUnfinished
  | unicodeClassInvalid
  | backreference
  | lookAround
  | unicodeNotAllowed
  | invalidText
  | propertyUnknown
  | propertyValueUnknown
  deriving DecidableEq

def nestingLimit : Nat := 250

def Cause.message : Cause → String
  | .classUnclosed => "unclosed character class"
  | .classEscapeInvalid => "invalid escape sequence found in character class"
  | .classRangeInvalid => "invalid character class range, the start must be <= the end"
  | .classRangeNotLiteral => "invalid range boundary, must be a literal"
  | .decimalInvalid => "decimal literal invalid"
  | .hexEmpty => "hexadecimal literal empty"
  | .hexInvalid => "hexadecimal literal is not a Unicode scalar value"
  | .hexInvalidDigit => "invalid hexadecimal digit"
  | .escapeUnfinished => "incomplete escape sequence, reached end of pattern prematurely"
  | .escapeUnrecognized => "unrecognized escape sequence"
  | .flagNegationDangling => "dangling flag negation operator"
  | .flagDuplicate => "duplicate flag"
  | .flagNegationRepeated => "flag negation operator repeated"
  | .flagMissing => "expected flag but got end of regex"
  | .flagUnrecognized => "unrecognized flag"
  | .groupNameDuplicate => "duplicate capture group name"
  | .groupNameEmpty => "empty capture group name"
  | .groupNameInvalid => "invalid capture group character"
  | .groupNameUnclosed => "unclosed capture group name"
  | .groupUnclosed => "unclosed group"
  | .groupUnopened => "unopened group"
  | .nestedTooDeep =>
    s!"exceed the maximum number of nested parentheses/brackets ({nestingLimit})"
  | .repetitionCountInvalid =>
    "invalid repetition count range, the start must be <= the end"
  | .repetitionCountMissing => "repetition quantifier expects a valid decimal"
  | .repetitionCountUnclosed => "unclosed counted repetition"
  | .repetitionMissing => "repetition operator missing expression"
  | .boundaryUnclosed =>
    "special word boundary assertion is either unclosed or contains an invalid character"
  | .boundaryUnrecognized =>
    "unrecognized special word boundary assertion, valid choices are: " ++
      "start, end, start-half or end-half"
  | .boundaryOrRepetitionUnfinished =>
    "found either the beginning of a special word boundary or a bounded repetition on a " ++
      "\\b with an opening brace, but no closing brace"
  | .unicodeClassInvalid => "invalid Unicode character class"
  | .backreference => "backreferences are not supported"
  | .lookAround => "look-around, including look-ahead and look-behind, is not supported"
  | .unicodeNotAllowed => "Unicode not allowed here"
  | .invalidText => "pattern can match invalid UTF-8"
  | .propertyUnknown => "Unicode property not found"
  | .propertyValueUnknown => "Unicode property value not found"

structure Failure where
  cause : Cause
  extent : Extent
  earlier : Option Extent := none
  deriving DecidableEq

namespace Failure

structure Spot where
  line : Nat
  column : Nat
  deriving DecidableEq

def Spot.next (s : Spot) (c : Char) : Spot :=
  if c = '\n' then ⟨s.line + 1, 1⟩ else ⟨s.line, s.column + 1⟩

def spot (pattern : List Char) (offset : Nat) : Spot :=
  (pattern.take offset).foldl Spot.next ⟨1, 1⟩

def withoutReturn (line : String) : String :=
  match line.toList.reverse with
  | '\r' :: cs => String.ofList cs.reverse
  | _ => line

def lines (text : String) : List String :=
  match (Text.pieces '\n' text).reverse with
  | [] => []
  | last :: ended => (ended.map withoutReturn).reverse ++ (if last = "" then [] else [last])

structure Mark where
  start : Spot
  stop : Spot
  deriving DecidableEq

def mark (pattern : List Char) (e : Extent) : Mark := ⟨spot pattern e.start, spot pattern e.stop⟩

def Mark.isOneLine (m : Mark) : Bool := m.start.line = m.stop.line

def extents (f : Failure) : List Extent :=
  match f.earlier with
  | none => [f.extent]
  | some e =>
    if e.start < f.extent.start || (e.start = f.extent.start && e.stop < f.extent.stop) then
      [e, f.extent]
    else [f.extent, e]

def carets (column : Nat) : List Mark → List Char
  | [] => []
  | m :: ms =>
    let gap := m.start.column - column
    let width := max 1 (m.stop.column - m.start.column)
    List.replicate gap ' ' ++ List.replicate width '^' ++ carets (column + gap + width) ms

def numberWidth (pattern : String) : Nat :=
  let count := (Text.pieces '\n' pattern).length
  if count ≤ 1 then 0 else (toString count).length

def lineStart (width number : Nat) : String :=
  if width = 0 then "    "
  else
    let digits := toString number
    String.ofList (List.replicate (width - digits.length) ' ') ++ digits ++ ": "

def caretLine (width : Nat) (marks : List Mark) : String :=
  if marks.isEmpty then ""
  else
    let indent := if width = 0 then 4 else width + 2
    String.ofList (List.replicate indent ' ' ++ carets 1 marks) ++ "\n"

def notated (width : Nat) (marks : List Mark) : Nat → List String → String
  | _, [] => ""
  | number, line :: lines =>
    lineStart width number ++ line ++ "\n" ++
      caretLine width (marks.filter fun m => m.isOneLine && m.start.line = number) ++
      notated width marks (number + 1) lines

def longNote (m : Mark) : String :=
  s!"on line {m.start.line} (column {m.start.column}) through " ++
    s!"line {m.stop.line} (column {m.stop.column - 1})\n"

def report (pattern : String) (f : Failure) : String :=
  let marks := f.extents.map (mark pattern.toList)
  let shown := notated (numberWidth pattern) marks 1 (lines pattern)
  let ruler := String.ofList (List.replicate 79 '~') ++ "\n"
  let long := marks.filter fun m => !m.isOneLine
  "regex parse error:\n" ++
    (if pattern.contains '\n' then ruler ++ shown ++ ruler ++ String.join (long.map longNote)
    else shown) ++
    "error: " ++ f.cause.message

end Failure

end WorkflowManifest.Pattern
