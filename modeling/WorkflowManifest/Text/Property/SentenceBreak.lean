import WorkflowManifest.Text.Property.Signs
import WorkflowManifest.Text.Property.WordBreak

namespace WorkflowManifest.Text

inductive SentenceBreak where
  | carriageReturn
  | lineFeed
  | separator
  | extend
  | format
  | space
  | lower
  | upper
  | otherLetter
  | numeric
  | fullStop
  | continuation
  | terminal
  | close
  deriving DecidableEq, Hashable

namespace SentenceBreak

def fullStops : CodeSet := .ofLines ["2E 2024 FE52 FF0E"]

def attached : CodeSet := .graphemeExtend ∪ .categories [.spacingMark] ∪ .ofLines ["200D"]

def smallLetter : CodeSet := .lowercase \ (attached ∪ .ofLines ["10D0-10FA 10FD-10FF"])

def capitalLetter : CodeSet :=
  (.uppercase ∪ .categories [.titlecaseLetter]) \ .ofLines ["1C90-1CBA 1CBD-1CBF"]

def set : SentenceBreak → CodeSet
  | .carriageReturn => .ofLines ["D"]
  | .lineFeed => .ofLines ["A"]
  | .separator => .ofLines ["85 2028-2029"]
  | .extend => attached
  | .format =>
    .categories [.format] \ (attached ∪ (.prependedConcatenationMark \ .ofLines ["70F"]))
  | .space => .whiteSpace \ .ofLines ["A D 85 2028-2029"]
  | .lower => smallLetter
  | .upper => capitalLetter
  | .otherLetter =>
    (.alphabetic ∪ .ofLines ["5F3"]) \ (smallLetter ∪ capitalLetter ∪ attached)
  | .numeric => WordBreak.numericSign ∪ .ofLines ["66C"]
  | .fullStop => fullStops
  | .continuation =>
    .ofLines
      ["2C-2D 3A-3B 37E 55D 60C-60D 7F8 1802 1808 2013-2014 3001 FE10-FE11 FE13-FE14 FE31-FE32",
       "FE50-FE51 FE54-FE55 FE58 FE63 FF0C-FF0D FF1A-FF1B FF64"]
  | .terminal => .sentenceTerminal \ fullStops
  | .close =>
    (.categories [.openPunctuation, .closePunctuation, .initialPunctuation, .finalPunctuation] ∪
      .quotationMark ∪ .ofLines ["275B-2760 2E00-2E01 2E06-2E08 2E0B 1F676-1F678"]) \
      .ofLines ["FF02 FF07"]

def names : List (String × SentenceBreak) :=
  [("cr", .carriageReturn), ("lf", .lineFeed), ("se", .separator), ("sep", .separator),
   ("ex", .extend), ("extend", .extend), ("fo", .format), ("format", .format), ("sp", .space),
   ("lo", .lower), ("lower", .lower), ("up", .upper), ("upper", .upper), ("le", .otherLetter),
   ("oletter", .otherLetter), ("nu", .numeric), ("numeric", .numeric), ("at", .fullStop),
   ("aterm", .fullStop), ("sc", .continuation), ("scontinue", .continuation), ("st", .terminal),
   ("sterm", .terminal), ("cl", .close), ("close", .close)]

end SentenceBreak

end WorkflowManifest.Text
