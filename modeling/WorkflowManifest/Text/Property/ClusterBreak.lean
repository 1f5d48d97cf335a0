import WorkflowManifest.Text.Property.Invisible
import WorkflowManifest.Text.Property.Pictures

namespace WorkflowManifest.Text

inductive ClusterBreak where
  | carriageReturn
  | lineFeed
  | control
  | extend
  | joiner
  | regionalIndicator
  | prepend
  | spacingMark
  | leadingJamo
  | vowelJamo
  | trailingJamo
  | openSyllable
  | closedSyllable
  deriving DecidableEq, Hashable

namespace ClusterBreak

def looseMark : CodeSet :=
  .ofLines
    ["102B-102C 1038 1062-1064 1067-106D 1083 1087-108C 108F 109A-109C 1A61 1A63-1A64 AA7B",
     "AA7D 11720-11721"]

def openSyllables : CodeSet := .listed [⟨0xac00, 0xd788, 28⟩]

def set : ClusterBreak → CodeSet
  | .carriageReturn => .ofLines ["D"]
  | .lineFeed => .ofLines ["A"]
  | .control =>
    (.categories [.lineSeparator, .paragraphSeparator, .control, .format] ∪
      (.categories [.unassigned] ∩ .defaultIgnorable)) \
      (.ofLines ["A D 200D"] ∪ .prependedConcatenationMark ∪ .graphemeExtend)
  | .extend => .graphemeExtend ∪ .emojiModifier
  | .joiner => .ofLines ["200D"]
  | .regionalIndicator => .regionalIndicator
  | .prepend =>
    .prependedConcatenationMark ∪
      .ofLines ["D4E 111C2-111C3 113D1 1193F 11941 11A3A 11A84-11A89 11D46 11F02"]
  | .spacingMark =>
    (.categories [.spacingMark] ∪ .ofLines ["E33 EB3"]) \
      (.graphemeExtend ∪ looseMark)
  | .leadingJamo => .ofLines ["1100-115F A960-A97C"]
  | .vowelJamo => .ofLines ["1160-11A7 D7B0-D7C6 16D63 16D67-16D6A"]
  | .trailingJamo => .ofLines ["11A8-11FF D7CB-D7FB"]
  | .openSyllable => openSyllables
  | .closedSyllable => .ofLines ["AC00-D7A3"] \ openSyllables

def names : List (String × ClusterBreak) :=
  [("cr", .carriageReturn), ("lf", .lineFeed), ("cn", .control), ("control", .control),
   ("ex", .extend), ("extend", .extend), ("zwj", .joiner), ("ri", .regionalIndicator),
   ("regionalindicator", .regionalIndicator), ("pp", .prepend), ("prepend", .prepend),
   ("sm", .spacingMark), ("spacingmark", .spacingMark), ("l", .leadingJamo), ("v", .vowelJamo),
   ("t", .trailingJamo), ("lv", .openSyllable), ("lvt", .closedSyllable)]

end ClusterBreak

end WorkflowManifest.Text
