import WorkflowManifest.Text.Property.Ideographs
import WorkflowManifest.Text.Property.Marks
import WorkflowManifest.Text.Property.Pictures
import WorkflowManifest.Text.Script

namespace WorkflowManifest.Text

inductive WordBreak where
  | carriageReturn
  | lineFeed
  | newline
  | extend
  | joiner
  | regionalIndicator
  | format
  | katakana
  | hebrewLetter
  | letter
  | singleQuote
  | doubleQuote
  | midNumberOrLetter
  | midLetter
  | midNumber
  | numeric
  | extendNumberOrLetter
  | segmentSpace
  deriving DecidableEq, Hashable

namespace WordBreak

def letterLike : CodeSet :=
  .ofLines
    ["2C2-2C5 2D2-2D7 2DE-2DF 2E5-2EB 2ED 2EF-2FF 55A-55C 55E 58A 5F3 70F A708-A716 A720-A721",
     "A789-A78A AB5B"]

def unspacedLetter : CodeSet :=
  .ofLines
    ["E01-E30 E32-E33 E40-E46 E81-E82 E84 E86-E8A E8C-EA3 EA5 EA7-EB0 EB2-EB3 EBD EC0-EC4 EC6",
     "EDC-EDF 1000-102A 103F 1050-1055 105A-105D 1061 1065-1066 106E-1070 1075-1081 108E",
     "1780-17B3 17D7 17DC 1950-196D 1970-1974 1980-19AB 19B0-19C9 1A20-1A54 1AA7 A9E0-A9E4",
     "A9E6-A9EF A9FA-A9FE AA60-AA76 AA7A AA7E-AAAF AAB1 AAB5-AAB6 AAB9-AABD AAC0 AAC2",
     "AADB-AADD 11700-1171A 11740-11746"]

def marksAndModifiers : CodeSet :=
  .graphemeExtend ∪ .categories [.spacingMark] ∪ .emojiModifier

def katakanaLetter : CodeSet :=
  Script.named "kana" ∪ .ofLines ["3031-3035 309B-309C 30A0 30FC FF70"]

def hebrewOtherLetter : CodeSet := Script.named "hebr" ∩ .categories [.otherLetter]

def spacedLetter : CodeSet :=
  (.alphabetic ∪ letterLike) \ (.ideographic ∪ Script.named "hira" ∪ katakanaLetter ∪
    hebrewOtherLetter ∪ unspacedLetter ∪ marksAndModifiers)

def numericSign : CodeSet :=
  .decimalDigit ∪ (.prependedConcatenationMark ∪ .ofLines ["66B 19DA"]) \ .ofLines ["70F"]

def set : WordBreak → CodeSet
  | .carriageReturn => .ofLines ["D"]
  | .lineFeed => .ofLines ["A"]
  | .newline => .ofLines ["B-C 85 2028-2029"]
  | .extend => marksAndModifiers
  | .joiner => .ofLines ["200D"]
  | .regionalIndicator => .regionalIndicator
  | .format =>
    .categories [.format] \ (.prependedConcatenationMark ∪ .graphemeExtend ∪ .ofLines ["200B 200D"])
  | .katakana => katakanaLetter
  | .hebrewLetter => hebrewOtherLetter
  | .letter => spacedLetter
  | .singleQuote => .ofLines ["27"]
  | .doubleQuote => .ofLines ["22"]
  | .midNumberOrLetter => .midNumberOrLetter
  | .midLetter => .midLetter
  | .midNumber =>
    .ofLines ["2C 3B 37E 589 60C-60D 66C 7F8 2044 FE50 FE54 FF0C FF1B"]
  | .numeric => numericSign
  | .extendNumberOrLetter => .ofLines ["5F 202F 203F-2040 2054 FE33-FE34 FE4D-FE4F FF3F"]
  | .segmentSpace => .ofLines ["20 1680 2000-2006 2008-200A 205F 3000"]

def names : List (String × WordBreak) :=
  [("cr", .carriageReturn), ("lf", .lineFeed), ("nl", .newline), ("newline", .newline),
   ("extend", .extend), ("zwj", .joiner), ("ri", .regionalIndicator),
   ("regionalindicator", .regionalIndicator), ("fo", .format), ("format", .format),
   ("ka", .katakana), ("katakana", .katakana), ("hl", .hebrewLetter),
   ("hebrewletter", .hebrewLetter), ("le", .letter), ("aletter", .letter), ("sq", .singleQuote),
   ("singlequote", .singleQuote), ("dq", .doubleQuote), ("doublequote", .doubleQuote),
   ("mb", .midNumberOrLetter), ("midnumlet", .midNumberOrLetter), ("ml", .midLetter),
   ("midletter", .midLetter), ("mn", .midNumber), ("midnum", .midNumber), ("nu", .numeric),
   ("numeric", .numeric), ("ex", .extendNumberOrLetter), ("extendnumlet", .extendNumberOrLetter),
   ("wsegspace", .segmentSpace)]

end WordBreak

end WorkflowManifest.Text
