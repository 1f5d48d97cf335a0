import WorkflowManifest.Text.Property.Identifiers
import WorkflowManifest.Text.Property.Ideographs
import WorkflowManifest.Text.Property.Invisible
import WorkflowManifest.Text.Property.Pictures
import WorkflowManifest.Text.Property.Signs

namespace WorkflowManifest.Text

inductive BinaryProperty where
  | alphabetic
  | asciiHexDigit
  | bidiControl
  | bidiMirrored
  | caseIgnorable
  | cased
  | changesWhenCasefolded
  | changesWhenCasemapped
  | changesWhenLowercased
  | changesWhenTitlecased
  | changesWhenUppercased
  | dash
  | defaultIgnorable
  | deprecated
  | diacritic
  | emoji
  | emojiComponent
  | emojiModifier
  | emojiModifierBase
  | emojiPresentation
  | extendedPictographic
  | extender
  | graphemeBase
  | graphemeExtend
  | graphemeLink
  | hexDigit
  | hyphen
  | idsBinaryOperator
  | idsTrinaryOperator
  | idsUnaryOperator
  | idCompatMathContinue
  | idCompatMathStart
  | idContinue
  | idStart
  | ideographic
  | joinControl
  | logicalOrderException
  | lowercase
  | math
  | modifierCombiningMark
  | noncharacter
  | otherAlphabetic
  | otherDefaultIgnorable
  | otherGraphemeExtend
  | otherIdContinue
  | otherIdStart
  | otherLowercase
  | otherMath
  | otherUppercase
  | patternSyntax
  | patternWhiteSpace
  | prependedConcatenationMark
  | quotationMark
  | radical
  | regionalIndicator
  | sentenceTerminal
  | softDotted
  | terminalPunctuation
  | unifiedIdeograph
  | uppercase
  | variationSelector
  | whiteSpace
  | stableIdContinue
  | stableIdStart
  deriving DecidableEq, Hashable

namespace BinaryProperty

def set : BinaryProperty → CodeSet
  | .alphabetic => .alphabetic
  | .asciiHexDigit => .asciiHexDigit
  | .bidiControl => .bidiControl
  | .bidiMirrored => .bidiMirrored
  | .caseIgnorable => .caseIgnorable
  | .cased => .cased
  | .changesWhenCasefolded => .changesWhenCasefolded
  | .changesWhenCasemapped => .changesWhenCasemapped
  | .changesWhenLowercased => .changesWhenLowercased
  | .changesWhenTitlecased => .changesWhenTitlecased
  | .changesWhenUppercased => .changesWhenUppercased
  | .dash => .dash
  | .defaultIgnorable => .defaultIgnorable
  | .deprecated => .deprecated
  | .diacritic => .diacritic
  | .emoji => .emoji
  | .emojiComponent => .emojiComponent
  | .emojiModifier => .emojiModifier
  | .emojiModifierBase => .emojiModifierBase
  | .emojiPresentation => .emojiPresentation
  | .extendedPictographic => .extendedPictographic
  | .extender => .extender
  | .graphemeBase => .graphemeBase
  | .graphemeExtend => .graphemeExtend
  | .graphemeLink => .graphemeLink
  | .hexDigit => .hexDigit
  | .hyphen => .hyphen
  | .idsBinaryOperator => .idsBinaryOperator
  | .idsTrinaryOperator => .idsTrinaryOperator
  | .idsUnaryOperator => .idsUnaryOperator
  | .idCompatMathContinue => .idCompatMathContinue
  | .idCompatMathStart => .idCompatMathStart
  | .idContinue => .idContinue
  | .idStart => .idStart
  | .ideographic => .ideographic
  | .joinControl => .joinControl
  | .logicalOrderException => .logicalOrderException
  | .lowercase => .lowercase
  | .math => .math
  | .modifierCombiningMark => .modifierCombiningMark
  | .noncharacter => .noncharacter
  | .otherAlphabetic => .otherAlphabetic
  | .otherDefaultIgnorable => .otherDefaultIgnorable
  | .otherGraphemeExtend => .otherGraphemeExtend
  | .otherIdContinue => .otherIdContinue
  | .otherIdStart => .otherIdStart
  | .otherLowercase => .otherLowercase
  | .otherMath => .otherMath
  | .otherUppercase => .otherUppercase
  | .patternSyntax => .patternSyntax
  | .patternWhiteSpace => .patternWhiteSpace
  | .prependedConcatenationMark => .prependedConcatenationMark
  | .quotationMark => .quotationMark
  | .radical => .radical
  | .regionalIndicator => .regionalIndicator
  | .sentenceTerminal => .sentenceTerminal
  | .softDotted => .softDotted
  | .terminalPunctuation => .terminalPunctuation
  | .unifiedIdeograph => .unifiedIdeograph
  | .uppercase => .uppercase
  | .variationSelector => .variationSelector
  | .whiteSpace => .whiteSpace
  | .stableIdContinue => .stableIdContinue
  | .stableIdStart => .stableIdStart

def names : BinaryProperty → List String
  | .alphabetic => ["alpha", "alphabetic"]
  | .asciiHexDigit => ["ahex", "asciihexdigit"]
  | .bidiControl => ["bidic", "bidicontrol"]
  | .bidiMirrored => ["bidim", "bidimirrored"]
  | .caseIgnorable => ["ci", "caseignorable"]
  | .cased => ["cased"]
  | .changesWhenCasefolded => ["cwcf", "changeswhencasefolded"]
  | .changesWhenCasemapped => ["cwcm", "changeswhencasemapped"]
  | .changesWhenLowercased => ["cwl", "changeswhenlowercased"]
  | .changesWhenTitlecased => ["cwt", "changeswhentitlecased"]
  | .changesWhenUppercased => ["cwu", "changeswhenuppercased"]
  | .dash => ["dash"]
  | .defaultIgnorable => ["di", "defaultignorablecodepoint"]
  | .deprecated => ["dep", "deprecated"]
  | .diacritic => ["dia", "diacritic"]
  | .emoji => ["emoji"]
  | .emojiComponent => ["ecomp", "emojicomponent"]
  | .emojiModifier => ["emod", "emojimodifier"]
  | .emojiModifierBase => ["ebase", "emojimodifierbase"]
  | .emojiPresentation => ["epres", "emojipresentation"]
  | .extendedPictographic => ["extpict", "extendedpictographic"]
  | .extender => ["ext", "extender"]
  | .graphemeBase => ["grbase", "graphemebase"]
  | .graphemeExtend => ["grext", "graphemeextend"]
  | .graphemeLink => ["grlink", "graphemelink"]
  | .hexDigit => ["hex", "hexdigit"]
  | .hyphen => ["hyphen"]
  | .idsBinaryOperator => ["idsb", "idsbinaryoperator"]
  | .idsTrinaryOperator => ["idst", "idstrinaryoperator"]
  | .idsUnaryOperator => ["idsu", "idsunaryoperator"]
  | .idCompatMathContinue => ["idcompatmathcontinue"]
  | .idCompatMathStart => ["idcompatmathstart"]
  | .idContinue => ["idc", "idcontinue"]
  | .idStart => ["ids", "idstart"]
  | .ideographic => ["ideo", "ideographic"]
  | .joinControl => ["joinc", "joincontrol"]
  | .logicalOrderException => ["loe", "logicalorderexception"]
  | .lowercase => ["lower", "lowercase"]
  | .math => ["math"]
  | .modifierCombiningMark => ["mcm", "modifiercombiningmark"]
  | .noncharacter => ["nchar", "noncharactercodepoint"]
  | .otherAlphabetic => ["oalpha", "otheralphabetic"]
  | .otherDefaultIgnorable => ["odi", "otherdefaultignorablecodepoint"]
  | .otherGraphemeExtend => ["ogrext", "othergraphemeextend"]
  | .otherIdContinue => ["oidc", "otheridcontinue"]
  | .otherIdStart => ["oids", "otheridstart"]
  | .otherLowercase => ["olower", "otherlowercase"]
  | .otherMath => ["omath", "othermath"]
  | .otherUppercase => ["oupper", "otheruppercase"]
  | .patternSyntax => ["patsyn", "patternsyntax"]
  | .patternWhiteSpace => ["patws", "patternwhitespace"]
  | .prependedConcatenationMark => ["pcm", "prependedconcatenationmark"]
  | .quotationMark => ["qmark", "quotationmark"]
  | .radical => ["radical"]
  | .regionalIndicator => ["ri", "regionalindicator"]
  | .sentenceTerminal => ["sterm", "sentenceterminal"]
  | .softDotted => ["sd", "softdotted"]
  | .terminalPunctuation => ["term", "terminalpunctuation"]
  | .unifiedIdeograph => ["uideo", "unifiedideograph"]
  | .uppercase => ["upper", "uppercase"]
  | .variationSelector => ["vs", "variationselector"]
  | .whiteSpace => ["space", "wspace", "whitespace"]
  | .stableIdContinue => ["xidc", "xidcontinue"]
  | .stableIdStart => ["xids", "xidstart"]

def all : List BinaryProperty :=
  [.alphabetic, .asciiHexDigit, .bidiControl, .bidiMirrored, .caseIgnorable, .cased,
   .changesWhenCasefolded, .changesWhenCasemapped, .changesWhenLowercased, .changesWhenTitlecased,
   .changesWhenUppercased, .dash, .defaultIgnorable, .deprecated, .diacritic, .emoji,
   .emojiComponent, .emojiModifier, .emojiModifierBase, .emojiPresentation, .extendedPictographic,
   .extender, .graphemeBase, .graphemeExtend, .graphemeLink, .hexDigit, .hyphen,
   .idsBinaryOperator, .idsTrinaryOperator, .idsUnaryOperator, .idCompatMathContinue,
   .idCompatMathStart, .idContinue, .idStart, .ideographic, .joinControl, .logicalOrderException,
   .lowercase, .math, .modifierCombiningMark, .noncharacter, .otherAlphabetic,
   .otherDefaultIgnorable, .otherGraphemeExtend, .otherIdContinue, .otherIdStart, .otherLowercase,
   .otherMath, .otherUppercase, .patternSyntax, .patternWhiteSpace, .prependedConcatenationMark,
   .quotationMark, .radical, .regionalIndicator, .sentenceTerminal, .softDotted,
   .terminalPunctuation, .unifiedIdeograph, .uppercase, .variationSelector, .whiteSpace,
   .stableIdContinue, .stableIdStart]

def ofName? (name : String) : Option BinaryProperty := all.find? fun p => p.names.contains name

end BinaryProperty

end WorkflowManifest.Text
