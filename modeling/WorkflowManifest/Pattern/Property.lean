import WorkflowManifest.Pattern.Syntax
import WorkflowManifest.Text.Property.Binary
import WorkflowManifest.Text.Property.ClusterBreak
import WorkflowManifest.Text.Property.SentenceBreak
import WorkflowManifest.Text.ScriptUse

namespace WorkflowManifest.Pattern

open Text

inductive Property where
  | any
  | ascii
  | binary (p : BinaryProperty)
  | categories (allowed : List Category)
  | script (s : Script)
  | scriptUse (s : Script)
  | version (v : Version)
  | clusterBreak (b : ClusterBreak)
  | wordBreak (b : WordBreak)
  | sentenceBreak (b : SentenceBreak)
  deriving DecidableEq, Hashable

namespace Property

def set : Property → CodeSet
  | .any => .ofLines ["0-10FFFF"]
  | .ascii => .ofLines ["0-7F"]
  | .binary p => p.set
  | .categories allowed => .categories allowed
  | .script s => s.set
  | .scriptUse s => s.usedSet
  | .version v => .version v
  | .clusterBreak b => b.set
  | .wordBreak b => b.set
  | .sentenceBreak b => b.set

def categoryNames : List (String × List Category) :=
  [("l", Category.letters), ("letter", Category.letters),
   ("lc", [.uppercaseLetter, .lowercaseLetter, .titlecaseLetter]),
   ("casedletter", [.uppercaseLetter, .lowercaseLetter, .titlecaseLetter]),
   ("lu", [.uppercaseLetter]), ("uppercaseletter", [.uppercaseLetter]), ("ll", [.lowercaseLetter]),
   ("lowercaseletter", [.lowercaseLetter]), ("lt", [.titlecaseLetter]),
   ("titlecaseletter", [.titlecaseLetter]), ("lm", [.modifierLetter]),
   ("modifierletter", [.modifierLetter]), ("lo", [.otherLetter]), ("otherletter", [.otherLetter]),
   ("m", Category.marks), ("mark", Category.marks), ("combiningmark", Category.marks),
   ("mn", [.nonspacingMark]), ("nonspacingmark", [.nonspacingMark]), ("mc", [.spacingMark]),
   ("spacingmark", [.spacingMark]), ("me", [.enclosingMark]), ("enclosingmark", [.enclosingMark]),
   ("n", Category.numbers), ("number", Category.numbers), ("nd", [.decimalNumber]),
   ("decimalnumber", [.decimalNumber]), ("digit", [.decimalNumber]), ("nl", [.letterNumber]),
   ("letternumber", [.letterNumber]), ("no", [.otherNumber]), ("othernumber", [.otherNumber]),
   ("p", Category.punctuation), ("punctuation", Category.punctuation),
   ("punct", Category.punctuation), ("pc", [.connectorPunctuation]),
   ("connectorpunctuation", [.connectorPunctuation]), ("pd", [.dashPunctuation]),
   ("dashpunctuation", [.dashPunctuation]), ("ps", [.openPunctuation]),
   ("openpunctuation", [.openPunctuation]), ("pe", [.closePunctuation]),
   ("closepunctuation", [.closePunctuation]), ("pi", [.initialPunctuation]),
   ("initialpunctuation", [.initialPunctuation]), ("pf", [.finalPunctuation]),
   ("finalpunctuation", [.finalPunctuation]), ("po", [.otherPunctuation]),
   ("otherpunctuation", [.otherPunctuation]), ("s", Category.symbols), ("symbol", Category.symbols),
   ("sm", [.mathSymbol]), ("mathsymbol", [.mathSymbol]), ("sc", [.currencySymbol]),
   ("currencysymbol", [.currencySymbol]), ("sk", [.modifierSymbol]),
   ("modifiersymbol", [.modifierSymbol]), ("so", [.otherSymbol]), ("othersymbol", [.otherSymbol]),
   ("z", Category.separators), ("separator", Category.separators), ("zs", [.spaceSeparator]),
   ("spaceseparator", [.spaceSeparator]), ("zl", [.lineSeparator]),
   ("lineseparator", [.lineSeparator]), ("zp", [.paragraphSeparator]),
   ("paragraphseparator", [.paragraphSeparator]), ("c", Category.others),
   ("other", Category.others), ("cc", [.control]), ("control", [.control]), ("cntrl", [.control]),
   ("cf", [.format]), ("format", [.format]), ("co", [.privateUse]), ("privateuse", [.privateUse]),
   ("cn", [.unassigned]), ("unassigned", [.unassigned]),
   ("assigned", Category.all.filter (· ≠ .unassigned))]

def valueIn? {α : Type} (names : List (String × α)) (name : String) : Option α :=
  (names.find? fun n => n.1 = name).map (·.2)

def ofCategoryName? (name : String) : Option Property :=
  if name = "any" then some .any
  else if name = "ascii" then some .ascii
  else (valueIn? categoryNames name).map .categories

def valued : List (String × (String → Option Property)) :=
  let category := ofCategoryName?
  let script := fun name => (Script.ofName? name).map .script
  let scriptUse := fun name => (Script.ofName? name).map .scriptUse
  let age := fun name => (Version.all.find? (·.names.contains name)).map .version
  let cluster := fun name => (valueIn? ClusterBreak.names name).map .clusterBreak
  let word := fun name => (valueIn? WordBreak.names name).map .wordBreak
  let sentence := fun name => (valueIn? SentenceBreak.names name).map .sentenceBreak
  [("gc", category), ("generalcategory", category), ("sc", script), ("script", script),
   ("scx", scriptUse), ("scriptextensions", scriptUse), ("age", age), ("gcb", cluster),
   ("graphemeclusterbreak", cluster), ("wb", word), ("wordbreak", word), ("sb", sentence),
   ("sentencebreak", sentence)]

def unsupported : List String :=
  ["bc bidiclass bidimirroringglyph bidipairedbracket bidipairedbrackettype blk block bmg bpb",
   "bpt canonicalcombiningclass casefolding ccc ce cf changeswhennfkccasefolded",
   "cjkaccountingnumeric cjkcompatibilityvariant cjkiicore cjkirggsource cjkirghsource",
   "cjkirgjsource cjkirgkpsource cjkirgksource cjkirgmsource cjkirgssource cjkirgtsource",
   "cjkirguksource cjkirgusource cjkirgvsource cjkothernumeric cjkprimarynumeric cjkrsunicode",
   "compex compositionexclusion cwkcf decompositionmapping decompositiontype dm dt ea",
   "eastasianwidth equideo equivalentunifiedideograph expandsonnfc expandsonnfd expandsonnfkc",
   "expandsonnfkd fcnfkc fcnfkcclosure fullcompositionexclusion hangulsyllabletype hst incb",
   "indicconjunctbreak indicpositionalcategory indicsyllabiccategory inpc insc isc jamoshortname",
   "jg joininggroup joiningtype jsn jt kaccountingnumeric kcompatibilityvariant kehcat kehdesc",
   "kehhg kehifao kehjsesh kehnomirror kehnorotate kiicore kirggsource kirghsource kirgjsource",
   "kirgkpsource kirgksource kirgmsource kirgssource kirgtsource kirguksource kirgusource",
   "kirgvsource kothernumeric kprimarynumeric krsunicode lb lc linebreak lowercasemapping na na1",
   "name namealias nfcqc nfcquickcheck nfdqc nfdquickcheck nfkccasefold nfkccf nfkcqc",
   "nfkcquickcheck nfkcscf nfkcsimplecasefold nfkdqc nfkdquickcheck nt numerictype numericvalue",
   "nv ocomment scf sfc simplecasefolding simplelowercasemapping simpletitlecasemapping",
   "simpleuppercasemapping slc stc suc tc titlecasemapping uc unicode1name unicoderadicalstroke",
   "uppercasemapping urs verticalorientation vo xonfc xonfd xonfkc xonfkd"].flatMap (pieces ' ')

def isKnown (name : String) : Bool :=
  (BinaryProperty.ofName? name).isSome || unsupported.contains name

def plainName (name : String) : String :=
  let hasIs := ["is", "Is", "iS", "IS"].any (name.startsWith ·)
  let letters := (if hasIs then name.toList.drop 2 else name.toList).filter fun c =>
    c ≠ ' ' && c ≠ '_' && c ≠ '-' && c.toNat < 0x80
  let plain := String.ofList (letters.map Char.toLower)
  if hasIs && plain = "c" then "isc" else plain

def emptyValues : List String :=
  ["cs", "surrogate", "hrkt", "katakanaorhiragana", "unknown", "zzzz"]

def ofName (name : String) : Except Cause Property :=
  let binary := (BinaryProperty.ofName? name).map Property.binary
  match binary.or ((ofCategoryName? name).or ((Script.ofName? name).map .script)) with
  | some p => .ok p
  | none => .error (if emptyValues.contains name then .propertyValueUnknown else .propertyUnknown)

def ofValue (property value : String) : Except Cause Property :=
  match valueIn? valued property with
  | some values => ((values value).map Except.ok).getD (.error .propertyValueUnknown)
  | none => .error (if isKnown property then .propertyValueUnknown else .propertyUnknown)

def ofQuery : PropertyQuery → Except Cause Property
  | .named name => ofName (plainName name)
  | .valued property value => ofValue (plainName property) (plainName value)

end Property

end WorkflowManifest.Pattern
