import Logbook.Pattern.CharSet
import Logbook.Pattern.Ast
import Logbook.Text.Property

/-!
The sets of characters that patterns ask for by property. Names are compared without case,
spaces, hyphens and underscores, and without a leading `is`.
-/

namespace Logbook.Pattern.Property

def normalize (name : List Char) : List Char :=
  let isPrefixed := name.take 2 |>.map Char.toLower |> (· == ['i', 's'])
  let kept := (if isPrefixed then name.drop 2 else name).filter fun c =>
    c.toNat < 128 && c ∉ [' ', '_', '-']
  let kept := kept.map Char.toLower
  if isPrefixed && kept == ['c'] then ['i', 's', 'c'] else kept

/-- Every name of a property, whether or not patterns can ask for it. -/
def knownNames : List String :=
  ["age", "ahex", "asciihexdigit", "alpha", "alphabetic", "bc", "bidiclass", "bidic",
   "bidicontrol", "bidim", "bidimirrored", "blk", "block", "bmg", "bidimirroringglyph", "bpb",
   "bidipairedbracket", "bpt", "bidipairedbrackettype", "cased", "casefolding", "cf",
   "caseignorable", "ccc", "canonicalcombiningclass", "ce", "compositionexclusion",
   "changeswhencasefolded", "changeswhencasemapped", "changeswhenlowercased",
   "changeswhennfkccasefolded", "changeswhentitlecased", "changeswhenuppercased", "ci",
   "compex", "fullcompositionexclusion", "cwcf", "cwcm", "cwkcf", "cwl", "cwt", "cwu", "dash",
   "decompositionmapping", "decompositiontype", "defaultignorablecodepoint", "dep",
   "deprecated", "di", "dia", "diacritic", "dm", "dt", "ea", "eastasianwidth", "ebase", "ecomp",
   "emod", "emoji", "emojicomponent", "emojimodifier", "emojimodifierbase",
   "emojipresentation", "epres", "ext", "extendedpictographic", "extender", "extpict",
   "expandsonnfc", "expandsonnfd", "expandsonnfkc", "expandsonnfkd", "fcnfkc",
   "fcnfkcclosure", "gc", "gcb", "generalcategory", "graphemebase", "graphemeclusterbreak",
   "graphemeextend", "graphemelink", "grbase", "grext", "grlink", "hangulsyllabletype", "hex",
   "hexdigit", "hst", "hyphen", "idc", "idcontinue", "ideo", "ideographic", "ids", "idsb",
   "idsbinaryoperator", "idst", "idstart", "idstrinaryoperator", "indicpositionalcategory",
   "indicsyllabiccategory", "inpc", "insc", "isc", "jamoshortname", "jg", "joinc",
   "joincontrol", "joininggroup", "joiningtype", "jsn", "jt", "lb", "lc", "linebreak", "loe",
   "logicalorderexception", "lower", "lowercase", "lowercasemapping", "math", "na", "na1",
   "name", "namealias", "nchar", "nfcqc", "nfcquickcheck", "nfdqc", "nfdquickcheck",
   "nfkccasefold", "nfkccf", "nfkcqc", "nfkcquickcheck", "nfkdqc", "nfkdquickcheck",
   "noncharactercodepoint", "nt", "numerictype", "numericvalue", "nv", "oalpha", "odi",
   "ogrext", "oidc", "oids", "olower", "omath", "otheralphabetic",
   "otherdefaultignorablecodepoint", "othergraphemeextend", "otheridcontinue", "otheridstart",
   "otherlowercase", "othermath", "otheruppercase", "oupper", "patsyn", "patternsyntax",
   "patternwhitespace", "patws", "pcm", "prependedconcatenationmark", "qmark",
   "quotationmark", "radical", "regionalindicator", "ri", "sb", "sc", "scf", "script",
   "scriptextensions", "scx", "sd", "sentencebreak", "sentenceterminal", "sfc",
   "simplecasefolding", "simplelowercasemapping", "simpletitlecasemapping",
   "simpleuppercasemapping", "slc", "softdotted", "space", "stc", "sterm", "suc", "tc", "term",
   "terminalpunctuation", "titlecasemapping", "uc", "uideo", "unicode1name",
   "unicoderadicalstroke", "unifiedideograph", "upper", "uppercase", "uppercasemapping",
   "urs", "variationselector", "verticalorientation", "vo", "vs", "wb", "whitespace",
   "wordbreak", "wspace", "xidc", "xidcontinue", "xids", "xidstart", "xonfc", "xonfd",
   "xonfkc", "xonfkd"]

/-- Scripts that have a name but no characters of their own. -/
def bareScripts : List String := ["zzzz", "unknown", "hrkt", "katakanaorhiragana"]

def binary? (name : String) : Option CharSet := (Text.Property.binary? name).map .ranges

def oneCategory? (name : String) : Option CharSet := (Text.Property.category? name).map .ranges

/-- The characters of a general category or of a group of them. -/
def category? (name : String) : Option CharSet :=
  if name = "any" then some .all
  else if name = "ascii" then some (.ranges [(0, 0x7F)])
  else if name = "assigned" then (oneCategory? "cn").map .complement
  else
    match Text.Property.categoryGroup? name with
    | some members => some ((members.filterMap oneCategory?).foldl .union .empty)
    | none => oneCategory? name

def script? (name : String) : Option CharSet := (Text.Property.script? name).map .ranges

def scriptExtension? (name : String) : Option CharSet :=
  (Text.Property.scriptExtension? name).map fun (own, more) => .union (.ranges own) (.ranges more)

def orFail (cause : Cause) : Option CharSet → Except Cause CharSet
  | some s => .ok s
  | none => .error cause

def named (name : String) : Except Cause CharSet :=
  if name ∉ ["cf", "sc", "lc"] && name ∈ knownNames then orFail .propertyNotFound (binary? name)
  else if name ∈ ["cs", "surrogate"] || name ∈ bareScripts then .error .propertyValueNotFound
  else orFail .propertyNotFound ((category? name).or (script? name))

def valued (name value : String) : Except Cause CharSet :=
  if name ∉ knownNames then .error .propertyNotFound
  else if name ∈ ["gc", "generalcategory"] then orFail .propertyValueNotFound (category? value)
  else if name ∈ ["sc", "script"] then orFail .propertyValueNotFound (script? value)
  else if name ∈ ["scx", "scriptextensions"] then
    orFail .propertyValueNotFound (scriptExtension? value)
  else .error .propertyValueNotFound

end Property

/-- The characters that a query asks for. -/
def PropertyQuery.chars : PropertyQuery → Except Cause CharSet
  | .letter c => Property.named (String.ofList (Property.normalize [c]))
  | .named name => Property.named (String.ofList (Property.normalize name))
  | .valued name value =>
    Property.valued (String.ofList (Property.normalize name))
      (String.ofList (Property.normalize value))

end Logbook.Pattern
