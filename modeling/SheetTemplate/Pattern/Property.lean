/-!
# Character properties

The names by which a pattern may refer to sets of characters. A name is compared without case, blanks,
hyphens and low lines, and without a leading "is"; the lists hold names in that form.
-/

namespace SheetTemplate.Pattern

/-- Properties that a character has or has not. -/
def binaryProperties : List String := [
  "ahex", "alpha", "alphabetic", "asciihexdigit", "bidic", "bidicontrol", "bidim", "bidimirrored", "cased",
  "caseignorable", "changeswhencasefolded", "changeswhencasemapped", "changeswhenlowercased", "changeswhentitlecased",
  "changeswhenuppercased", "ci", "cwcf", "cwcm", "cwl", "cwt", "cwu", "dash", "defaultignorablecodepoint",
  "dep", "deprecated", "di", "dia", "diacritic", "ebase", "ecomp", "emod", "emoji", "emojicomponent",
  "emojimodifier", "emojimodifierbase", "emojipresentation", "epres", "ext", "extendedpictographic",
  "extender", "extpict", "graphemebase", "graphemeextend", "graphemelink", "grbase", "grext", "grlink",
  "hex", "hexdigit", "hyphen", "idc", "idcompatmathcontinue", "idcompatmathstart", "idcontinue", "ideo",
  "ideographic", "ids", "idsb", "idsbinaryoperator", "idst", "idstart", "idstrinaryoperator", "idsu",
  "idsunaryoperator", "joinc", "joincontrol", "loe", "logicalorderexception", "lower", "lowercase", "math",
  "mcm", "modifiercombiningmark", "nchar", "noncharactercodepoint", "oalpha", "odi", "ogrext", "oidc",
  "oids", "olower", "omath", "otheralphabetic", "otherdefaultignorablecodepoint", "othergraphemeextend",
  "otheridcontinue", "otheridstart", "otherlowercase", "othermath", "otheruppercase", "oupper", "patsyn",
  "patternsyntax", "patternwhitespace", "patws", "pcm", "prependedconcatenationmark", "qmark",
  "quotationmark", "radical", "regionalindicator", "ri", "sd", "sentenceterminal", "softdotted", "space",
  "sterm", "term", "terminalpunctuation", "uideo", "unifiedideograph", "upper", "uppercase",
  "variationselector", "vs", "whitespace", "wspace", "xidc", "xidcontinue", "xids", "xidstart"]

/-- General categories that hold a character, and the sets of all, all assigned and all ASCII characters. -/
def generalCategories : List String := [
  "any", "ascii", "assigned", "c", "casedletter", "cc", "cf", "closepunctuation", "cn", "cntrl", "co",
  "combiningmark", "connectorpunctuation", "control", "currencysymbol", "dashpunctuation", "decimalnumber",
  "digit", "enclosingmark", "finalpunctuation", "format", "initialpunctuation", "l", "lc", "letter",
  "letternumber", "lineseparator", "ll", "lm", "lo", "lowercaseletter", "lt", "lu", "m", "mark",
  "mathsymbol", "mc", "me", "mn", "modifierletter", "modifiersymbol", "n", "nd", "nl", "no",
  "nonspacingmark", "number", "openpunctuation", "other", "otherletter", "othernumber", "otherpunctuation",
  "othersymbol", "p", "paragraphseparator", "pc", "pd", "pe", "pf", "pi", "po", "privateuse", "ps", "punct",
  "punctuation", "s", "sc", "separator", "sk", "sm", "so", "spaceseparator", "spacingmark", "symbol",
  "titlecaseletter", "unassigned", "uppercaseletter", "z", "zl", "zp", "zs"]

def scripts : List String := [
  "adlam", "adlm", "aghb", "ahom", "anatolianhieroglyphs", "arab", "arabic", "armenian", "armi", "armn",
  "avestan", "avst", "bali", "balinese", "bamu", "bamum", "bass", "bassavah", "batak", "batk", "beng",
  "bengali", "berf", "beriaerfe", "bhaiksuki", "bhks", "bopo", "bopomofo", "brah", "brahmi", "brai",
  "braille", "bugi", "buginese", "buhd", "buhid", "cakm", "canadianaboriginal", "cans", "cari", "carian",
  "caucasianalbanian", "chakma", "cham", "cher", "cherokee", "chorasmian", "chrs", "common", "copt",
  "coptic", "cpmn", "cprt", "cuneiform", "cypriot", "cyprominoan", "cyrillic", "cyrl", "deseret", "deva",
  "devanagari", "diak", "divesakuru", "dogr", "dogra", "dsrt", "dupl", "duployan", "egyp",
  "egyptianhieroglyphs", "elba", "elbasan", "elym", "elymaic", "ethi", "ethiopic", "gara", "garay", "geor",
  "georgian", "glag", "glagolitic", "gong", "gonm", "goth", "gothic", "gran", "grantha", "greek", "grek",
  "gujarati", "gujr", "gukh", "gunjalagondi", "gurmukhi", "guru", "gurungkhema", "han", "hang", "hangul",
  "hani", "hanifirohingya", "hano", "hanunoo", "hatr", "hatran", "hebr", "hebrew", "hira", "hiragana",
  "hluw", "hmng", "hmnp", "hung", "imperialaramaic", "inherited", "inscriptionalpahlavi",
  "inscriptionalparthian", "ital", "java", "javanese", "kaithi", "kali", "kana", "kannada", "katakana",
  "kawi", "kayahli", "khar", "kharoshthi", "khitansmallscript", "khmer", "khmr", "khoj", "khojki",
  "khudawadi", "kiratrai", "kits", "knda", "krai", "kthi", "lana", "lao", "laoo", "latin", "latn", "lepc",
  "lepcha", "limb", "limbu", "lina", "linb", "lineara", "linearb", "lisu", "lyci", "lycian", "lydi",
  "lydian", "mahajani", "mahj", "maka", "makasar", "malayalam", "mand", "mandaic", "mani", "manichaean",
  "marc", "marchen", "masaramgondi", "medefaidrin", "medf", "meeteimayek", "mend", "mendekikakui", "merc",
  "mero", "meroiticcursive", "meroitichieroglyphs", "miao", "mlym", "modi", "mong", "mongolian", "mro",
  "mroo", "mtei", "mult", "multani", "myanmar", "mymr", "nabataean", "nagm", "nagmundari", "nand",
  "nandinagari", "narb", "nbat", "newa", "newtailue", "nko", "nkoo", "nshu", "nushu", "nyiakengpuachuehmong",
  "ogam", "ogham", "olchiki", "olck", "oldhungarian", "olditalic", "oldnortharabian", "oldpermic",
  "oldpersian", "oldsogdian", "oldsoutharabian", "oldturkic", "olduyghur", "olonal", "onao", "oriya", "orkh",
  "orya", "osage", "osge", "osma", "osmanya", "ougr", "pahawhhmong", "palm", "palmyrene", "pauc",
  "paucinhau", "perm", "phag", "phagspa", "phli", "phlp", "phnx", "phoenician", "plrd", "prti",
  "psalterpahlavi", "qaac", "qaai", "rejang", "rjng", "rohg", "runic", "runr", "samaritan", "samr", "sarb",
  "saur", "saurashtra", "sgnw", "sharada", "shavian", "shaw", "shrd", "sidd", "siddham", "sidetic", "sidt",
  "signwriting", "sind", "sinh", "sinhala", "sogd", "sogdian", "sogo", "sora", "sorasompeng", "soyo",
  "soyombo", "sund", "sundanese", "sunu", "sunuwar", "sylo", "sylotinagri", "syrc", "syriac", "tagalog",
  "tagb", "tagbanwa", "taile", "taitham", "taiviet", "taiyo", "takr", "takri", "tale", "talu", "tamil",
  "taml", "tang", "tangsa", "tangut", "tavt", "tayo", "telu", "telugu", "tfng", "tglg", "thaa", "thaana",
  "thai", "tibetan", "tibt", "tifinagh", "tirh", "tirhuta", "tnsa", "todhri", "todr", "tolongsiki", "tols",
  "toto", "tulutigalari", "tutg", "ugar", "ugaritic", "vai", "vaii", "vith", "vithkuqi", "wancho", "wara",
  "warangciti", "wcho", "xpeo", "xsux", "yezi", "yezidi", "yi", "yiii", "zanabazarsquare", "zanb", "zinh",
  "zyyy"]

/-- Versions in which characters were assigned. -/
def ages : List String := [
  "1.1", "v11", "2.0", "v20", "2.1", "v21", "3.0", "v30", "3.1", "v31", "3.2", "v32", "4.0", "v40", "4.1",
  "v41", "5.0", "v50", "5.1", "v51", "5.2", "v52", "6.0", "v60", "6.1", "v61", "6.2", "v62", "6.3", "v63",
  "7.0", "v70", "8.0", "v80", "9.0", "v90", "10.0", "v100", "11.0", "v110", "12.0", "v120", "12.1", "v121",
  "13.0", "v130", "14.0", "v140", "15.0", "v150", "15.1", "v151", "16.0", "v160", "17.0", "v170"]

/-- Classes of characters at the bounds of graphemes. -/
def graphemeBreaks : List String := [
  "cr", "control", "cn", "extend", "ex", "l", "lf", "lv", "lvt", "prepend", "pp", "regionalindicator", "ri",
  "spacingmark", "sm", "t", "v", "zwj"]

/-- Classes of characters at the bounds of words. -/
def wordBreaks : List String := [
  "aletter", "le", "cr", "doublequote", "dq", "extend", "extendnumlet", "ex", "format", "fo", "hebrewletter",
  "hl", "katakana", "ka", "lf", "midletter", "ml", "midnum", "mn", "midnumlet", "mb", "newline", "nl",
  "numeric", "nu", "regionalindicator", "ri", "singlequote", "sq", "wsegspace", "zwj"]

/-- Classes of characters at the bounds of sentences. -/
def sentenceBreaks : List String := [
  "aterm", "at", "cr", "close", "cl", "extend", "ex", "format", "fo", "lf", "lower", "lo", "numeric", "nu",
  "oletter", "le", "scontinue", "sc", "sterm", "st", "sep", "se", "sp", "upper", "up"]

/-- A property name in the form in which names are compared. The short name of the property of comments,
for which there is no set of characters, is not taken for the category of one letter. -/
def normalName (name : List Char) : String :=
  let (shortened, stripped) := match name with
    | 'i' :: 's' :: rest | 'I' :: 's' :: rest | 'i' :: 'S' :: rest | 'I' :: 'S' :: rest => (true, rest)
    | name => (false, name)
  let normal := (stripped.filter fun c => c.toNat < 0x80 && c ≠ ' ' && c ≠ '_' && c ≠ '-').map Char.toLower
  if shortened && normal = ['c'] then "isc" else String.ofList normal

/-- Whether a name alone stands for a set of characters. -/
def isKnownProperty (name : List Char) : Bool :=
  let name := normalName name
  binaryProperties.contains name || generalCategories.contains name || scripts.contains name

def propertyValues (property : String) : List String :=
  if property = "gc" || property = "generalcategory" then generalCategories
  else if property = "sc" || property = "script" || property = "scx" || property = "scriptextensions" then scripts
  else if property = "age" then ages
  else if property = "gcb" || property = "graphemeclusterbreak" then graphemeBreaks
  else if property = "wb" || property = "wordbreak" then wordBreaks
  else if property = "sb" || property = "sentencebreak" then sentenceBreaks
  else []

def isKnownValue (property value : List Char) : Bool :=
  (propertyValues (normalName property)).contains (normalName value)

/-- The text before and after the first occurrence of a mark. -/
def splitAt? (mark : List Char) : List Char → Option (List Char × List Char)
  | [] => none
  | c :: rest =>
    if mark.isPrefixOf (c :: rest) then some ([], (c :: rest).drop mark.length)
    else (splitAt? mark rest).map fun (before, after) => (c :: before, after)

/-- Whether the text between the braces of a property escape stands for a set of characters: a name, or
a property and a value with a sign between them. -/
def isKnownSet (query : List Char) : Bool :=
  match [['!', '='], [':'], ['=']].findSome? (splitAt? · query) with
  | some (property, value) => isKnownValue property value
  | none => isKnownProperty query

end SheetTemplate.Pattern
