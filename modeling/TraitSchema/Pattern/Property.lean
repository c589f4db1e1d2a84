import TraitSchema.Pattern.Syntax

namespace TraitSchema.Pattern

def binaryProperties : List String := [
  "asciihexdigit", "ahex", "alphabetic", "alpha", "bidicontrol", "bidic", "bidimirrored", "bidim",
  "caseignorable", "ci", "cased", "changeswhencasefolded", "cwcf", "changeswhencasemapped", "cwcm",
  "changeswhenlowercased", "cwl", "changeswhentitlecased", "cwt", "changeswhenuppercased", "cwu",
  "dash", "defaultignorablecodepoint", "di", "deprecated", "dep", "diacritic", "dia", "emoji",
  "emojicomponent", "ecomp", "emojimodifier", "emod", "emojimodifierbase", "ebase",
  "emojipresentation", "epres", "extendedpictographic", "extpict", "extender", "ext",
  "graphemebase", "grbase", "graphemeextend", "grext", "graphemelink", "grlink", "hexdigit", "hex",
  "hyphen", "idsbinaryoperator", "idsb", "idstrinaryoperator", "idst", "idsunaryoperator", "idsu",
  "idcompatmathstart", "idcompatmathcontinue", "idcontinue", "idc", "idstart", "ids",
  "ideographic", "ideo", "joincontrol", "joinc", "logicalorderexception", "loe", "lowercase",
  "lower", "math", "modifiercombiningmark", "mcm", "noncharactercodepoint", "nchar",
  "otheralphabetic", "oalpha", "otherdefaultignorablecodepoint", "odi", "othergraphemeextend",
  "ogrext", "otheridcontinue", "oidc", "otheridstart", "oids", "otherlowercase", "olower",
  "othermath", "omath", "otheruppercase", "oupper", "patternsyntax", "patsyn", "patternwhitespace",
  "patws", "prependedconcatenationmark", "pcm", "quotationmark", "qmark", "radical",
  "regionalindicator", "ri", "sentenceterminal", "sterm", "softdotted", "sd",
  "terminalpunctuation", "term", "unifiedideograph", "uideo", "uppercase", "upper",
  "variationselector", "vs", "whitespace", "wspace", "space", "xidcontinue", "xidc", "xidstart",
  "xids"]

/-- The general categories of characters, in loose form; that of surrogates has none. -/
def generalCategories : List String := [
  "c", "other", "cc", "control", "cntrl", "cf", "format", "cn", "unassigned", "co", "privateuse",
  "l", "letter", "lc", "casedletter", "ll", "lowercaseletter", "lm", "modifierletter", "lo",
  "otherletter", "lt", "titlecaseletter", "lu", "uppercaseletter", "m", "mark", "combiningmark",
  "mc", "spacingmark", "me", "enclosingmark", "mn", "nonspacingmark", "n", "number", "nd",
  "decimalnumber", "digit", "nl", "letternumber", "no", "othernumber", "p", "punctuation", "punct",
  "pc", "connectorpunctuation", "pd", "dashpunctuation", "pe", "closepunctuation", "pf",
  "finalpunctuation", "pi", "initialpunctuation", "po", "otherpunctuation", "ps", "openpunctuation",
  "s", "symbol", "sc", "currencysymbol", "sk", "modifiersymbol", "sm", "mathsymbol", "so",
  "othersymbol", "z", "separator", "zl", "lineseparator", "zp", "paragraphseparator", "zs",
  "spaceseparator"]

def scriptNames : List String := [
  "adlam", "adlm", "aghb", "ahom", "anatolianhieroglyphs", "arab", "arabic", "armenian", "armi",
  "armn", "avestan", "avst", "bali", "balinese", "bamu", "bamum", "bass", "bassavah", "batak",
  "batk", "beng", "bengali", "bhaiksuki", "bhks", "bopo", "bopomofo", "brah", "brahmi", "brai",
  "braille", "bugi", "buginese", "buhd", "buhid", "cakm", "canadianaboriginal", "cans", "cari",
  "carian", "caucasianalbanian", "chakma", "cham", "cher", "cherokee", "chorasmian", "chrs",
  "common", "copt", "coptic", "cpmn", "cprt", "cuneiform", "cypriot", "cyprominoan", "cyrillic",
  "cyrl", "deseret", "deva", "devanagari", "diak", "divesakuru", "dogr", "dogra", "dsrt", "dupl",
  "duployan", "egyp", "egyptianhieroglyphs", "elba", "elbasan", "elym", "elymaic", "ethi",
  "ethiopic", "gara", "garay", "geor", "georgian", "glag", "glagolitic", "gong", "gonm", "goth",
  "gothic", "gran", "grantha", "greek", "grek", "gujarati", "gujr", "gukh", "gunjalagondi",
  "gurmukhi", "guru", "gurungkhema", "han", "hang", "hangul", "hani", "hanifirohingya", "hano",
  "hanunoo", "hatr", "hatran", "hebr", "hebrew", "hira", "hiragana", "hluw", "hmng", "hmnp",
  "hung", "imperialaramaic", "inherited", "inscriptionalpahlavi", "inscriptionalparthian", "ital",
  "java", "javanese", "kaithi", "kali", "kana", "kannada", "katakana", "kawi", "kayahli", "khar",
  "kharoshthi", "khitansmallscript", "khmer", "khmr", "khoj", "khojki", "khudawadi", "kiratrai",
  "kits", "knda", "krai", "kthi", "lana", "lao", "laoo", "latin", "latn", "lepc", "lepcha", "limb",
  "limbu", "lina", "linb", "lineara", "linearb", "lisu", "lyci", "lycian", "lydi", "lydian",
  "mahajani", "mahj", "maka", "makasar", "malayalam", "mand", "mandaic", "mani", "manichaean",
  "marc", "marchen", "masaramgondi", "medefaidrin", "medf", "meeteimayek", "mend", "mendekikakui",
  "merc", "mero", "meroiticcursive", "meroitichieroglyphs", "miao", "mlym", "modi", "mong",
  "mongolian", "mro", "mroo", "mtei", "mult", "multani", "myanmar", "mymr", "nabataean", "nagm",
  "nagmundari", "nand", "nandinagari", "narb", "nbat", "newa", "newtailue", "nko", "nkoo", "nshu",
  "nushu", "nyiakengpuachuehmong", "ogam", "ogham", "olchiki", "olck", "oldhungarian", "olditalic",
  "oldnortharabian", "oldpermic", "oldpersian", "oldsogdian", "oldsoutharabian", "oldturkic",
  "olduyghur", "olonal", "onao", "oriya", "orkh", "orya", "osage", "osge", "osma", "osmanya",
  "ougr", "pahawhhmong", "palm", "palmyrene", "pauc", "paucinhau", "perm", "phag", "phagspa",
  "phli", "phlp", "phnx", "phoenician", "plrd", "prti", "psalterpahlavi", "qaac", "qaai", "rejang",
  "rjng", "rohg", "runic", "runr", "samaritan", "samr", "sarb", "saur", "saurashtra", "sgnw",
  "sharada", "shavian", "shaw", "shrd", "sidd", "siddham", "signwriting", "sind", "sinh",
  "sinhala", "sogd", "sogdian", "sogo", "sora", "sorasompeng", "soyo", "soyombo", "sund",
  "sundanese", "sunu", "sunuwar", "sylo", "sylotinagri", "syrc", "syriac", "tagalog", "tagb",
  "tagbanwa", "taile", "taitham", "taiviet", "takr", "takri", "tale", "talu", "tamil", "taml",
  "tang", "tangsa", "tangut", "tavt", "telu", "telugu", "tfng", "tglg", "thaa", "thaana", "thai",
  "tibetan", "tibt", "tifinagh", "tirh", "tirhuta", "tnsa", "todhri", "todr", "toto",
  "tulutigalari", "tutg", "ugar", "ugaritic", "vai", "vaii", "vith", "vithkuqi", "wancho", "wara",
  "warangciti", "wcho", "xpeo", "xsux", "yezi", "yezidi", "yi", "yiii", "zanabazarsquare", "zanb",
  "zinh", "zyyy"]

def ageNames : List String := [
  "1.1", "v11", "2.0", "v20", "2.1", "v21", "3.0", "v30", "3.1", "v31", "3.2", "v32", "4.0", "v40",
  "4.1", "v41", "5.0", "v50", "5.1", "v51", "5.2", "v52", "6.0", "v60", "6.1", "v61", "6.2", "v62",
  "6.3", "v63", "7.0", "v70", "8.0", "v80", "9.0", "v90", "10.0", "v100", "11.0", "v110", "12.0",
  "v120", "12.1", "v121", "13.0", "v130", "14.0", "v140", "15.0", "v150", "15.1", "v151", "16.0",
  "v160"]

def graphemeBreakNames : List String := [
  "cn", "control", "cr", "ex", "extend", "l", "lf", "lv", "lvt", "pp", "prepend", "ri",
  "regionalindicator", "sm", "spacingmark", "t", "v", "zwj"]

def sentenceBreakNames : List String := [
  "at", "aterm", "cl", "close", "cr", "ex", "extend", "fo", "format", "lf", "lo", "lower", "nu",
  "numeric", "le", "oletter", "sc", "scontinue", "st", "sterm", "se", "sep", "sp", "up", "upper"]

def wordBreakNames : List String := [
  "le", "aletter", "cr", "dq", "doublequote", "extend", "ex", "extendnumlet", "fo", "format", "hl",
  "hebrewletter", "ka", "katakana", "lf", "ml", "midletter", "mn", "midnum", "mb", "midnumlet",
  "nl", "newline", "nu", "numeric", "ri", "regionalindicator", "sq", "singlequote", "wsegspace",
  "zwj"]

/-- The loose form of a name: in lower case and without spaces, hyphens, underscores and a leading
`is`. Characters beyond ASCII do not count, and `isc` is not taken for the category of other
characters. -/
def looseName (name : String) : String :=
  let (lead, rest) := match name.toList with
    | a :: b :: rest =>
      if (a = 'i' ∨ a = 'I') ∧ (b = 's' ∨ b = 'S') then (true, rest) else (false, a :: b :: rest)
    | cs => (false, cs)
  let kept := rest.filter fun c => c.toNat < 0x80 && c != ' ' && c != '_' && c != '-'
  let loose := kept.map Char.toLower
  if lead && loose == ['c'] then "isc" else String.ofList loose

/-- The general categories and the three classes that go with them. -/
def isCategory (loose : String) : Bool :=
  generalCategories.contains loose || ["any", "assigned", "ascii"].contains loose

def isValueOf (property value : String) : Bool :=
  match property with
  | "gc" | "generalcategory" => isCategory value
  | "sc" | "script" | "scx" | "scriptextensions" => scriptNames.contains value
  | "age" => ageNames.contains value
  | "gcb" | "graphemeclusterbreak" => graphemeBreakNames.contains value
  | "sb" | "sentencebreak" => sentenceBreakNames.contains value
  | "wb" | "wordbreak" => wordBreakNames.contains value
  | _ => false

def PropertyName.isKnown : PropertyName → Bool
  | .named name =>
    let loose := looseName name
    binaryProperties.contains loose || isCategory loose || scriptNames.contains loose
  | .valued property value => isValueOf (looseName property) (looseName value)

end TraitSchema.Pattern
