import TraitSchema.AdminType
import TraitSchema.Text.Scan
import TraitSchema.Text.Word

namespace TraitSchema.KeyMap

def tableMark : List Char := "segment_key_mapping_t".toList

def declarations (source : List Char) : List Char := Text.before tableMark source

def isBorder (before after : Option Char) : Bool := before.any Text.isWord != after.any Text.isWord

def isSegmentChar (c : Char) : Bool := 'A' ≤ c && c ≤ 'Z'

/-- The segment named by an identifier such as `USER_TSO_SEGMENT_MAP` or `USER_TSO_KEY_MAP` at the
front of the text, where `token` is the word for the admin type. -/
def mapName? (token : List Char) (text : List Char) : Option (List Char × List Char) := do
  let rest ← Text.after? (token ++ ['_']) text
  let name := rest.takeWhile isSegmentChar
  let rest := rest.dropWhile isSegmentChar
  let left ← Text.after? "_SEGMENT_MAP".toList rest <|> Text.after? "_KEY_MAP".toList rest
  return (name, left)

def mapNameAt? (token : List Char) (before : Option Char) (text : List Char) :
    Option (List Char × List Char) :=
  if isBorder before text.head? then mapName? token text else none

def isTableName (name : List Char) : Bool := "SEGMENT".toList.isSuffixOf name

/-- The segments that the section declares for an admin type, in order and with repeats. Tokens of
any length are looked for: that an engine for regular expressions refuses the pattern for one of
several hundred thousand letters, and finds no segments then, is left out. -/
def segments (adminType : AdminType) (text : List Char) : List String :=
  let names := Text.scan (mapNameAt? adminType.token) text
  (names.filter fun name => !isTableName name).map String.ofList

end TraitSchema.KeyMap
