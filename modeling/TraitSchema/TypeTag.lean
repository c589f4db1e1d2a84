import TraitSchema.Operator
import TraitSchema.Text.Case
import TraitSchema.Text.Search

namespace TraitSchema

inductive TypeKind where
  | boolean
  | repeated
  | string
  | uint
  | unknown
deriving DecidableEq, Repr

structure TypeTag where
  text : String
deriving DecidableEq, Repr

namespace TypeTag

def lower (tag : TypeTag) : List Char := Text.lower tag.text.toList

/-- The kind of the first of these words that occurs in the tag. -/
def kind (tag : TypeTag) : TypeKind :=
  if Text.occurs "boolean".toList tag.lower then .boolean
  else if Text.occurs "repeat".toList tag.lower then .repeated
  else if Text.occurs "string".toList tag.lower then .string
  else if Text.occurs "uint".toList tag.lower then .uint
  else .unknown

def isPseudoBoolean (tag : TypeTag) : Bool := tag.lower == "pseudo_boolean".toList

end TypeTag

def notApplicable : String := "N/A"

inductive SharedType where
  | delOnlyBoolean
  | setOnlyBoolean
  | boolean
  | list
  | addRemoveList
  | noDeleteList
  | noRemoveList
  | noAddList
  | setOnlyString
  | string
  | setOnlyUint
  | uint
deriving DecidableEq, Repr

namespace SharedType

def all : List SharedType :=
  [.delOnlyBoolean, .setOnlyBoolean, .boolean, .list, .addRemoveList, .noDeleteList,
    .noRemoveList, .noAddList, .setOnlyString, .string, .setOnlyUint, .uint]

def name : SharedType → String
  | .delOnlyBoolean => "traitTypeDelOnlyBoolean"
  | .setOnlyBoolean => "traitTypeSetOnlyBoolean"
  | .boolean => "traitTypeBoolean"
  | .list => "traitTypeList"
  | .addRemoveList => "traitTypeAddRemoveList"
  | .noDeleteList => "traitTypeNoDeleteList"
  | .noRemoveList => "traitTypeNoRemoveList"
  | .noAddList => "traitTypeNoAddList"
  | .setOnlyString => "traitTypeSetOnlyString"
  | .string => "traitTypeString"
  | .setOnlyUint => "traitTypeSetOnlyUint"
  | .uint => "traitTypeUint"

def localStart : String := "#/$defs/"

/-- The reference to a shared definition, or the marker where there is none. -/
def reference : Option SharedType → String
  | some type => localStart ++ type.name
  | none => notApplicable

/-- The definition of a string value with these operators: a list if it has items to add or
remove. -/
def ofStringOperators (ops : OperatorSet) : SharedType :=
  if !(ops.add || ops.remove) then
    if ops.isOnly .set then .setOnlyString else .string
  else if !ops.set then .addRemoveList
  else if !ops.delete then .noDeleteList
  else if !ops.remove then .noRemoveList
  else if !ops.add then .noAddList
  else .list

def ofTag? (tag : TypeTag) (ops : OperatorSet) : Option SharedType :=
  match tag.kind with
  | .boolean =>
    some (if ops.isOnly .delete then .delOnlyBoolean
      else if ops.isOnly .set then .setOnlyBoolean
      else .boolean)
  | .repeated => some .list
  | .string => some (ofStringOperators ops)
  | .uint => some (if ops.isOnly .set then .setOnlyUint else .uint)
  | .unknown => none

end SharedType

def Operator.mark (op : Operator) : List Char :=
  '\x60' :: '"' :: op.label.toList ++ ['"', '\x60']

/-- The code of a trait: its tag in lower case followed by its operators. -/
def operatorCode (tag : TypeTag) (ops : OperatorSet) : String :=
  let marks := if ops.isEmpty then notApplicable.toList else ops.toList.flatMap Operator.mark
  String.ofList (tag.lower ++ marks)

end TraitSchema
