import TraitSchema.Binary64
import TraitSchema.Table

namespace TraitSchema

/-- Whole numbers are kept exactly; every other number is a binary64 number. -/
inductive JsonNumber where
  | whole (n : Int)
  | binary (x : Binary64)
deriving DecidableEq, Repr

def JsonNumber.text : JsonNumber → String
  | .whole n => toString n
  | .binary x => x.text

inductive Json where
  | null
  | bool (b : Bool)
  | number (n : JsonNumber)
  | string (s : String)
  | array (items : List Json)
  | object (members : List (String × Json))
deriving Repr, Inhabited

namespace Json

def ofNat (n : Nat) : Json := .number (.whole n)

def members? : Json → Option (Table Json)
  | .object members => some members
  | _ => none

def text? : Json → Option String
  | .string s => some s
  | _ => none

def get? (value : Json) (key : String) : Option Json :=
  value.members?.bind (·.get? key)

def isObject (value : Json) : Bool := value.members?.isSome

/-- An object of the given members, the last value of a key counting. -/
def ofMembers (members : List (String × Json)) : Json := .object (Table.ofList members)

mutual

def beq : Json → Json → Bool
  | .null, .null => true
  | .bool a, .bool b => a == b
  | .number a, .number b => a == b
  | .string a, .string b => a == b
  | .array as, .array bs => beqItems as bs
  | .object as, .object bs => beqMembers as bs
  | _, _ => false

def beqItems : List Json → List Json → Bool
  | [], [] => true
  | a :: as, b :: bs => beq a b && beqItems as bs
  | _, _ => false

def beqMembers : List (String × Json) → List (String × Json) → Bool
  | [], [] => true
  | (j, a) :: as, (k, b) :: bs => j == k && beq a b && beqMembers as bs
  | _, _ => false

end

instance : BEq Json := ⟨beq⟩

mutual

/-- Every object in the value has its members in increasing order of their keys. -/
def Ordered : Json → Prop
  | .array items => OrderedItems items
  | .object members => Table.Sorted members ∧ OrderedMembers members
  | _ => True

def OrderedItems : List Json → Prop
  | [] => True
  | item :: items => Ordered item ∧ OrderedItems items

def OrderedMembers : List (String × Json) → Prop
  | [] => True
  | (_, value) :: members => Ordered value ∧ OrderedMembers members

end

end Json

end TraitSchema
