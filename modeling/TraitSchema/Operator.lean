namespace TraitSchema

inductive Operator where
  | set
  | add
  | remove
  | delete
deriving DecidableEq, Repr

namespace Operator

/-- Every operator, in the order in which declarations give their flags. -/
def all : List Operator := [.set, .add, .remove, .delete]

def label : Operator → String
  | .set => "set"
  | .add => "add"
  | .remove => "remove"
  | .delete => "delete"

end Operator

structure OperatorSet where
  set : Bool
  add : Bool
  remove : Bool
  delete : Bool
deriving DecidableEq, Repr

namespace OperatorSet

def contains (ops : OperatorSet) : Operator → Bool
  | .set => ops.set
  | .add => ops.add
  | .remove => ops.remove
  | .delete => ops.delete

def isEmpty (ops : OperatorSet) : Bool := !(ops.set || ops.add || ops.remove || ops.delete)

/-- The flag of the operator is raised and no other. -/
def isOnly (ops : OperatorSet) (op : Operator) : Bool :=
  Operator.all.all fun other => ops.contains other == (other == op)

def toList (ops : OperatorSet) : List Operator := Operator.all.filter ops.contains

end OperatorSet

end TraitSchema
