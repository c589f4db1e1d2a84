namespace TraitSchema

inductive Operation where
  | add
  | alter
  | extract
deriving DecidableEq, Repr

namespace Operation

def all : List Operation := [.add, .alter, .extract]

def label : Operation → String
  | .add => "add"
  | .alter => "alter"
  | .extract => "extract"

end Operation

structure OperationSet where
  add : Bool
  alter : Bool
  extract : Bool
deriving DecidableEq, Repr

namespace OperationSet

def empty : OperationSet := ⟨false, false, false⟩

def extractOnly : OperationSet := ⟨false, false, true⟩

def contains (ops : OperationSet) : Operation → Bool
  | .add => ops.add
  | .alter => ops.alter
  | .extract => ops.extract

def ofList (ops : List Operation) : OperationSet :=
  ⟨ops.contains .add, ops.contains .alter, ops.contains .extract⟩

/-- The operations in the set, in the order of their labels. -/
def toList (ops : OperationSet) : List Operation := Operation.all.filter ops.contains

end OperationSet

inductive OperationPolicy where
  | full
  /-- All but adding: such profiles are only ever altered. -/
  | alterExtract
deriving DecidableEq, Repr

def OperationPolicy.permits : OperationPolicy → Operation → Bool
  | .full, _ => true
  | .alterExtract, op => op != .add

end TraitSchema
