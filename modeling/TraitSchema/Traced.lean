import TraitSchema.Event

namespace TraitSchema

structure Traced (α : Type) where
  events : List Event
  outcome : Except SchemaError α

namespace Traced

variable {α β : Type}

protected def pure (x : α) : Traced α := ⟨[], .ok x⟩

/-- One step after another; an error ends both. -/
protected def bind (step : Traced α) (next : α → Traced β) : Traced β :=
  match step.outcome with
  | .ok x => ⟨step.events ++ (next x).events, (next x).outcome⟩
  | .error e => ⟨step.events, .error e⟩

instance : Monad Traced where
  pure := Traced.pure
  bind := Traced.bind

def report (event : Event) : Traced Unit := ⟨[event], .ok ()⟩

def fail (e : SchemaError) : Traced α := ⟨[], .error e⟩

end Traced

inductive Mode where
  | strict
  | lenient
deriving DecidableEq, Repr

/-- Stops with an error in strict mode and reports an event in lenient mode. -/
def Mode.violation (mode : Mode) (e : SchemaError) (event : Event) : Traced Unit :=
  match mode with
  | .strict => .fail e
  | .lenient => .report event

end TraitSchema
