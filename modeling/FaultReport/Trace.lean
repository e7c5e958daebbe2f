import FaultReport.Position

/-!
# Traces

Raising a failure and giving it a position leave a trace for whoever watches.
`Traced α` is a value together with the events that making it emitted, in order.
Traced computations follow one another as a monad: the events of the second come
after those of the first (`events_bind`).
-/

set_option autoImplicit false

namespace FaultReport

/-- What a watcher is told. -/
inductive Event where
  /-- A failure was raised: the offset of its cursor, whether it names a text and
  a cause, and whether its message was formatted at once. -/
  | raised (cursor : Int) (hasText hasCause eager : Bool)
  /-- A failure was given a position. -/
  | positioned (position : Position)
  deriving DecidableEq, Repr

/-- The text of an event. -/
def Event.message : Event → String
  | .raised .. => "raising compile error"
  | .positioned _ => "annotating compile error position"

/-- A value, and the events that making it emitted. -/
structure Traced (α : Type) where
  value : α
  events : List Event
  deriving DecidableEq, Repr

namespace Traced

variable {α β : Type}

instance : Monad Traced where
  pure value := ⟨value, []⟩
  bind first next :=
    let second := next first.value
    ⟨second.value, first.events ++ second.events⟩

/-- Tells the watchers of one event. -/
def emit (event : Event) : Traced Unit := ⟨(), [event]⟩

@[simp]
theorem value_pure (value : α) : (pure value : Traced α).value = value := rfl

@[simp]
theorem events_bind (first : Traced α) (next : α → Traced β) :
    (first >>= next).events = first.events ++ (next first.value).events := rfl

end Traced

end FaultReport
