import FaultReport.Failure.Form

/-!
# Sessions

A session makes and changes failures step by step and keeps them in named slots.
A step either makes a failure, whose cause may be the failure in some slot, or
changes a copy of the failure in one slot; the outcome goes into a slot.  A slot
holds the blank failure until something is stored in it.

A failure that becomes a cause is copied, so what later steps do to its slot does
not change the failures it caused.
-/

set_option autoImplicit false

namespace FaultReport

/-! ## Slots -/

/-- The failure in each slot. -/
def Slots : Type := String → Failure

namespace Slots

/-- Slots in which nothing is stored yet. -/
def blank : Slots := fun _ => Failure.blank

/-- The failure in a slot. -/
def get (slots : Slots) (name : String) : Failure := slots name

/-- The slots after a failure is stored in one of them. -/
def store (slots : Slots) (name : String) (failure : Failure) : Slots :=
  fun other => if other = name then failure else slots other

@[simp]
theorem get_store_self (slots : Slots) (name : String) (failure : Failure) :
    (slots.store name failure).get name = failure :=
  if_pos rfl

theorem get_store_of_ne (slots : Slots) {name other : String} (failure : Failure)
    (different : other ≠ name) : (slots.store name failure).get other = slots.get other :=
  if_neg different

end Slots

namespace Session

/-! ## Steps -/

/-- How a step names a cause: the failure in a slot, or a plain problem, perhaps
with a cause of its own. -/
inductive CauseName where
  | slot (name : String)
  | plain (text : String)
  | plainOver (text : String) (source : CauseName)
  deriving DecidableEq, Repr

/-- The cause that a name stands for. -/
def CauseName.resolve (slots : Slots) : CauseName → Cause
  | .slot name => (slots.get name).asCause
  | .plain text => Cause.plain text
  | .plainOver text source => Cause.plainOver text (source.resolve slots)

/-- One step of a session. -/
inductive Step where
  /-- Makes a failure. -/
  | build (slot : String) (form : Failure.Form CauseName)
  /-- Changes a copy of the failure in slot `source`. -/
  | update (source slot : String) (change : Report.Update)
  deriving DecidableEq, Repr

/-- The slot in which a step stores its outcome. -/
def Step.slot : Step → String
  | .build slot _ => slot
  | .update _ slot _ => slot

/-- The failure that a step makes. -/
def Step.outcome (slots : Slots) : Step → Traced Failure
  | .build _ form => (form.map (CauseName.resolve slots)).build
  | .update source _ change => (slots.get source).update change

/-- The slots after a step. -/
def Step.next (slots : Slots) (step : Step) : Slots :=
  slots.store step.slot (step.outcome slots).value

/-- The outcomes of some steps, in order. -/
def run (slots : Slots) : List Step → List (Traced Failure)
  | [] => []
  | step :: rest =>
    let outcome := step.outcome slots
    outcome :: run (slots.store step.slot outcome.value) rest

/-- The slots after some steps. -/
def after (slots : Slots) (steps : List Step) : Slots := steps.foldl Step.next slots

theorem after_append (slots : Slots) (first second : List Step) :
    after slots (first ++ second) = after (after slots first) second :=
  List.foldl_append

theorem get_after_concat (slots : Slots) (steps : List Step) (step : Step) :
    (after slots (steps ++ [step])).get step.slot = (step.outcome (after slots steps)).value := by
  rw [after_append]
  exact Slots.get_store_self _ _ _

theorem get_after_concat_of_ne (slots : Slots) (steps : List Step) (step : Step) {name : String}
    (elsewhere : name ≠ step.slot) :
    (after slots (steps ++ [step])).get name = (after slots steps).get name := by
  rw [after_append]
  exact Slots.get_store_of_ne _ _ elsewhere

end Session

end FaultReport
