import FaultReport.Proofs.Failure.Form
import FaultReport.Session

/-!
# Lineages

What a slot holds was made by a form and changed since. Steps copy failures from slot to slot,
so the changes that led to a failure may have been made in other slots, with any number of
unrelated steps between them.

The `lineage` of a slot collects the form and the changes that led to what it holds. Replaying
a lineage makes the failure again, with the events that its making told. The main statement is
that this is so after every session, and that these events were told in it, in the same order
(`accounts_lineages`).
-/

set_option autoImplicit false

namespace FaultReport

/-! ## Lineages of failures -/

/-- How a failure came about: the form that made it, and the changes since. -/
structure Lineage where
  form : Failure.Form Cause
  changes : List Report.Update

namespace Lineage

/-- The lineage of what a slot holds before anything is stored in it. -/
def unset : Lineage := ⟨.blank, []⟩

/-- The lineage after one more change. -/
def changed (lineage : Lineage) (change : Report.Update) : Lineage :=
  { lineage with changes := lineage.changes ++ [change] }

/-- Makes the failure again. -/
def replay (lineage : Lineage) : Traced Failure := do
  let made ← lineage.form.build
  made.updates lineage.changes

theorem value_replay_changed (lineage : Lineage) (change : Report.Update) :
    (lineage.changed change).replay.value = (lineage.replay.value.update change).value :=
  Failure.value_updates_concat _ _ _

theorem events_replay_changed (lineage : Lineage) (change : Report.Update) :
    (lineage.changed change).replay.events =
      lineage.replay.events ++ (lineage.replay.value.update change).events := by
  rw [replay, Traced.events_bind, changed, Failure.events_updates_concat, ← List.append_assoc]
  rfl

end Lineage

namespace Session

/-- All that is told in the course of some steps. -/
def trace (slots : Slots) (steps : List Step) : List Event :=
  (run slots steps).flatMap Traced.events

theorem trace_cons (slots : Slots) (step : Step) (rest : List Step) :
    trace slots (step :: rest) = (step.outcome slots).events ++ trace (step.next slots) rest :=
  List.flatMap_cons

/-! ## Lineages in a session -/

/-- The lineage of what a step makes. -/
def Step.lineage (slots : Slots) (known : String → Lineage) : Step → Lineage
  | .build _ form => ⟨form.map (CauseName.resolve slots), []⟩
  | .update source _ change => (known source).changed change

/-- The lineages of what the slots hold after a step. -/
def Step.record (slots : Slots) (known : String → Lineage) (step : Step) : String → Lineage :=
  fun name => if name = step.slot then step.lineage slots known else known name

/-- The lineages of what the slots hold after some steps. -/
def lineages (slots : Slots) (known : String → Lineage) : List Step → String → Lineage
  | [] => known
  | step :: rest => lineages (step.next slots) (step.record slots known) rest

/-- The lineage of what a slot holds after a session that begins with nothing stored. -/
def lineage (steps : List Step) (name : String) : Lineage :=
  lineages Slots.blank (fun _ => Lineage.unset) steps name

/-- Lineages account for slots and for what was told: each makes again what its slot holds, and
all that it tells was told. -/
structure Accounts (known : String → Lineage) (slots : Slots) (told : List Event) : Prop where
  value : ∀ name, (known name).replay.value = slots.get name
  events : ∀ name, (known name).replay.events.Sublist told

variable {known : String → Lineage} {slots : Slots} {told : List Event}

/-- What a step makes and tells is what its lineage makes, and tells last. -/
theorem Accounts.lineage (accounts : Accounts known slots told) (step : Step) :
    (step.lineage slots known).replay.value = (step.outcome slots).value ∧
      (step.lineage slots known).replay.events.Sublist (told ++ (step.outcome slots).events) := by
  cases step with
  | build slot form =>
      have told : ((Step.build slot form).lineage slots known).replay.events =
          ((Step.build slot form).outcome slots).events := List.append_nil _
      rw [told]
      exact ⟨rfl, List.sublist_append_right _ _⟩
  | update source slot change =>
      rw [Step.lineage, Step.outcome, Lineage.value_replay_changed,
        Lineage.events_replay_changed, accounts.value]
      exact ⟨rfl, (accounts.events source).append_right _⟩

/-- **One step keeps lineages accounting for the session.** -/
theorem Accounts.step (accounts : Accounts known slots told) (step : Step) :
    Accounts (step.record slots known) (step.next slots) (told ++ (step.outcome slots).events) := by
  obtain ⟨made, said⟩ := accounts.lineage step
  constructor
  · intro name
    by_cases stored : name = step.slot
    · rw [Step.record, if_pos stored, made, Step.next, stored, Slots.get_store_self]
    · rw [Step.record, if_neg stored, accounts.value, Step.next,
        Slots.get_store_of_ne _ _ stored]
  · intro name
    by_cases stored : name = step.slot
    · rw [Step.record, if_pos stored]
      exact said
    · rw [Step.record, if_neg stored]
      exact (accounts.events name).trans (List.sublist_append_left told _)

/-- A whole run keeps lineages accounting for the session. -/
theorem Accounts.run (accounts : Accounts known slots told) (steps : List Step) :
    Accounts (lineages slots known steps) (after slots steps) (told ++ trace slots steps) := by
  induction steps generalizing known slots told with
  | nil =>
      rw [trace, Session.run, List.flatMap_nil, List.append_nil]
      exact accounts
  | cons step rest ih =>
      rw [trace_cons, ← List.append_assoc]
      exact ih (accounts.step step)

/-- **Lineages account for every session.** -/
theorem accounts_lineages (steps : List Step) :
    Accounts (lineage steps) (after Slots.blank steps) (trace Slots.blank steps) := by
  have unset : Accounts (fun _ => Lineage.unset) Slots.blank [] :=
    ⟨fun _ => rfl, fun _ => List.Sublist.refl []⟩
  exact unset.run steps

end Session

end FaultReport
