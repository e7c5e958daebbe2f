import FaultReport.Cause

/-!
# Failures

A failure is a report together with its cause.  Updates change the report and
leave the cause alone.  A failure can itself become a cause: its report is then the
first link, followed by the links of its own cause.
-/

set_option autoImplicit false

namespace FaultReport

/-- A report, and what caused it. -/
structure Failure where
  report : Report
  cause : Option Cause
  deriving DecidableEq, Repr

namespace Failure

/-- The failure that says nothing and has no cause.  Making it leaves no trace. -/
def blank : Failure := ⟨Report.blank, none⟩

/-- The chain of causes, the direct one first. -/
def chain (failure : Failure) : List Link := Cause.chainOf failure.cause

/-- A failure as the cause of another. -/
def asCause (failure : Failure) : Cause := ⟨.failure failure.report, failure.chain⟩

/-- The failure after one change to its report. -/
def update (failure : Failure) (change : Report.Update) : Traced Failure := do
  let report ← failure.report.update change
  return { failure with report := report }

/-- The failure after some changes, one after the other. -/
def updates (failure : Failure) (changes : List Report.Update) : Traced Failure :=
  changes.foldlM update failure

theorem events_update (failure : Failure) (change : Report.Update) :
    (failure.update change).events = (failure.report.update change).events :=
  List.append_nil _

theorem value_updates_cons (failure : Failure) (change : Report.Update)
    (rest : List Report.Update) :
    (failure.updates (change :: rest)).value =
      ((failure.update change).value.updates rest).value := rfl

theorem events_updates_cons (failure : Failure) (change : Report.Update)
    (rest : List Report.Update) :
    (failure.updates (change :: rest)).events =
      (failure.update change).events ++ ((failure.update change).value.updates rest).events := rfl

theorem value_updates_concat (failure : Failure) (changes : List Report.Update)
    (change : Report.Update) :
    (failure.updates (changes ++ [change])).value =
      ((failure.updates changes).value.update change).value := by
  induction changes generalizing failure with
  | nil => rfl
  | cons first rest ih => rw [List.cons_append, value_updates_cons, ih, value_updates_cons]

theorem events_updates_concat (failure : Failure) (changes : List Report.Update)
    (change : Report.Update) :
    (failure.updates (changes ++ [change])).events =
      (failure.updates changes).events ++
        ((failure.updates changes).value.update change).events := by
  induction changes generalizing failure with
  | nil => exact List.append_nil _
  | cons first rest ih =>
    rw [List.cons_append, events_updates_cons, ih, events_updates_cons, value_updates_cons,
      List.append_assoc]

@[simp]
theorem chain_asCause (failure : Failure) :
    failure.asCause.chain = .failure failure.report :: failure.chain := rfl

end Failure

end FaultReport
