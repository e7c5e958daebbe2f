import FaultReport.Draft
import Mathlib.Data.List.Infix

/-!
# Updates and last writes

Updates to a failure come in any order and overlap in the fields that they write. What they
leave behind depends on the last write to each field alone. Text, cursor and findings are
written by one kind of change each. Line and column are written by four, and two of those
write only where there is something to locate: locating writes if the cursor is known at
that step, and locating in the failure's own text if the text is known as well.

`Update.textWrite` and its companions say what one change writes to each field, given the
text and the cursor at that step, and `value_update` says that a change does nothing else.
So every field holds the last write to it, and one argument does for all of them
(`fieldAfter_cons`), also where what is written depends on text and cursor
(`placeAfter_cons`). Since the text and the cursor at a step are themselves last writes, of
the changes before it, no report in between is mentioned.

The main statement is that a run of changes leaves behind the last writes, and so the
message and the causes as they were (`updates_eq_lastWrites`). The text of the outcome follows
from them: its excerpt is that of the last text and cursor, while a message that was formatted
when the failure was raised still shows the first.
-/

set_option autoImplicit false

namespace FaultReport

/-- The value of a field after some writes, each of which may leave it alone. -/
def lastWrite {α : Type} (initial : α) (writes : List (Option α)) : α :=
  (writes.filterMap id).getLast?.getD initial

theorem lastWrite_cons {α : Type} (initial : α) (write : Option α) (rest : List (Option α)) :
    lastWrite initial (write :: rest) = lastWrite (write.getD initial) rest := by
  cases write with
  | none => rfl
  | some value =>
      have made : (some value :: rest).filterMap id = value :: rest.filterMap id := rfl
      rw [lastWrite, made, List.getLast?_cons]
      rfl

theorem lastWrite_concat {α : Type} (initial : α) (earlier : List (Option α))
    (write : Option α) :
    lastWrite initial (earlier ++ [write]) = write.getD (lastWrite initial earlier) := by
  induction earlier generalizing initial with
  | nil => exact lastWrite_cons initial write []
  | cons first rest ih => rw [List.cons_append, lastWrite_cons, ih, lastWrite_cons]

/-- The last of some operations decides, if it writes to the field. -/
theorem lastWrite_map_concat {α β : Type} (initial : α) (write : β → Option α)
    (earlier : List β) (last : β) :
    lastWrite initial ((earlier ++ [last]).map write) =
      (write last).getD (lastWrite initial (earlier.map write)) := by
  rw [List.map_append, List.map_singleton, lastWrite_concat]

namespace Report

/-! ## What one change writes

To a field that it writes, a change gives a value; `none` leaves the field alone. For line
and column this depends on the text and the cursor at that step. -/

namespace Update

def textWrite : Update → Option (Option String)
  | .setText text => some text
  | _ => none

def cursorWrite : Update → Option (Option Nat)
  | .setCursor cursor => some cursor
  | _ => none

def findingsWrite : Update → Option (Option (List Finding))
  | .setFindings findings => some (some findings)
  | _ => none

/-- The position that a change writes to a report with this text and cursor. -/
def positionWrite (text : Option String) (cursor : Option Nat) : Update → Option Position
  | .setPosition position => some position
  | .locate source => cursor.map (LineMap.ofText source).positionAt
  | .locateInText => text.bind fun source => cursor.map (LineMap.ofText source).positionAt
  | _ => none

def lineWrite (text : Option String) (cursor : Option Nat) : Update → Option (Option Nat)
  | .setLine line => some (some line)
  | change => (change.positionWrite text cursor).map fun position => some position.line

def columnWrite (text : Option String) (cursor : Option Nat) : Update → Option (Option Nat)
  | .setColumn column => some (some column)
  | change => (change.positionWrite text cursor).map fun position => some position.column

end Update

/-- **A change writes what it writes to each field, and nothing else.** -/
theorem value_update (report : Report) (change : Update) :
    (report.update change).value =
      { message := report.message
        text := change.textWrite.getD report.text
        cursor := change.cursorWrite.getD report.cursor
        line := (change.lineWrite report.text report.cursor).getD report.line
        column := (change.columnWrite report.text report.cursor).getD report.column
        findings := change.findingsWrite.getD report.findings } := by
  obtain ⟨message, text, cursor, line, column, findings⟩ := report
  cases change with
  | keep => rfl
  | setCursor cursor => rfl
  | setText text => rfl
  | setLine line => rfl
  | setColumn column => rfl
  | setPosition position => rfl
  | setFindings findings => rfl
  | locate source => cases cursor <;> rfl
  | locateInText => cases text <;> cases cursor <;> rfl

/-! ## What a run of changes leaves behind

Each field holds what was last written to it, or what it held before. -/

/-- The last write to a field, or what the field held before. -/
def fieldAfter {α : Type} (read : Report → α) (write : Update → Option α) (report : Report)
    (changes : List Update) : α :=
  lastWrite (read report) (changes.map write)

def textAfter (report : Report) (changes : List Update) : Option String :=
  report.fieldAfter text Update.textWrite changes

def cursorAfter (report : Report) (changes : List Update) : Option Nat :=
  report.fieldAfter cursor Update.cursorWrite changes

def findingsAfter (report : Report) (changes : List Update) : Option (List Finding) :=
  report.fieldAfter findings Update.findingsWrite changes

/-- What each change writes to a field, where that depends on the text and the cursor that
the changes before it leave behind. -/
def writesAlong {α : Type} (write : Option String → Option Nat → Update → Option α)
    (report : Report) (changes : List Update) : List (Option α) :=
  List.zipWith (fun earlier => write (report.textAfter earlier) (report.cursorAfter earlier))
    changes.inits changes

/-- The last write to such a field, or what the field held before. -/
def placeAfter {α : Type} (read : Report → α)
    (write : Option String → Option Nat → Update → Option α) (report : Report)
    (changes : List Update) : α :=
  lastWrite (read report) (report.writesAlong write changes)

def lineAfter (report : Report) (changes : List Update) : Option Nat :=
  report.placeAfter line Update.lineWrite changes

def columnAfter (report : Report) (changes : List Update) : Option Nat :=
  report.placeAfter column Update.columnWrite changes

/-- The report that the last writes make. -/
def after (report : Report) (changes : List Update) : Report where
  message := report.message
  text := report.textAfter changes
  cursor := report.cursorAfter changes
  line := report.lineAfter changes
  column := report.columnAfter changes
  findings := report.findingsAfter changes

section Cons

variable (report : Report) (change : Update) (rest : List Update)

/-- What the first change leaves in a field is what the others find there. -/
theorem fieldAfter_cons {α : Type} {read : Report → α} {write : Update → Option α}
    (written : read (report.update change).value = (write change).getD (read report)) :
    report.fieldAfter read write (change :: rest) =
      (report.update change).value.fieldAfter read write rest := by
  rw [fieldAfter, List.map_cons, lastWrite_cons, ← written, fieldAfter]

theorem writesAlong_cons {α : Type} (write : Option String → Option Nat → Update → Option α) :
    report.writesAlong write (change :: rest) =
      write report.text report.cursor change ::
        (report.update change).value.writesAlong write rest := by
  have text earlier := report.fieldAfter_cons change earlier
    (congrArg Report.text (value_update report change))
  have cursor earlier := report.fieldAfter_cons change earlier
    (congrArg Report.cursor (value_update report change))
  simp only [writesAlong, List.inits_cons, List.zipWith_cons_cons, List.zipWith_map_left,
    textAfter, cursorAfter, text, cursor]
  rfl

/-- The same where what a change writes depends on text and cursor. -/
theorem placeAfter_cons {α : Type} {read : Report → α}
    {write : Option String → Option Nat → Update → Option α}
    (written : read (report.update change).value =
      (write report.text report.cursor change).getD (read report)) :
    report.placeAfter read write (change :: rest) =
      (report.update change).value.placeAfter read write rest := by
  rw [placeAfter, writesAlong_cons, lastWrite_cons, ← written, placeAfter]

theorem after_cons : report.after (change :: rest) = (report.update change).value.after rest := by
  have value := value_update report change
  have message : report.message = (report.update change).value.message :=
    (congrArg Report.message value).symm
  have text := report.fieldAfter_cons change rest (congrArg Report.text value)
  have cursor := report.fieldAfter_cons change rest (congrArg Report.cursor value)
  have line := report.placeAfter_cons change rest (congrArg Report.line value)
  have column := report.placeAfter_cons change rest (congrArg Report.column value)
  have findings := report.fieldAfter_cons change rest (congrArg Report.findings value)
  rw [after, textAfter, cursorAfter, lineAfter, columnAfter, findingsAfter, message, text, cursor,
    line, column, findings]
  rfl

end Cons

end Report

namespace Failure

/-! ## Runs of updates -/

theorem value_updates (failure : Failure) (changes : List Report.Update) :
    (failure.updates changes).value = ⟨failure.report.after changes, failure.cause⟩ := by
  induction changes generalizing failure with
  | nil => rfl
  | cons change rest ih =>
      rw [value_updates_cons, ih, Report.after_cons]
      rfl

/-- **Updates leave the last writes behind.** After any changes in any order, a failure has
the message and the causes that it had, and in every other field what was last written to
it. It lists the findings last written, or none. Its text shows that message, an excerpt of
the last text at the last cursor, and the position once a line was written. In particular a
message that was formatted when the failure was raised keeps the excerpt and the cursor of
the draft. -/
theorem updates_eq_lastWrites (failure : Failure) (changes : List Report.Update) :
    (failure.updates changes).value.cause = failure.cause ∧
    (failure.updates changes).value.chain = failure.chain ∧
    (failure.updates changes).value.report =
      { message := failure.report.message
        text := failure.report.textAfter changes
        cursor := failure.report.cursorAfter changes
        line := failure.report.lineAfter changes
        column := failure.report.columnAfter changes
        findings := failure.report.findingsAfter changes } ∧
    (failure.updates changes).value.report.listed =
      (failure.report.findingsAfter changes).getD [] ∧
    (failure.updates changes).value.report.render =
      "[Error: " ++ failure.report.message ++ "]\n[Near : \x7b... " ++
        excerpt (failure.report.textAfter changes)
          (Cursor.offset (failure.report.cursorAfter changes)) ++ " ....\x7d]" ++
        (match failure.report.lineAfter changes with
        | none => ""
        | some line =>
            "\n[Line: " ++ Nat.repr line ++ ", Column: " ++
              (match failure.report.columnAfter changes with
              | none => "-1"
              | some column => Nat.repr column) ++ "]") ∧
    ∀ draft : Draft, draft.eager = true → failure = draft.raise.value →
      (failure.updates changes).value.report.message =
        Draft.eagerText draft.statement (excerpt draft.text draft.cursorOffset)
          draft.cursorOffset := by
  rw [value_updates]
  refine ⟨rfl, rfl, rfl, rfl, rfl, ?_⟩
  intro draft eager raised
  have formatted : draft.raise.value.report.message =
      Draft.eagerText draft.statement (excerpt draft.text draft.cursorOffset)
        draft.cursorOffset := if_pos eager
  rw [← formatted, raised]
  rfl

end Failure

end FaultReport
