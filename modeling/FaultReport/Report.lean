import FaultReport.Cursor
import FaultReport.Excerpt
import FaultReport.Finding
import FaultReport.Trace

/-!
# Reports

A report says what went wrong, and, as far as it is known, in which text, at which
cursor and position, and which findings led to it.  Its text shows the message, an
excerpt of the text around the cursor, and the position once there is a line.

The excerpt is taken anew each time the report is shown, so it follows later
updates of the text and the cursor.  The message is kept as it is.

`update` makes one change to a report.  Setting a whole position leaves an event;
all other changes are silent.  Locating a report sets its position to that of its
cursor and changes nothing where the cursor is unknown, and locating it in its own
text needs that text as well.
-/

set_option autoImplicit false

namespace FaultReport

/-- What went wrong, and what is known of where. -/
structure Report where
  message : String
  text : Option String
  cursor : Option Nat
  line : Option Nat
  column : Option Nat
  findings : Option (List Finding)
  deriving DecidableEq, Repr

namespace Report

/-- The report that says nothing. -/
def blank : Report where
  message := ""
  text := none
  cursor := none
  line := none
  column := none
  findings := none

/-! ## Showing a report -/

/-- The offset of the cursor. -/
def cursorOffset (report : Report) : Int := Cursor.offset report.cursor

/-- The excerpt of the text around the cursor. -/
def excerpt (report : Report) : String :=
  FaultReport.excerpt report.text report.cursorOffset

/-- The findings to list.  There are none where none were ever attached. -/
def listed (report : Report) : List Finding := report.findings.getD []

/-- The line that shows the position, if there is a line number. -/
def positionText (report : Report) : String :=
  match report.line with
  | none => ""
  | some line =>
    "\n[Line: " ++ Nat.repr line ++ ", Column: " ++ Ordinal.render report.column ++ "]"

/-- The text of a report. -/
def render (report : Report) : String :=
  "[Error: " ++ report.message ++ "]\n[Near : \x7b... " ++ report.excerpt ++ " ....\x7d]" ++
    report.positionText

/-! ## Changing a report -/

/-- Gives a report a position, and tells of it. -/
def setPosition (report : Report) (position : Position) : Traced Report := do
  Traced.emit (.positioned position)
  return { report with line := some position.line, column := some position.column }

/-- Gives a report the position of its cursor, if it has one. -/
def locate (report : Report) (map : LineMap) : Traced Report :=
  match report.cursor with
  | none => pure report
  | some cursor => report.setPosition (map.positionAt cursor)

/-- Gives a report the position of its cursor in its own text, if it has both. -/
def locateInText (report : Report) : Traced Report :=
  match report.text with
  | none => pure report
  | some text => report.locate (LineMap.ofText text)

/-- One change to a report. -/
inductive Update where
  | keep
  | setCursor (cursor : Option Nat)
  | setText (text : Option String)
  | setLine (line : Nat)
  | setColumn (column : Nat)
  | setPosition (position : Position)
  | setFindings (findings : List Finding)
  | locate (text : String)
  | locateInText
  deriving DecidableEq, Repr

/-- The report after one change. -/
def update (report : Report) : Update → Traced Report
  | .keep => pure report
  | .setCursor cursor => pure { report with cursor := cursor }
  | .setText text => pure { report with text := text }
  | .setLine line => pure { report with line := some line }
  | .setColumn column => pure { report with column := some column }
  | .setPosition position => report.setPosition position
  | .setFindings findings => pure { report with findings := some findings }
  | .locate text => report.locate (LineMap.ofText text)
  | .locateInText => report.locateInText

end Report

end FaultReport
