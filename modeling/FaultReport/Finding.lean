import FaultReport.LineMap

/-!
# Findings

One pass over a text can turn up several problems.  Each is a finding: an error or
a warning, with a message, and with a cursor and a position once they are known.

A finding comes about by steps.  The first reports a problem; the later ones add a
cursor or a position, or report another problem and forget the one before.
Locating a finding sets its position to that of its cursor in a text, and does
nothing to a finding without a cursor.  Steps that begin otherwise make no finding
(`ofSteps?`).
-/

set_option autoImplicit false

namespace FaultReport

/-- Whether a finding keeps the text from being used. -/
inductive Severity where
  | error
  | warning
  deriving DecidableEq, Repr

/-- What the text of a finding says before its message. -/
def Severity.marker : Severity → String
  | .error => ""
  | .warning => "WARNING: "

/-- A problem in a text. -/
structure Finding where
  severity : Severity
  message : String
  cursor : Option Nat
  line : Option Nat
  column : Option Nat
  deriving DecidableEq, Repr

namespace Finding

/-! ## Making findings -/

/-- A new finding, which stands nowhere yet. -/
def report (severity : Severity) (message : String) : Finding where
  severity := severity
  message := message
  cursor := none
  line := none
  column := none

/-- Whether a finding is an error. -/
def isError (finding : Finding) : Bool := finding.severity == .error

/-- Moves a finding to a cursor. -/
def setCursor (finding : Finding) (cursor : Nat) : Finding :=
  { finding with cursor := some cursor }

/-- Moves a finding to a position. -/
def setPosition (finding : Finding) (position : Position) : Finding :=
  { finding with line := some position.line, column := some position.column }

/-- Moves a finding that has a cursor to the position of that cursor. -/
def locate (finding : Finding) (map : LineMap) : Finding :=
  match finding.cursor with
  | none => finding
  | some cursor => finding.setPosition (map.positionAt cursor)

/-- The text of a finding: its position, a marker if it is a warning, its message. -/
def render (finding : Finding) : String :=
  "(" ++ Ordinal.render finding.line ++ "," ++ Ordinal.render finding.column ++ ") " ++
    finding.severity.marker ++ finding.message

/-! ## Steps -/

/-- One step in the making of a finding. -/
inductive Step where
  | report (severity : Severity) (message : String)
  | setCursor (cursor : Nat)
  | setPosition (position : Position)
  | locate (text : String)
  deriving DecidableEq, Repr

/-- The finding after one more step. -/
def step (finding : Finding) : Step → Finding
  | .report severity message => report severity message
  | .setCursor cursor => finding.setCursor cursor
  | .setPosition position => finding.setPosition position
  | .locate text => finding.locate (LineMap.ofText text)

/-- The findings after each of some steps. -/
def trail (finding : Finding) : List Step → List Finding
  | [] => []
  | next :: rest =>
    let changed := finding.step next
    changed :: changed.trail rest

/-- The findings after each step, if the first step reports one. -/
def trail? : List Step → Option (List Finding)
  | .report severity message :: rest =>
    let finding := report severity message
    some (finding :: finding.trail rest)
  | _ => none

/-- The finding that steps make, if the first step reports one. -/
def ofSteps? : List Step → Option Finding
  | .report severity message :: rest => some (rest.foldl step (report severity message))
  | _ => none

/-- The trail ends with what the steps make. -/
theorem getLast?_trail (finding : Finding) (steps : List Step) :
    (finding :: finding.trail steps).getLast? = some (steps.foldl step finding) := by
  induction steps generalizing finding with
  | nil => rfl
  | cons next rest ih =>
    rw [trail, List.getLast?_cons_cons, ih, List.foldl_cons]

/-- **Steps make the last finding of their trail.** -/
theorem ofSteps?_eq_getLast? (steps : List Step) :
    ofSteps? steps = (trail? steps).bind List.getLast? := by
  match steps with
  | .report severity message :: rest => exact (getLast?_trail _ rest).symm
  | [] | .setCursor _ :: _ | .setPosition _ :: _ | .locate _ :: _ => rfl

end Finding

end FaultReport
