import FaultReport.Draft

/-!
# Ways to raise a failure

Most failures need only a few parts of a draft.  Each function here raises a
failure from the parts that it takes.  A form is the choice of one of them together
with its parts, and `Form.build` makes the failure.  Every form but `blank` goes
through a draft and so leaves exactly one event.
-/

set_option autoImplicit false

namespace FaultReport

namespace Failure

/-- A failure of which nothing is known. -/
def unspecified : Traced Failure := Draft.blank.raise

/-- A failure with a message. -/
def ofMessage (message : String) : Traced Failure := (Draft.ofMessage message).raise

/-- A failure with the findings that led to it. -/
def ofFindings (message : String) (findings : List Finding) : Traced Failure :=
  ((Draft.ofMessage message).setFindings (some findings)).raise

/-- A failure at a cursor of a text that is not at hand. -/
def ofMessageAt (message : String) (cursor : Nat) : Traced Failure :=
  ((Draft.ofMessage message).setCursor (some cursor)).raise

/-- A failure at a cursor of a text. -/
def inText (message text : String) (cursor : Nat) : Traced Failure :=
  ((Draft.ofMessage message).inText text cursor).raise

/-- A failure at a cursor of a text, with a cause. -/
def inTextOver (message text : String) (cursor : Nat) (cause : Cause) : Traced Failure :=
  (((Draft.ofMessage message).inText text cursor).setCause (some cause)).raise

/-- A failure at a cursor of a text, perhaps with a cause, whose message may be
formatted at once. -/
def inTextFormatted (message text : String) (cursor : Nat) (eager : Bool) (cause : Option Cause) :
    Traced Failure :=
  ((((Draft.ofMessage message).setCause cause).inText text cursor).setEager eager).raise

/-- A failure with a message and a cause. -/
def ofMessageOver (message : String) (cause : Cause) : Traced Failure :=
  ((Draft.ofMessage message).setCause (some cause)).raise

/-- A failure that repeats the text of its cause. -/
def ofCause (cause : Cause) : Traced Failure := (Draft.blank.setCause (some cause)).raise

/-- A way to make a failure, and the parts that it takes.  The type of causes is a
parameter, so that a form can name a cause that is looked up later. -/
inductive Form (κ : Type) where
  | blank
  | unspecified
  | ofMessage (message : String)
  | ofFindings (message : String) (findings : List Finding)
  | ofMessageAt (message : String) (cursor : Nat)
  | inText (message text : String) (cursor : Nat)
  | inTextOver (message text : String) (cursor : Nat) (cause : κ)
  | inTextFormatted (message text : String) (cursor : Nat) (eager : Bool) (cause : Option κ)
  | ofMessageOver (message : String) (cause : κ)
  | ofCause (cause : κ)
  | drafted (edits : List (Draft.Edit κ))
  deriving DecidableEq, Repr

namespace Form

/-- Looks up the causes that a form names. -/
def map {κ μ : Type} (resolve : κ → μ) : Form κ → Form μ
  | .blank => .blank
  | .unspecified => .unspecified
  | .ofMessage message => .ofMessage message
  | .ofFindings message findings => .ofFindings message findings
  | .ofMessageAt message cursor => .ofMessageAt message cursor
  | .inText message text cursor => .inText message text cursor
  | .inTextOver message text cursor cause =>
    .inTextOver message text cursor (resolve cause)
  | .inTextFormatted message text cursor eager cause =>
    .inTextFormatted message text cursor eager (cause.map resolve)
  | .ofMessageOver message cause => .ofMessageOver message (resolve cause)
  | .ofCause cause => .ofCause (resolve cause)
  | .drafted edits => .drafted (edits.map (Draft.Edit.map resolve))

/-- The failure that a form makes. -/
def build : Form Cause → Traced Failure
  | .blank => pure Failure.blank
  | .unspecified => Failure.unspecified
  | .ofMessage message => Failure.ofMessage message
  | .ofFindings message findings => Failure.ofFindings message findings
  | .ofMessageAt message cursor => Failure.ofMessageAt message cursor
  | .inText message text cursor => Failure.inText message text cursor
  | .inTextOver message text cursor cause =>
    Failure.inTextOver message text cursor cause
  | .inTextFormatted message text cursor eager cause =>
    Failure.inTextFormatted message text cursor eager cause
  | .ofMessageOver message cause => Failure.ofMessageOver message cause
  | .ofCause cause => Failure.ofCause cause
  | .drafted edits => (Draft.ofEdits edits).raise

end Form

end Failure

end FaultReport
