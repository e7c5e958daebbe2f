import FaultReport.Failure

/-!
# Drafts

A failure is raised from a draft, which gathers what is known where the failure
arises.  Every part of a draft may be left out.  Edits set one part, or a text and a
cursor together, or start over with only a message.

The message of the failure is the draft's own, or else the text of its cause, or
else empty.  An eager draft works the excerpt and the cursor into that message at
once, so that they stay as they were when later updates change the failure.

Raising leaves one event.  The failure has no position yet.
-/

set_option autoImplicit false

namespace FaultReport

/-- What is known of a failure before it is raised. -/
structure Draft where
  message : Option String
  text : Option String
  cursor : Option Nat
  cause : Option Cause
  findings : Option (List Finding)
  eager : Bool
  deriving DecidableEq, Repr

namespace Draft

/-! ## Gathering -/

/-- The draft in which nothing is known. -/
def blank : Draft where
  message := none
  text := none
  cursor := none
  cause := none
  findings := none
  eager := false

/-- The draft with a message and nothing else. -/
def ofMessage (message : String) : Draft := { blank with message := some message }

/-- Names the text of a failure and the cursor in it. -/
def inText (draft : Draft) (text : String) (cursor : Nat) : Draft :=
  { draft with text := some text, cursor := some cursor }

/-- Says whether the cursor of a failure is known, and where it is. -/
def setCursor (draft : Draft) (cursor : Option Nat) : Draft := { draft with cursor := cursor }

/-- Says whether a failure has a cause, and which. -/
def setCause (draft : Draft) (cause : Option Cause) : Draft := { draft with cause := cause }

/-- Says whether there are findings, and which. -/
def setFindings (draft : Draft) (findings : Option (List Finding)) : Draft :=
  { draft with findings := findings }

/-- Chooses whether the message is formatted at once. -/
def setEager (draft : Draft) (eager : Bool) : Draft := { draft with eager := eager }

/-- One edit of a draft.  The type of causes is a parameter, so that an edit can
name a cause that is looked up later. -/
inductive Edit (κ : Type) where
  | restart (message : String)
  | inText (text : String) (cursor : Nat)
  | setMessage (message : Option String)
  | setText (text : Option String)
  | setCursor (cursor : Option Nat)
  | setCause (cause : Option κ)
  | setFindings (findings : Option (List Finding))
  | setEager (eager : Bool)
  deriving DecidableEq, Repr

/-- Looks up the cause that an edit names. -/
def Edit.map {κ μ : Type} (resolve : κ → μ) : Edit κ → Edit μ
  | .restart message => .restart message
  | .inText text cursor => .inText text cursor
  | .setMessage message => .setMessage message
  | .setText text => .setText text
  | .setCursor cursor => .setCursor cursor
  | .setCause cause => .setCause (cause.map resolve)
  | .setFindings findings => .setFindings findings
  | .setEager eager => .setEager eager

/-- The draft after one edit. -/
def edit (draft : Draft) : Edit Cause → Draft
  | .restart message => ofMessage message
  | .inText text cursor => draft.inText text cursor
  | .setMessage message => { draft with message := message }
  | .setText text => { draft with text := text }
  | .setCursor cursor => draft.setCursor cursor
  | .setCause cause => draft.setCause cause
  | .setFindings findings => draft.setFindings findings
  | .setEager eager => draft.setEager eager

/-- The draft that edits make from nothing. -/
def ofEdits (edits : List (Edit Cause)) : Draft := edits.foldl edit blank

/-! ## Raising -/

/-- The offset of the cursor. -/
def cursorOffset (draft : Draft) : Int := Cursor.offset draft.cursor

/-- The message to start from: the draft's own, or else the text of its cause. -/
def statement (draft : Draft) : String :=
  match draft.message, draft.cause with
  | some message, _ => message
  | none, some cause => cause.render
  | none, none => ""

/-- A message with the excerpt and the cursor worked into it. -/
def eagerText (statement : String) (excerpt : String) (cursor : Int) : String :=
  "Failed to compile:\n[Error: " ++ statement ++ "]\n[Near: \x7b ... " ++ excerpt ++
    " ... \x7d ]\n[Position: " ++ Int.repr cursor ++ "]"

/-- The message of the failure that a draft raises. -/
def raisedMessage (draft : Draft) : String :=
  if draft.eager then
    eagerText draft.statement (excerpt draft.text draft.cursorOffset) draft.cursorOffset
  else
    draft.statement

/-- The report of the failure that a draft raises. -/
def report (draft : Draft) : Report where
  message := draft.raisedMessage
  text := draft.text
  cursor := draft.cursor
  line := none
  column := none
  findings := draft.findings

/-- Raises the failure of a draft, and tells of it. -/
def raise (draft : Draft) : Traced Failure := do
  Traced.emit (.raised draft.cursorOffset draft.text.isSome draft.cause.isSome draft.eager)
  return ⟨draft.report, draft.cause⟩

theorem message_raise_of_eager {draft : Draft} (eager : draft.eager = true) :
    draft.raise.value.report.message =
      eagerText draft.statement (excerpt draft.text draft.cursorOffset) draft.cursorOffset :=
  if_pos eager

end Draft

end FaultReport
