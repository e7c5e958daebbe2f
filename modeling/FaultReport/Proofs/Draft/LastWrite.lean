import FaultReport.Proofs.Failure.LastWrite
import Mathlib.Data.List.DropRight

/-!
# Drafts and last writes

Edits of a draft come in any order and overlap in the fields that they write: naming a text
also sets the cursor, and starting over drops everything that was set before. What is raised
depends on the last write to each field since the draft was last started over, and on nothing
else.

`recent` keeps the edits since then, and `fieldAfter` finds the last of their writes to one
field. The draft that edits make holds these values (`ofEdits_eq_after`). Edits that do not
write a field can be left out without changing its value (`fieldAfter_filter`), so only the
order of the writes to each field matters, not that of writes to different ones.

The main statement gives the failure and the event that a draft raises by the last writes, and
says that drafts with the same last writes raise the same, in particular those that are edited
in another order with the writes to each field in the same one (`raise_ofEdits`).
-/

set_option autoImplicit false

namespace FaultReport

namespace Draft

variable {κ : Type}

/-! ## What one edit writes

To a field that it writes, an edit gives a value; `none` leaves the field alone. Starting over
is told apart from writing. -/

namespace Edit

/-- The message with which an edit starts a draft over. -/
def restartMessage : Edit κ → Option String
  | .restart message => some message
  | _ => none

def messageWrite : Edit κ → Option (Option String)
  | .setMessage message => some message
  | _ => none

def textWrite : Edit κ → Option (Option String)
  | .inText text _ => some (some text)
  | .setText text => some text
  | _ => none

def cursorWrite : Edit κ → Option (Option Nat)
  | .inText _ cursor => some (some cursor)
  | .setCursor cursor => some cursor
  | _ => none

def causeWrite : Edit κ → Option (Option κ)
  | .setCause cause => some cause
  | _ => none

def findingsWrite : Edit κ → Option (Option (List Finding))
  | .setFindings findings => some findings
  | _ => none

def eagerWrite : Edit κ → Option Bool
  | .setEager eager => some eager
  | _ => none

end Edit

/-! ## What edits leave behind -/

/-- The edits since a draft was last started over. -/
def recent (edits : List (Edit κ)) : List (Edit κ) :=
  edits.rtakeWhile fun edit => edit.restartMessage.isNone

/-- The message with which a draft was last started over. -/
def lastRestart (edits : List (Edit κ)) : Option String :=
  (edits.filterMap Edit.restartMessage).getLast?

/-- The last recent write to a field, or what the field held when the draft was last started
over. -/
def fieldAfter {α : Type} (fresh : Option String → α) (write : Edit κ → Option α)
    (edits : List (Edit κ)) : α :=
  lastWrite (fresh (lastRestart edits)) ((recent edits).map write)

def messageAfter (edits : List (Edit κ)) : Option String :=
  fieldAfter id Edit.messageWrite edits

def textAfter (edits : List (Edit κ)) : Option String :=
  fieldAfter (fun _ => none) Edit.textWrite edits

def cursorAfter (edits : List (Edit κ)) : Option Nat :=
  fieldAfter (fun _ => none) Edit.cursorWrite edits

def causeAfter (edits : List (Edit κ)) : Option κ :=
  fieldAfter (fun _ => none) Edit.causeWrite edits

def findingsAfter (edits : List (Edit κ)) : Option (List Finding) :=
  fieldAfter (fun _ => none) Edit.findingsWrite edits

def eagerAfter (edits : List (Edit κ)) : Bool :=
  fieldAfter (fun _ => false) Edit.eagerWrite edits

/-- The draft that the last writes make. -/
def after (edits : List (Edit Cause)) : Draft where
  message := messageAfter edits
  text := textAfter edits
  cursor := cursorAfter edits
  cause := causeAfter edits
  findings := findingsAfter edits
  eager := eagerAfter edits

/-- The message to start from: the last one set, or else the text of the last cause. -/
def statementAfter (edits : List (Edit Cause)) : String :=
  match messageAfter edits, causeAfter edits with
  | some message, _ => message
  | none, some cause => cause.render
  | none, none => ""

/-! ## One more edit -/

/-- **An edit starts over, or writes what it writes to each field and nothing else.** -/
theorem edit_eq_writes (draft : Draft) (edit : Edit Cause) :
    draft.edit edit =
      match edit.restartMessage with
      | some message => ofMessage message
      | none =>
          { message := edit.messageWrite.getD draft.message
            text := edit.textWrite.getD draft.text
            cursor := edit.cursorWrite.getD draft.cursor
            cause := edit.causeWrite.getD draft.cause
            findings := edit.findingsWrite.getD draft.findings
            eager := edit.eagerWrite.getD draft.eager } := by
  cases edit with
  | restart message => rfl
  | inText text cursor => rfl
  | setMessage message => rfl
  | setText text => rfl
  | setCursor cursor => rfl
  | setCause cause => rfl
  | setFindings findings => rfl
  | setEager eager => rfl

section Concat

variable {α : Type} (fresh : Option String → α) (write : Edit κ → Option α)
variable (edits : List (Edit κ)) {edit : Edit κ}

theorem fieldAfter_concat_restart {message : String}
    (restarts : edit.restartMessage = some message) :
    fieldAfter fresh write (edits ++ [edit]) = fresh (some message) := by
  have nothing : recent (edits ++ [edit]) = [] :=
    List.rtakeWhile_concat_neg _ _ _ (by rw [restarts]; exact nofun)
  have restarted : lastRestart (edits ++ [edit]) = some message := by
    rw [lastRestart, List.filterMap_append, List.filterMap_cons_some restarts]
    exact List.getLast?_concat
  rw [fieldAfter, nothing, restarted]
  rfl

theorem fieldAfter_concat (goesOn : edit.restartMessage = none) :
    fieldAfter fresh write (edits ++ [edit]) =
      (write edit).getD (fieldAfter fresh write edits) := by
  have kept : recent (edits ++ [edit]) = recent edits ++ [edit] :=
    List.rtakeWhile_concat_pos _ _ _ (Option.isNone_iff_eq_none.mpr goesOn)
  have started : lastRestart (edits ++ [edit]) = lastRestart edits := by
    rw [lastRestart, List.filterMap_append, List.filterMap_cons_none goesOn, List.filterMap_nil,
      List.append_nil, lastRestart]
  rw [fieldAfter, kept, started, lastWrite_map_concat, fieldAfter]

end Concat

theorem after_concat (edits : List (Edit Cause)) (edit : Edit Cause) :
    after (edits ++ [edit]) = (after edits).edit edit := by
  rw [edit_eq_writes]
  cases restart : edit.restartMessage with
  | none =>
      simp only [after, messageAfter, textAfter, cursorAfter, causeAfter, findingsAfter,
        eagerAfter, fieldAfter_concat _ _ edits restart]
  | some message =>
      simp only [after, messageAfter, textAfter, cursorAfter, causeAfter, findingsAfter,
        eagerAfter, fieldAfter_concat_restart _ _ edits restart]
      rfl

/-- **Edits make the draft that holds their last writes.** -/
theorem ofEdits_eq_after (edits : List (Edit Cause)) : ofEdits edits = after edits := by
  -- The induction takes the last edit off, since one that starts over hides all before it.
  induction edits using List.reverseRecOn with
  | nil => rfl
  | append_singleton edits edit ih =>
      rw [ofEdits, List.foldl_concat, after_concat, ← ih, ofEdits]

/-! ## Looking up causes -/

section Map

variable {μ : Type} (resolve : κ → μ)

theorem restartMessage_map (edit : Edit κ) :
    (edit.map resolve).restartMessage = edit.restartMessage := by
  cases edit <;> rfl

/-- Looking up causes before or after finding the last write makes no difference. -/
theorem fieldAfter_map {α β : Type} (change : α → β) (fresh : Option String → α)
    {write : Edit κ → Option α} {write' : Edit μ → Option β}
    (commutes : ∀ edit, write' (edit.map resolve) = (write edit).map change)
    (edits : List (Edit κ)) :
    fieldAfter (fun message => change (fresh message)) write' (edits.map (Edit.map resolve)) =
      change (fieldAfter fresh write edits) := by
  induction edits using List.reverseRecOn with
  | nil => rfl
  | append_singleton edits edit ih =>
      have same := restartMessage_map resolve edit
      rw [List.map_append, List.map_singleton]
      cases restart : edit.restartMessage with
      | some message =>
          rw [fieldAfter_concat_restart _ _ _ (same.trans restart),
            fieldAfter_concat_restart _ _ _ restart]
      | none =>
          rw [fieldAfter_concat _ _ _ (same.trans restart), fieldAfter_concat _ _ _ restart, ih,
            commutes]
          cases write edit <;> rfl

theorem causeAfter_map (edits : List (Edit κ)) :
    causeAfter (edits.map (Edit.map resolve)) = (causeAfter edits).map resolve := by
  refine fieldAfter_map resolve (Option.map resolve) (fun _ => none) ?_ edits
  intro edit
  cases edit <;> rfl

theorem eagerAfter_map (edits : List (Edit κ)) :
    eagerAfter (edits.map (Edit.map resolve)) = eagerAfter edits := by
  refine fieldAfter_map resolve id (fun _ => false) ?_ edits
  intro edit
  cases edit <;> rfl

end Map

/-! ## Edits in another order -/

/-- The fields of a draft. -/
inductive Field where
  | message
  | text
  | cursor
  | cause
  | findings
  | eager
  deriving DecidableEq, Repr

/-- Whether an edit writes a field. Starting over writes all of them. -/
def Edit.writes (edit : Edit κ) : Field → Bool
  | .message => edit.restartMessage.isSome || edit.messageWrite.isSome
  | .text => edit.restartMessage.isSome || edit.textWrite.isSome
  | .cursor => edit.restartMessage.isSome || edit.cursorWrite.isSome
  | .cause => edit.restartMessage.isSome || edit.causeWrite.isSome
  | .findings => edit.restartMessage.isSome || edit.findingsWrite.isSome
  | .eager => edit.restartMessage.isSome || edit.eagerWrite.isSome

/-- The edits that write a field, in order. -/
def writesTo (field : Field) (edits : List (Edit κ)) : List (Edit κ) :=
  edits.filter fun edit => edit.writes field

/-- **Edits that do not write a field do not matter to it.** -/
theorem fieldAfter_filter {α : Type} (fresh : Option String → α) (write : Edit κ → Option α)
    (edits : List (Edit κ)) :
    fieldAfter fresh write
        (edits.filter fun edit => edit.restartMessage.isSome || (write edit).isSome) =
      fieldAfter fresh write edits := by
  induction edits using List.reverseRecOn with
  | nil => rfl
  | append_singleton edits edit ih =>
      rw [List.filter_append]
      cases restart : edit.restartMessage with
      | some message =>
          rw [List.filter_cons_of_pos (by rw [restart]; rfl), List.filter_nil,
            fieldAfter_concat_restart _ _ _ restart, fieldAfter_concat_restart _ _ _ restart]
      | none =>
          rw [fieldAfter_concat _ _ _ restart, ← ih]
          cases written : write edit with
          | none =>
              rw [List.filter_cons_of_neg (by rw [restart, written]; exact nofun),
                List.filter_nil, List.append_nil, Option.getD_none]
          | some value =>
              rw [List.filter_cons_of_pos (by rw [restart, written]; rfl), List.filter_nil,
                fieldAfter_concat _ _ _ restart, written, Option.getD_some]

theorem fieldAfter_eq_of_filter_eq {α : Type} (fresh : Option String → α)
    (write : Edit κ → Option α) {edits other : List (Edit κ)}
    (same : (edits.filter fun edit => edit.restartMessage.isSome || (write edit).isSome) =
      other.filter fun edit => edit.restartMessage.isSome || (write edit).isSome) :
    fieldAfter fresh write edits = fieldAfter fresh write other := by
  rw [← fieldAfter_filter fresh write edits, same, fieldAfter_filter]

/-- **The last writes depend on the order of the writes to each field alone.** -/
theorem after_eq_of_writesTo_eq {edits other : List (Edit Cause)}
    (same : ∀ field, writesTo field edits = writesTo field other) : after edits = after other := by
  have message : messageAfter edits = messageAfter other :=
    fieldAfter_eq_of_filter_eq _ _ (same .message)
  have text : textAfter edits = textAfter other := fieldAfter_eq_of_filter_eq _ _ (same .text)
  have cursor : cursorAfter edits = cursorAfter other :=
    fieldAfter_eq_of_filter_eq _ _ (same .cursor)
  have cause : causeAfter edits = causeAfter other := fieldAfter_eq_of_filter_eq _ _ (same .cause)
  have findings : findingsAfter edits = findingsAfter other :=
    fieldAfter_eq_of_filter_eq _ _ (same .findings)
  have eager : eagerAfter edits = eagerAfter other := fieldAfter_eq_of_filter_eq _ _ (same .eager)
  rw [after, message, text, cursor, cause, findings, eager, after]

/-! ## Raising -/

/-- **A draft raises what its last writes say.** After any edits in any order, the failure has
text, cursor, findings and cause as they were last written since the draft was started over,
and no position. Its message is the last one set, also if that is empty, or else the text of
the cause, and with the excerpt and the cursor worked into it if that was last asked for. The
one event says the same. So edits with the same last writes raise the same failure with the
same event, and edits that differ only in the order of writes to different fields do. -/
theorem raise_ofEdits (edits : List (Edit Cause)) :
    (ofEdits edits).raise =
      { value :=
          { report :=
              { message :=
                  if eagerAfter edits then
                    "Failed to compile:\n[Error: " ++ statementAfter edits ++
                      "]\n[Near: \x7b ... " ++
                      excerpt (textAfter edits) (Cursor.offset (cursorAfter edits)) ++
                      " ... \x7d ]\n[Position: " ++
                      Int.repr (Cursor.offset (cursorAfter edits)) ++ "]"
                  else
                    statementAfter edits
                text := textAfter edits
                cursor := cursorAfter edits
                line := none
                column := none
                findings := findingsAfter edits }
            cause := causeAfter edits }
        events :=
          [.raised (Cursor.offset (cursorAfter edits)) (textAfter edits).isSome
            (causeAfter edits).isSome (eagerAfter edits)] } ∧
    (∀ other, after edits = after other → (ofEdits edits).raise = (ofEdits other).raise) ∧
    ∀ other, (∀ field, writesTo field edits = writesTo field other) →
      (ofEdits edits).raise = (ofEdits other).raise := by
  refine ⟨?_, ?_, ?_⟩
  · rw [ofEdits_eq_after]
    rfl
  · intro other same
    rw [ofEdits_eq_after, ofEdits_eq_after, same]
  · intro other same
    rw [ofEdits_eq_after, ofEdits_eq_after, after_eq_of_writesTo_eq same]

/-- Edits that start over, name a text, and then forget the message and the cursor. -/
def forgetful : List (Edit Cause) :=
  [.setCursor (some 3), .restart "lost", .setEager true, .inText "a" 1,
    .setCause (some (.plain "p")), .setMessage none, .setCursor none, .setFindings (some [])]

/-- The same edits in another order, with the writes to each field in the same one. -/
def forgetfulReordered : List (Edit Cause) :=
  [.setCursor (some 3), .restart "lost", .setFindings (some []), .setMessage none,
    .inText "a" 1, .setCursor none, .setCause (some (.plain "p")), .setEager true]

/-- What comes before starting over does not matter, and neither does the order of writes to
different fields. -/
theorem raise_ofEdits_forgetful :
    after forgetful = after forgetful.tail ∧
      (∀ field, writesTo field forgetful = writesTo field forgetfulReordered) ∧
      forgetful ≠ forgetfulReordered ∧
      (ofEdits forgetful).raise = (ofEdits forgetful.tail).raise ∧
      (ofEdits forgetful).raise = (ofEdits forgetfulReordered).raise := by
  have last : after forgetful = after forgetful.tail := by decide
  have order : ∀ field, writesTo field forgetful = writesTo field forgetfulReordered := by
    intro field
    cases field <;> decide
  obtain ⟨_, shortened, reordered⟩ := raise_ofEdits forgetful
  exact ⟨last, order, by decide, shortened _ last, reordered _ order⟩

end Draft

end FaultReport
