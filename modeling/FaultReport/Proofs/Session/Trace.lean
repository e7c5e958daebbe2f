import FaultReport.Proofs.Session.Lineage

/-!
# What a session tells

Raising a failure and giving it a position are told, once each, and nothing else is. Forms
raise by way of a draft and locating sets a position by way of a map, but none of them tells of
it twice. An update that finds nothing to locate is silent.

`Step.announced` says what a step tells, read off the failure that it makes. The main statement
is that a session tells exactly what its steps announce, in order (`trace_eq_announced`). It
follows that the position of a failure was told: as long as line and column were never set
alone, the last position told in its lineage is the one it has (`standsAt_replay`).
-/

set_option autoImplicit false

namespace FaultReport

/-! ## Positions that are told -/

/-- The position that an event tells of. -/
def Event.position? : Event → Option Position
  | .positioned position => some position
  | .raised .. => none

/-- The last position that some events tell of. -/
def lastPosition (events : List Event) : Option Position :=
  (events.filterMap Event.position?).getLast?

theorem lastPosition_append (events : List Event) (told : Option Position) :
    lastPosition (events ++ (told.map Event.positioned).toList) =
      told.or (lastPosition events) := by
  rw [lastPosition, List.filterMap_append]
  cases told with
  | none => exact congrArg List.getLast? (List.append_nil _)
  | some position => exact List.getLast?_concat

namespace Report

/-- The position of a report that has both a line and a column. -/
def position? (report : Report) : Option Position :=
  match report.line, report.column with
  | some line, some column => some ⟨line, column⟩
  | _, _ => none

/-- A report has the line and the column of a position, or neither if there is none. -/
def StandsAt (report : Report) (position : Option Position) : Prop :=
  report.line = position.map Position.line ∧ report.column = position.map Position.column

namespace Update

/-- Whether a change gives a report a position: one that is stated is always given, and one
that has to be found is given if there is something to locate. -/
def places (report : Report) : Update → Bool
  | .setPosition _ => true
  | .locate _ => report.cursor.isSome
  | .locateInText => report.text.isSome && report.cursor.isSome
  | _ => false

/-- Whether a change never sets one of line and column without the other. -/
def setsTogether : Update → Bool
  | .setLine _ => false
  | .setColumn _ => false
  | _ => true

theorem isSome_positionWrite (report : Report) (change : Update) :
    (change.positionWrite report.text report.cursor).isSome = change.places report := by
  obtain ⟨message, text, cursor, line, column, findings⟩ := report
  cases change with
  | locate source => cases cursor <;> rfl
  | locateInText => cases text <;> cases cursor <;> rfl
  | _ => rfl

variable {text : Option String} {cursor : Option Nat} {change : Update}

/-- A change that sets line and column together writes a position to them or nothing. -/
theorem writes_of_setsTogether (together : change.setsTogether = true) :
    change.lineWrite text cursor =
        (change.positionWrite text cursor).map (fun position => some position.line) ∧
      change.columnWrite text cursor =
        (change.positionWrite text cursor).map fun position => some position.column := by
  cases change with
  | setLine line => contradiction
  | setColumn column => contradiction
  | _ => exact ⟨rfl, rfl⟩

theorem setsTogether_of_positionWrite {position : Position}
    (writes : change.positionWrite text cursor = some position) : change.setsTogether = true := by
  cases change with
  | setLine line => contradiction
  | setColumn column => contradiction
  | _ => rfl

end Update

variable (report : Report) (change : Update)

/-- **A change tells of the position that it writes, and of nothing else.** -/
theorem events_update :
    (report.update change).events =
      ((change.positionWrite report.text report.cursor).map Event.positioned).toList := by
  obtain ⟨message, text, cursor, line, column, findings⟩ := report
  cases change with
  | locate source => cases cursor <;> rfl
  | locateInText => cases text <;> cases cursor <;> rfl
  | _ => rfl

/-- **A change that sets line and column together** moves a report to the position that it
writes, or leaves it where it stands. -/
theorem StandsAt.update {report : Report} {position : Option Position}
    (stands : report.StandsAt position) {change : Update}
    (together : change.setsTogether = true) :
    (report.update change).value.StandsAt
      ((change.positionWrite report.text report.cursor).or position) := by
  obtain ⟨line, column⟩ := Update.writes_of_setsTogether together
  rw [value_update, line, column]
  cases change.positionWrite report.text report.cursor with
  | none => exact stands
  | some position => exact ⟨rfl, rfl⟩

theorem position?_update {change : Update} {position : Position}
    (writes : change.positionWrite report.text report.cursor = some position) :
    (report.update change).value.position? = some position := by
  obtain ⟨line, column⟩ :=
    Update.writes_of_setsTogether (Update.setsTogether_of_positionWrite writes)
  rw [value_update, line, column, writes]
  rfl

end Report

/-! ## The position of a failure and its lineage -/

namespace Lineage

theorem lastPosition_build (form : Failure.Form Cause) : lastPosition form.build.events = none := by
  by_cases made : form = .blank
  · rw [made]
    rfl
  · rw [Failure.Form.events_build made]
    rfl

/-- **The position of a failure is the last one told in its lineage**, if line and column were
always set together. -/
theorem standsAt_replay (form : Failure.Form Cause) (changes : List Report.Update)
    (together : ∀ change ∈ changes, change.setsTogether = true) :
    (replay ⟨form, changes⟩).value.report.StandsAt
      (lastPosition (replay ⟨form, changes⟩).events) := by
  induction changes using List.reverseRecOn with
  | nil =>
      have told : (replay ⟨form, []⟩).events = form.build.events := List.append_nil _
      rw [told, lastPosition_build]
      exact form.no_position_build
  | append_singleton changes change ih =>
      have before := ih fun earlier member => together earlier (List.mem_append_left _ member)
      have value : (replay ⟨form, changes ++ [change]⟩).value.report =
          ((replay ⟨form, changes⟩).value.report.update change).value :=
        congrArg Failure.report (value_replay_changed ⟨form, changes⟩ change)
      have events := events_replay_changed ⟨form, changes⟩ change
      rw [Failure.events_update, Report.events_update, changed] at events
      rw [value, events, lastPosition_append]
      exact before.update (together change List.mem_concat_self)

end Lineage

namespace Session

/-! ## What a step tells -/

/-- What a step tells, given the slots before it and the failure that it makes. -/
def Step.announced (slots : Slots) (made : Failure) : Step → List Event
  | .build _ .blank => []
  | .build _ form =>
    [.raised made.report.cursorOffset made.report.text.isSome made.cause.isSome form.eager]
  | .update source _ change =>
    if change.places (slots.get source).report then
      (made.report.position?.map Event.positioned).toList
    else
      []

/-- What each of some steps tells. -/
def announced (slots : Slots) : List Step → List (List Event)
  | [] => []
  | step :: rest =>
    step.announced slots ((step.next slots).get step.slot) :: announced (step.next slots) rest

/-- A change that gives a position makes a failure that has one. -/
theorem isSome_position?_outcome (slots : Slots) (source slot : String) (change : Report.Update)
    (places : change.places (slots.get source).report = true) :
    ((Step.update source slot change).outcome slots).value.report.position?.isSome = true := by
  rw [← Report.Update.isSome_positionWrite] at places
  obtain ⟨position, writes⟩ := Option.isSome_iff_exists.mp places
  exact Option.isSome_of_eq_some ((slots.get source).report.position?_update writes)

/-- **A step tells what it announces.** -/
theorem events_outcome (slots : Slots) (step : Step) :
    (step.outcome slots).events = step.announced slots (step.outcome slots).value := by
  cases step with
  | build slot form =>
      by_cases made : form = .blank
      · subst made
        rfl
      · have resolved : form.map (CauseName.resolve slots) ≠ .blank := by
          rw [ne_eq, Failure.Form.map_eq_blank_iff]
          exact made
        have told := Failure.Form.events_build resolved
        rw [Failure.Form.eager_map] at told
        cases form with
        | blank => contradiction
        | _ => exact told
  | update source slot change =>
      have told : ((Step.update source slot change).outcome slots).events =
          ((slots.get source).report.update change).events := Failure.events_update _ _
      have written := Report.Update.isSome_positionWrite (slots.get source).report change
      rw [told, Report.events_update, Step.announced, ← written]
      cases writes : change.positionWrite (slots.get source).report.text
          (slots.get source).report.cursor with
      | none => rfl
      | some position =>
          have given : ((Step.update source slot change).outcome slots).value.report.position? =
              some position := (slots.get source).report.position?_update writes
          rw [given]
          rfl

theorem map_events_run (slots : Slots) (steps : List Step) :
    (run slots steps).map Traced.events = announced slots steps := by
  induction steps generalizing slots with
  | nil => rfl
  | cons step rest ih =>
      rw [run, List.map_cons, announced, events_outcome, Step.next, Slots.get_store_self, ih]

/-- **A session tells what its steps announce, and nothing else.** Every form but the blank one
tells once that it raised the failure that it made, and every change that gives a position
tells of it once, which is then the position of the failure; other steps are silent. So a
failure whose line and column were always set together stands at the last position that was
told in its lineage, or has none if none was. -/
theorem trace_eq_announced (steps : List Step) :
    (run Slots.blank steps).map Traced.events = announced Slots.blank steps ∧
    trace Slots.blank steps = (announced Slots.blank steps).flatten ∧
    (∀ slots source slot change, change.places (slots.get source).report = true →
      ((Step.update source slot change).outcome slots).value.report.position?.isSome) ∧
    ∀ name,
      (lineage steps name).replay.value = (after Slots.blank steps).get name ∧
      (lineage steps name).replay.events.Sublist (trace Slots.blank steps) ∧
      ((∀ change ∈ (lineage steps name).changes, change.setsTogether = true) →
        ((after Slots.blank steps).get name).report.StandsAt
          (lastPosition (lineage steps name).replay.events)) := by
  have told := map_events_run Slots.blank steps
  have accounts := accounts_lineages steps
  refine ⟨told, ?_, isSome_position?_outcome, ?_⟩
  · rw [trace, List.flatMap_def, told]
  · intro name
    refine ⟨accounts.value name, accounts.events name, ?_⟩
    intro together
    rw [← accounts.value name]
    exact Lineage.standsAt_replay _ _ together

/-- Steps that copy a failure between slots, move it, and try to locate it without a cursor. -/
def moving : List Step :=
  [.build "e" .blank, .build "a" (.inText "m" "xy" 1), .update "a" "b" .locateInText,
    .update "b" "b" (.setPosition ⟨7, 8⟩), .update "b" "c" (.setCursor none),
    .update "c" "c" (.locate "z"), .build "b" (.ofCause (.slot "c"))]

/-- A failure that was moved in another slot stands where it was moved last. -/
theorem trace_eq_announced_moving :
    Report.Update.locateInText.places ((after Slots.blank (moving.take 2)).get "a").report = true ∧
      ((Step.update "a" "b" .locateInText).outcome
        (after Slots.blank (moving.take 2))).value.report.position?.isSome = true ∧
      (∀ change ∈ (lineage moving "c").changes, change.setsTogether = true) ∧
      lastPosition (lineage moving "c").replay.events = some ⟨7, 8⟩ ∧
      ((after Slots.blank moving).get "c").report.StandsAt (some ⟨7, 8⟩) := by
  have places : Report.Update.locateInText.places
      ((after Slots.blank (moving.take 2)).get "a").report = true := rfl
  have together : ∀ change ∈ (lineage moving "c").changes, change.setsTogether = true := by
    decide
  have last : lastPosition (lineage moving "c").replay.events = some ⟨7, 8⟩ := rfl
  obtain ⟨_, _, given, lineages⟩ := trace_eq_announced moving
  have stands := (lineages "c").2.2 together
  rw [last] at stands
  exact ⟨places, given _ "a" "b" _ places, together, last, stands⟩

end Session

end FaultReport
