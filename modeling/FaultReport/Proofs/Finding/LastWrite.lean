import FaultReport.Finding
import FaultReport.Proofs.Failure.LastWrite
import FaultReport.Proofs.LineMap.Walk
import Mathlib.Data.List.DropRight

/-!
# Findings and last writes

Steps that make a finding come in any order. Reporting a problem starts the finding over and
drops its cursor and its position. Setting the cursor does not move a finding that has a
position, and locating a finding without a cursor does nothing. So what steps make depends on
the last problem reported and on the last writes since then, where locating counts as a write
only if a cursor was set before it.

`recent` keeps the steps since the last report. The cursor is the last one set among them
(`cursorAfter`). The position is the last one written among them (`positionAfter`), where what
locating writes is found by a walk to the cursor that the steps before it leave behind. One more
step changes these values as it changes the finding (`after_concat`), and the main statement is
that steps make the finding that holds them (`ofSteps_eq_lastWrites`).
-/

set_option autoImplicit false

namespace FaultReport

/-- Pairing what comes before each value with that value, one value at a time. -/
theorem zipWith_inits_concat {α β : Type} (combine : List α → α → β) (values : List α)
    (last : α) :
    List.zipWith combine (values ++ [last]).inits (values ++ [last]) =
      List.zipWith combine values.inits values ++ [combine values last] := by
  induction values generalizing combine with
  | nil => rfl
  | cons first rest ih =>
      simp only [List.cons_append, List.inits_cons, List.zipWith_cons_cons, List.zipWith_map_left,
        ih]

namespace Finding

/-! ## What one step writes

To a field that it writes, a step gives a value; `none` leaves the field alone. Reporting a
problem is told apart from writing. -/

namespace Step

/-- The problem that a step reports. -/
def reported : Step → Option (Severity × String)
  | .report severity message => some (severity, message)
  | _ => none

def cursorWrite : Step → Option (Option Nat)
  | .setCursor cursor => some (some cursor)
  | _ => none

/-- The position that a step writes to a finding with this cursor. -/
def positionWrite (cursor : Option Nat) : Step → Option (Option Position)
  | .setPosition position => some (some position)
  | .locate text => cursor.map fun cursor => some (Position.walk (text.toList.take cursor))
  | _ => none

end Step

/-! ## What steps leave behind -/

/-- The steps since the last one that reports a problem. -/
def recent (steps : List Step) : List Step :=
  steps.rtakeWhile fun step => step.reported.isNone

/-- The last problem that steps report, or the one that was reported before them. -/
def reportAfter (first : Severity × String) (steps : List Step) : Severity × String :=
  lastWrite first (steps.map Step.reported)

/-- The last cursor that steps set. -/
def cursorAfter (steps : List Step) : Option Nat := lastWrite none (steps.map Step.cursorWrite)

/-- What each step writes to the position, with the cursor that the steps before it set. -/
def positionsAlong (steps : List Step) : List (Option (Option Position)) :=
  List.zipWith (fun earlier step => step.positionWrite (cursorAfter earlier)) steps.inits steps

/-- The last position that steps write. -/
def positionAfter (steps : List Step) : Option Position := lastWrite none (positionsAlong steps)

/-- The finding that the last writes make, after a first report. -/
def after (first : Severity × String) (steps : List Step) : Finding where
  severity := (reportAfter first steps).1
  message := (reportAfter first steps).2
  cursor := cursorAfter (recent steps)
  line := (positionAfter (recent steps)).map Position.line
  column := (positionAfter (recent steps)).map Position.column

/-! ## One more step -/

section Concat

variable (first : Severity × String) (steps : List Step) {step : Step}

theorem recent_concat (goesOn : step.reported = none) :
    recent (steps ++ [step]) = recent steps ++ [step] :=
  List.rtakeWhile_concat_pos _ _ _ (Option.isNone_iff_eq_none.mpr goesOn)

theorem recent_concat_report (severity : Severity) (message : String) :
    recent (steps ++ [.report severity message]) = [] :=
  List.rtakeWhile_concat_neg _ _ _ nofun

theorem reportAfter_concat :
    reportAfter first (steps ++ [step]) = step.reported.getD (reportAfter first steps) :=
  lastWrite_map_concat first Step.reported steps step

theorem cursorAfter_concat :
    cursorAfter (steps ++ [step]) = step.cursorWrite.getD (cursorAfter steps) :=
  lastWrite_map_concat none Step.cursorWrite steps step

theorem positionAfter_concat :
    positionAfter (steps ++ [step]) =
      (step.positionWrite (cursorAfter steps)).getD (positionAfter steps) := by
  rw [positionAfter, positionsAlong, zipWith_inits_concat, lastWrite_concat, positionAfter,
    positionsAlong]

/-- **One more step changes the last writes as it changes the finding that holds them.** -/
theorem after_concat (short : ∀ text, step = .locate text → text.length < Ordinal.limit - 1) :
    after first (steps ++ [step]) = (after first steps).step step := by
  cases step with
  | report severity message =>
      rw [after, reportAfter_concat, recent_concat_report]
      rfl
  | setCursor cursor =>
      rw [after, reportAfter_concat, recent_concat steps rfl, cursorAfter_concat,
        positionAfter_concat]
      rfl
  | setPosition position =>
      rw [after, reportAfter_concat, recent_concat steps rfl, cursorAfter_concat,
        positionAfter_concat]
      rfl
  | locate text =>
      have fits := short text rfl
      rw [← String.length_toList] at fits
      rw [after, reportAfter_concat, recent_concat steps rfl, cursorAfter_concat,
        positionAfter_concat, Finding.step, locate, after]
      cases cursorAfter (recent steps) with
      | none => rfl
      | some cursor =>
          simp only [LineMap.ofText, LineMap.positionAt_ofList fits]
          rfl

end Concat

/-- **Steps after a first report make the finding that holds their last writes.** -/
theorem foldl_step_report (severity : Severity) (message : String) {steps : List Step}
    (short : ∀ text, Step.locate text ∈ steps → text.length < Ordinal.limit - 1) :
    steps.foldl step (report severity message) = after (severity, message) steps := by
  -- The induction takes the last step off, since one that reports hides all before it.
  induction steps using List.reverseRecOn with
  | nil => rfl
  | append_singleton steps next ih =>
      have before : ∀ text, Step.locate text ∈ steps → text.length < Ordinal.limit - 1 := by
        intro text member
        exact short text (List.mem_append_left _ member)
      have last : ∀ text, next = .locate text → text.length < Ordinal.limit - 1 := by
        rintro text rfl
        exact short text List.mem_concat_self
      rw [List.foldl_concat, ih before, after_concat _ _ last]

/-- Setting cursors keeps the position. -/
theorem foldl_step_setCursor (finding : Finding) (cursors : List Nat) :
    ((cursors.map Step.setCursor).foldl step finding).line = finding.line ∧
      ((cursors.map Step.setCursor).foldl step finding).column = finding.column := by
  induction cursors generalizing finding with
  | nil => exact ⟨rfl, rfl⟩
  | cons cursor rest ih => exact ih (finding.setCursor cursor)

/-- **Steps make the finding that their last writes say.** A finding that begins with a report
has severity and message of the last report. Its cursor is the last one set since then. Its
position is the last one written since then: one that is given, or the one that a walk reaches
at the cursor, for a step that locates the finding after a cursor was set. Setting the cursor
later on leaves the position as it is. -/
theorem ofSteps_eq_lastWrites (severity : Severity) (message : String) (steps : List Step)
    (short : ∀ text, Step.locate text ∈ steps → text.length < Ordinal.limit - 1) :
    ofSteps? (.report severity message :: steps) =
      some
        { severity := (reportAfter (severity, message) steps).1
          message := (reportAfter (severity, message) steps).2
          cursor := cursorAfter (recent steps)
          line := (positionAfter (recent steps)).map Position.line
          column := (positionAfter (recent steps)).map Position.column } ∧
    ∀ cursors : List Nat, ∃ moved,
      ofSteps? (.report severity message :: (steps ++ cursors.map Step.setCursor)) =
        some moved ∧
      moved.line = (positionAfter (recent steps)).map Position.line ∧
      moved.column = (positionAfter (recent steps)).map Position.column := by
  have made := foldl_step_report severity message short
  refine ⟨congrArg some made, ?_⟩
  intro cursors
  refine ⟨_, rfl, ?_⟩
  rw [List.foldl_append, made]
  exact foldl_step_setCursor _ cursors

/-- Steps that report a second problem, and locate it before and after it gets a cursor. -/
def reconsidered : List Step :=
  [.setCursor 1, .report .error "e", .setPosition ⟨4, 5⟩, .locate "a\nb", .setCursor 2,
    .locate "x\ny", .setCursor 0]

/-- The first attempt to locate the second problem does nothing, and the second one does. -/
theorem ofSteps_eq_lastWrites_reconsidered :
    (∀ text, Step.locate text ∈ reconsidered → text.length < Ordinal.limit - 1) ∧
      ofSteps? (.report .warning "w" :: reconsidered.take 4) =
        some ⟨.error, "e", none, some 4, some 5⟩ ∧
      ofSteps? (.report .warning "w" :: reconsidered) =
        some ⟨.error, "e", some 0, some 2, some 1⟩ := by
  have short : ∀ text, Step.locate text ∈ reconsidered → text.length < Ordinal.limit - 1 := by
    intro text member
    simp only [reconsidered, List.mem_cons, reduceCtorEq, Step.locate.injEq, List.not_mem_nil,
      false_or, or_false] at member
    rcases member with rfl | rfl <;> decide
  have before : ∀ text, Step.locate text ∈ reconsidered.take 4 →
      text.length < Ordinal.limit - 1 := by
    intro text member
    exact short text (List.mem_of_mem_take member)
  refine ⟨short, ?_, ?_⟩
  · exact (ofSteps_eq_lastWrites .warning "w" (reconsidered.take 4) before).1.trans (by decide)
  · exact (ofSteps_eq_lastWrites .warning "w" reconsidered short).1.trans (by decide)

end Finding

end FaultReport
