import FaultReport.Failure
import FaultReport.Proofs.LineMap.Walk
import FaultReport.Proofs.Report.ReadBack

/-!
# Locating a failure

A failure that knows its text and its cursor can be located in that text. Its line is then one
more than the number of breaks before the cursor, and its column one more than the number of
characters on the last line before it. Both come out of a map that is built from the text and
searched, but a reader can count them off: a walk over characters ends where counting says
(`Position.walk_eq_counts`).

Locating goes through several hands. In its own text a failure is located by the map of that
text (`Report.update_locateInText`), and by any map it moves to the position of its cursor
(`Report.update_locate`), which is what a finding with the same cursor does as well
(`Finding.locate_of_cursor`). Where the cursor is unknown nothing is changed and nothing told,
and the position stays as it was.

The main statement puts these together for every failure, however it came about
(`Failure.locateInText_eq_counts`).
-/

set_option autoImplicit false

namespace FaultReport

/-- **A walk ends where counting says**: as many lines on as there are breaks, and as many
columns on as there are characters after the last of them. -/
theorem Position.walk_eq_counts (characters : List Char) :
    walk characters = ⟨1 + characters.count '\n', 1 + (Text.lastLine characters).length⟩ := by
  induction characters using List.reverseRecOn with
  | nil => rfl
  | append_singleton front last ih =>
      rw [walk_concat, ih, List.count_append]
      by_cases isBreak : last = '\n'
      · subst isBreak
        have opened : Text.lastLine (front ++ ['\n']) = [] :=
          Text.lastLine_concat_break front List.not_mem_nil
        rw [advance, if_pos rfl, opened, List.count_singleton_self, Nat.add_assoc]
        rfl
      · have unbroken : '\n' ∉ [last] := by
          intro member
          exact isBreak (List.mem_singleton.mp member).symm
        rw [advance, if_neg isBreak, Text.lastLine_append front unbroken, List.length_append,
          List.count_eq_zero_of_not_mem unbroken, List.length_singleton, Nat.add_assoc]
        rfl

/-- A finding with a cursor moves to the position of that cursor. -/
theorem Finding.locate_of_cursor {finding : Finding} {cursor : Nat}
    (placed : finding.cursor = some cursor) (map : LineMap) :
    finding.locate map = finding.setPosition (map.positionAt cursor) := by
  rw [locate, placed]

namespace Report

variable {report : Report}

/-! ## Locating a report -/

/-- In its own text a report is located like in any other. -/
theorem update_locateInText {text : String} (known : report.text = some text) :
    report.update .locateInText = report.update (.locate text) := by
  change report.locateInText = report.locate (LineMap.ofText text)
  rw [locateInText, known]

/-- A report with a cursor moves to the position of that cursor. -/
theorem update_locate {cursor : Nat} (placed : report.cursor = some cursor) (source : String) :
    report.update (.locate source) =
      report.setPosition ((LineMap.ofText source).positionAt cursor) := by
  rw [update, locate, placed]

theorem update_locate_of_no_cursor (lost : report.cursor = none) (source : String) :
    report.update (.locate source) = pure report := by
  rw [update, locate, lost]

theorem update_locateInText_of_missing (missing : report.text = none ∨ report.cursor = none) :
    report.update .locateInText = pure report := by
  cases known : report.text with
  | none => rw [update, locateInText, known]
  | some text =>
      rw [update_locateInText known]
      refine update_locate_of_no_cursor (missing.resolve_left ?_) text
      rw [known]
      exact Option.some_ne_none text

/-- **Locating a report a second time changes nothing more.** -/
theorem locateInText_twice (report : Report) :
    ((report.update .locateInText).value.update .locateInText).value =
      (report.update .locateInText).value := by
  by_cases missing : report.text = none ∨ report.cursor = none
  · have kept := update_locateInText_of_missing missing
    rw [kept, Traced.value_pure, kept, Traced.value_pure]
  · obtain ⟨hasText, hasCursor⟩ := not_or.mp missing
    obtain ⟨text, known⟩ := Option.ne_none_iff_exists'.mp hasText
    obtain ⟨cursor, placed⟩ := Option.ne_none_iff_exists'.mp hasCursor
    rw [update_locateInText known, update_locate placed]
    -- The moved report has the text and the cursor that it had.
    exact congrArg Traced.value
      ((update_locateInText (by exact known)).trans (update_locate (by exact placed) text))

end Report

namespace Failure

/-! ## Locating a failure -/

/-- A change that keeps the report keeps the failure, and is silent. -/
theorem update_eq_pure {failure : Failure} {change : Report.Update}
    (kept : failure.report.update change = pure failure.report) :
    failure.update change = pure failure := by
  rw [update, kept]
  rfl

theorem update_setText_locate (failure : Failure) (text : Option String) (source : String) :
    ((failure.update (.setText text)).value.update (.locate source)).value =
      ((failure.update (.locate source)).value.update (.setText text)).value := by
  obtain ⟨⟨message, own, cursor, line, column, findings⟩, cause⟩ := failure
  cases cursor with
  | none => rfl
  | some cursor => rfl

/-- **A failure is located where counting says.** If it knows its text and its cursor, locating
it in its text sets its line to one more than the number of breaks before the cursor, and its
column to one more than the number of characters after the last of these, whatever position it
had, and leaves the rest as it was. The map of its text does the same, and a finding with the
same cursor gets the same position from that map. A second time changes nothing more. Without a
text or a cursor the failure stays as it is, and without a cursor no map moves it. Which text it
has makes no difference to where a map moves it. -/
theorem locateInText_eq_counts (failure : Failure) :
    (∀ text cursor, failure.report.text = some text → failure.report.cursor = some cursor →
      (text.length < Ordinal.limit - 1 →
        (failure.update .locateInText).value =
          { failure with report := { failure.report with
              line := some (1 + (text.toList.take cursor).count '\n')
              column := some (1 + (Text.lastLine (text.toList.take cursor)).length) } }) ∧
      failure.update .locateInText = failure.update (.locate text) ∧
      ∀ finding : Finding, finding.cursor = some cursor →
        finding.locate (LineMap.ofText text) =
          { finding with
            line := (failure.update .locateInText).value.report.line
            column := (failure.update .locateInText).value.report.column }) ∧
    ((failure.update .locateInText).value.update .locateInText).value =
      (failure.update .locateInText).value ∧
    (failure.report.text = none ∨ failure.report.cursor = none →
      failure.update .locateInText = pure failure) ∧
    (failure.report.cursor = none →
      ∀ source, failure.update (.locate source) = pure failure) ∧
    ∀ text source,
      ((failure.update (.setText text)).value.update (.locate source)).value =
        ((failure.update (.locate source)).value.update (.setText text)).value := by
  refine ⟨?_, ?_, ?_, ?_, failure.update_setText_locate⟩
  · intro text cursor known placed
    have moved : (failure.report.update .locateInText) =
        failure.report.setPosition ((LineMap.ofText text).positionAt cursor) :=
      (Report.update_locateInText known).trans (Report.update_locate placed text)
    refine ⟨?_, ?_, ?_⟩
    · intro short
      rw [← String.length_toList] at short
      have position := LineMap.positionAt_ofList short cursor
      rw [Position.walk_eq_counts] at position
      rw [LineMap.ofText, position] at moved
      rw [update, moved]
      rfl
    · rw [update, Report.update_locateInText known]
      rfl
    · intro finding same
      rw [Finding.locate_of_cursor same, update, moved]
      rfl
  · exact congrArg (Failure.mk · failure.cause) failure.report.locateInText_twice
  · intro missing
    exact update_eq_pure (Report.update_locateInText_of_missing missing)
  · intro lost source
    exact update_eq_pure (Report.update_locate_of_no_cursor lost source)

/-- A failure at a cursor past the end of its text, with a line from elsewhere. -/
def stale : Failure where
  report :=
    { message := "m"
      text := some "ab\n\ncd"
      cursor := some 100
      line := some 9
      column := none
      findings := some [] }
  cause := some (Cause.plain "p")

/-- The same failure without a cursor. -/
def lost : Failure := { stale with report := { stale.report with cursor := none } }

/-- The line from elsewhere is replaced where there is a cursor, and kept where there is none. -/
theorem locateInText_eq_counts_stale :
    stale.report.text = some "ab\n\ncd" ∧ stale.report.cursor = some 100 ∧
      "ab\n\ncd".length < Ordinal.limit - 1 ∧
      (stale.update .locateInText).value =
        { stale with report := { stale.report with line := some 3, column := some 3 } } ∧
      ((Finding.report .warning "w").setCursor 100).cursor = some 100 ∧
      (((Finding.report .warning "w").setCursor 100).locate (LineMap.ofText "ab\n\ncd")).line =
        some 3 ∧
      lost.report.cursor = none ∧ lost.update .locateInText = pure lost ∧
      lost.update (.locate "xy") = pure lost := by
  have short : "ab\n\ncd".length < Ordinal.limit - 1 := by decide
  obtain ⟨located, _⟩ := stale.locateInText_eq_counts
  obtain ⟨counted, _, found⟩ := located "ab\n\ncd" 100 rfl rfl
  have moved : (stale.update .locateInText).value =
      { stale with report := { stale.report with line := some 3, column := some 3 } } :=
    (counted short).trans (by decide)
  have finding := found ((Finding.report .warning "w").setCursor 100) rfl
  rw [moved] at finding
  obtain ⟨_, _, kept, stays, _⟩ := lost.locateInText_eq_counts
  exact ⟨rfl, rfl, short, moved, rfl, congrArg Finding.line finding, rfl, kept (Or.inr rfl),
    stays rfl "xy"⟩

end Failure

end FaultReport
