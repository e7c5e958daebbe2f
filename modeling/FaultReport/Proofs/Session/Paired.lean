import FaultReport.Proofs.Report.ReadBack
import FaultReport.Proofs.Session.Chain
import FaultReport.Proofs.Session.Trace

/-!
# Lines and columns come in pairs

A line without a column tells a reader little. Findings are never left with one of the two:
their positions are set as a whole, and nothing takes a position away (`Finding.Paired.step`).

Reports can be given a line or a column alone, and then they show the column as unknown. As long
as this is not done, a report has both or neither (`Report.Paired.update`), and no unknown
column ends its text, whatever its message and its excerpt contain
(`Report.Paired.not_suffix_render`). In a session without such steps this holds of every
failure and of all failures among its causes, since a cause is a copy of what some slot held
(`paired_concat`).

A report that was given a position has both from then on, also if line or column are later set
alone (`Report.Positioned.update`). The main statement says all this of the findings that steps
make and of the failures that sessions leave in their slots (`lines_paired_with_columns`).
-/

set_option autoImplicit false

namespace FaultReport

/-! ## Findings -/

namespace Finding

/-- A finding has both a line and a column, or neither. -/
def Paired (finding : Finding) : Prop := finding.line.isSome ↔ finding.column.isSome

theorem paired_report (severity : Severity) (message : String) :
    (report severity message).Paired :=
  Iff.rfl

theorem paired_setPosition (finding : Finding) (position : Position) :
    (finding.setPosition position).Paired :=
  Iff.rfl

/-- **Every step keeps line and column paired.** -/
theorem Paired.step {finding : Finding} (paired : finding.Paired) (next : Step) :
    (finding.step next).Paired := by
  cases next with
  | report severity message => exact paired_report severity message
  | setCursor cursor => exact paired
  | setPosition position => exact paired_setPosition finding position
  | locate text =>
      cases placed : finding.cursor with
      | none =>
          rw [Finding.step, locate, placed]
          exact paired
      | some cursor =>
          rw [Finding.step, locate, placed]
          exact paired_setPosition finding _

theorem Paired.foldl_step {finding : Finding} (paired : finding.Paired) (steps : List Step) :
    (steps.foldl Finding.step finding).Paired := by
  induction steps generalizing finding with
  | nil => exact paired
  | cons next rest ih => exact ih (paired.step next)

theorem paired_of_ofSteps? {steps : List Step} {finding : Finding}
    (made : ofSteps? steps = some finding) : finding.Paired := by
  match steps with
  | .report severity message :: rest =>
      cases made
      exact (paired_report severity message).foldl_step rest
  | [] | .setCursor _ :: _ | .setPosition _ :: _ | .locate _ :: _ => cases made

end Finding

/-! ## Reports -/

namespace Report

/-- A report has both a line and a column, or neither. -/
def Paired (report : Report) : Prop := report.line.isSome ↔ report.column.isSome

/-- A report has both a line and a column. -/
structure Positioned (report : Report) : Prop where
  line : report.line.isSome
  column : report.column.isSome

theorem StandsAt.paired {report : Report} {position : Option Position}
    (stands : report.StandsAt position) : report.Paired := by
  obtain ⟨line, column⟩ := stands
  rw [Paired, line, column, Option.isSome_map, Option.isSome_map]

theorem Paired.standsAt {report : Report} (paired : report.Paired) :
    report.StandsAt report.position? := by
  obtain ⟨message, text, cursor, line, column, findings⟩ := report
  cases line with
  | none =>
      cases column with
      | none => exact ⟨rfl, rfl⟩
      | some column => exact absurd (paired.mpr rfl) Bool.false_ne_true
  | some line =>
      cases column with
      | none => exact absurd (paired.mp rfl) Bool.false_ne_true
      | some column => exact ⟨rfl, rfl⟩

/-- **A change that sets line and column together keeps them paired.** -/
theorem Paired.update {report : Report} (paired : report.Paired) {change : Update}
    (together : change.setsTogether = true) : (report.update change).value.Paired :=
  (paired.standsAt.update together).paired

theorem positioned_of_position? {report : Report} {position : Position}
    (stands : report.position? = some position) : report.Positioned := by
  obtain ⟨message, text, cursor, line, column, findings⟩ := report
  cases line with
  | none => cases stands
  | some line =>
      cases column with
      | none => cases stands
      | some column => exact ⟨rfl, rfl⟩

/-- A change that gives a position leaves a line and a column behind. -/
theorem positioned_of_places {report : Report} {change : Update}
    (places : change.places report = true) : (report.update change).value.Positioned := by
  rw [← Update.isSome_positionWrite] at places
  obtain ⟨position, writes⟩ := Option.isSome_iff_exists.mp places
  exact positioned_of_position? (report.position?_update writes)

/-- **No change takes a line or a column away.** -/
theorem Positioned.update {report : Report} (positioned : report.Positioned) (change : Update) :
    (report.update change).value.Positioned := by
  obtain ⟨message, text, cursor, line, column, findings⟩ := report
  cases change with
  | setLine line => exact ⟨rfl, positioned.column⟩
  | setColumn column => exact ⟨positioned.line, rfl⟩
  | setPosition position => exact ⟨rfl, rfl⟩
  | locate source =>
      cases cursor with
      | none => exact positioned
      | some cursor => exact ⟨rfl, rfl⟩
  | locateInText =>
      cases text with
      | none => exact positioned
      | some text =>
          cases cursor with
          | none => exact positioned
          | some cursor => exact ⟨rfl, rfl⟩
  | keep => exact positioned
  | setCursor cursor => exact ⟨positioned.line, positioned.column⟩
  | setText text => exact ⟨positioned.line, positioned.column⟩
  | setFindings findings => exact ⟨positioned.line, positioned.column⟩

theorem signless_positionLine (line column : Nat) :
    '-' ∉ (positionLine line (some column)).toList := by
  have signless : ∀ number, '-' ∉ (Nat.repr number).toList := by
    intro number sign
    exact absurd (Ordinal.isDigit_of_mem_repr sign) (by decide)
  simp only [positionLine, Ordinal.render, String.toList_append, List.mem_append, not_or]
  exact ⟨⟨⟨⟨by decide, signless line⟩, by decide⟩, signless column⟩, by decide⟩

/-- **A paired report never shows an unknown column.** What ends its text is the end of the
excerpt, or a line that shows two numbers. -/
theorem Paired.not_suffix_render {report : Report} (paired : report.Paired) :
    ¬ ", Column: -1]".toList <:+ report.render.toList := by
  intro shown
  have sign : "-1]".toList <:+ report.render.toList :=
    List.IsSuffix.trans (by decide) shown
  cases present : report.line with
  | none =>
      have closed := report.line_eq_none_iff_suffix.mp present
      exact absurd (List.suffix_of_suffix_length_le sign closed (by decide)) (by decide)
  | some line =>
      have known : report.column.isSome := paired.mp (Option.isSome_of_eq_some present)
      obtain ⟨column, given⟩ := Option.isSome_iff_exists.mp known
      have ends : (positionLine line (some column)).toList <:+ report.render.toList := by
        rw [toList_render_of_line report present, given]
        exact ⟨report.body.toList ++ ['\n'], by rw [List.append_assoc, List.singleton_append]⟩
      have long : "-1]".toList.length ≤ (positionLine line (some column)).toList.length := by
        have label : "-1]".toList.length ≤ "[Line: ".toList.length := by decide
        simp only [positionLine, String.toList_append, List.length_append]
        omega
      have member : '-' ∈ (positionLine line (some column)).toList :=
        (List.suffix_of_suffix_length_le sign ends long).subset (by decide)
      exact signless_positionLine line column member

end Report

/-! ## Failures and sessions -/

/-- The report of a failure, if a problem is one. -/
def Link.report? : Link → Option Report
  | .plain _ => none
  | .failure report => some report

namespace Failure

/-- The reports that belong to a failure: its own, and those of the failures among its
causes. -/
def reports (failure : Failure) : List Report :=
  failure.report :: failure.chain.filterMap Link.report?

theorem value_updates_append (failure : Failure) (first second : List Report.Update) :
    (failure.updates (first ++ second)).value =
      ((failure.updates first).value.updates second).value := by
  induction first generalizing failure with
  | nil => rfl
  | cons change rest ih => rw [List.cons_append, value_updates_cons, ih, value_updates_cons]

/-- Once a failure has a line and a column, no changes take them away. -/
theorem positioned_updates {failure : Failure} (positioned : failure.report.Positioned)
    (changes : List Report.Update) : (failure.updates changes).value.report.Positioned := by
  induction changes generalizing failure with
  | nil => exact positioned
  | cons change rest ih =>
      rw [value_updates_cons]
      exact ih (positioned.update change)

end Failure

/-- **A failure that was given a position has a line and a column from then on.** -/
theorem Lineage.positioned_replay {form : Failure.Form Cause} {earlier : List Report.Update}
    {change : Report.Update}
    (places : change.places (replay ⟨form, earlier⟩).value.report = true)
    (later : List Report.Update) :
    (replay ⟨form, earlier ++ change :: later⟩).value.report.Positioned := by
  have replayed : (replay ⟨form, earlier ++ change :: later⟩).value =
      (((replay ⟨form, earlier⟩).value.update change).value.updates later).value :=
    (Failure.value_updates_append _ _ _).trans (Failure.value_updates_cons _ _ _)
  rw [replayed]
  exact Failure.positioned_updates (Report.positioned_of_places places) later

namespace Session

/-- Whether a step never sets one of line and column without the other. -/
def Step.setsTogether : Step → Bool
  | .build _ _ => true
  | .update _ _ change => change.setsTogether

theorem CauseName.exists_of_mem_links {slots : Slots} {cause : CauseName} {report : Report}
    (member : report ∈ (cause.links slots).filterMap Link.report?) :
    ∃ name, report ∈ (slots.get name).reports := by
  induction cause with
  | slot name => exact ⟨name, member⟩
  | plain text => cases member
  | plainOver text source ih => exact ih member

section Step

variable {slots : Slots} {steps : List Step} {step : Step}

/-- The reports among the causes of what a step makes are copies of reports that belonged to
some slot before it. -/
theorem exists_of_mem_chain_concat {report : Report}
    (below : report ∈ ((after slots (steps ++ [step])).get step.slot).chain.filterMap
      Link.report?) :
    ∃ name, report ∈ ((after slots steps).get name).reports := by
  cases step with
  | build slot form =>
      rw [Step.slot, chain_build] at below
      cases named : form.cause? with
      | none =>
          rw [named] at below
          cases below
      | some cause =>
          rw [named] at below
          exact CauseName.exists_of_mem_links below
  | update source slot change =>
      rw [Step.slot, chain_update] at below
      exact ⟨source, List.mem_cons_of_mem _ below⟩

variable (paired : ∀ name, ∀ report ∈ ((after slots steps).get name).reports, report.Paired)
  (together : step.setsTogether = true)
include paired together

theorem paired_report_concat :
    ((after slots (steps ++ [step])).get step.slot).report.Paired := by
  rw [get_after_concat]
  cases step with
  | build slot form =>
      have unplaced : ((Step.build slot form).outcome (after slots steps)).value.report.StandsAt
          none := (form.map (CauseName.resolve (after slots steps))).no_position_build
      exact unplaced.paired
  | update source slot change => exact (paired source _ List.mem_cons_self).update together

/-- **One step keeps lines and columns paired**, in what every slot holds and in the causes of
that. -/
theorem paired_concat (name : String) :
    ∀ report ∈ ((after slots (steps ++ [step])).get name).reports, report.Paired := by
  by_cases stored : name = step.slot
  · subst stored
    intro report member
    rcases List.mem_cons.mp member with rfl | below
    · exact paired_report_concat paired together
    · obtain ⟨holder, copied⟩ := exists_of_mem_chain_concat below
      exact paired holder report copied
  · rw [get_after_concat_of_ne slots steps step stored]
    exact paired name

end Step

/-- A whole session keeps lines and columns paired. -/
theorem paired_after {steps : List Step} (together : ∀ step ∈ steps, step.setsTogether = true)
    (name : String) :
    ∀ report ∈ ((after Slots.blank steps).get name).reports, report.Paired := by
  induction steps using List.reverseRecOn generalizing name with
  | nil =>
      intro report member
      rw [List.mem_singleton.mp member]
      exact Iff.rfl
  | append_singleton steps step ih =>
      have before : ∀ earlier ∈ steps, earlier.setsTogether = true := by
        intro earlier member
        exact together earlier (List.mem_append_left _ member)
      exact paired_concat (ih before) (together step List.mem_concat_self) name

/-- **Lines and columns come in pairs.** Every finding that steps make has both or neither. So
has every failure in a session that never sets one of them alone, and every failure among its
causes, and the text of neither ends with an unknown column. In every session, a failure that
was given a position somewhere in its lineage, as a whole or by locating where there was
something to locate, has both, whatever changes came later. -/
theorem lines_paired_with_columns :
    (∀ steps finding, Finding.ofSteps? steps = some finding → finding.Paired) ∧
    (∀ steps : List Step, (∀ step ∈ steps, step.setsTogether = true) →
      ∀ name, ∀ report ∈ ((after Slots.blank steps).get name).reports,
        report.Paired ∧ ¬ ", Column: -1]".toList <:+ report.render.toList) ∧
    ∀ steps name earlier change later,
      (lineage steps name).changes = earlier ++ change :: later →
      change.places (Lineage.replay ⟨(lineage steps name).form, earlier⟩).value.report = true →
      ((after Slots.blank steps).get name).report.Positioned := by
  refine ⟨?_, ?_, ?_⟩
  · intro steps finding made
    exact Finding.paired_of_ofSteps? made
  · intro steps together name report member
    have paired := paired_after together name report member
    exact ⟨paired, paired.not_suffix_render⟩
  · intro steps name earlier change later split places
    have whole : lineage steps name = ⟨(lineage steps name).form, earlier ++ change :: later⟩ := by
      rw [← split]
    rw [← (accounts_lineages steps).value name, whole]
    exact Lineage.positioned_replay places later

/-- Steps that locate a failure with a line of its own, lose its cursor and change its column. -/
def relocating : List Step :=
  [.build "a" (.inText "m" "x\ny" 2), .update "a" "b" (.setLine 7),
    .update "b" "b" .locateInText, .update "b" "c" (.setCursor none),
    .update "c" "c" (.setColumn 9)]

/-- A warning that was moved, a failure that was moved and then became a cause, and one that was
located and then changed. -/
theorem lines_paired_with_columns_relocating :
    Finding.ofSteps? [.report .warning "w", .locate "x\ny", .setPosition ⟨2, 1⟩, .setCursor 0] =
        some ⟨.warning, "w", some 0, some 2, some 1⟩ ∧
      Finding.Paired ⟨.warning, "w", some 0, some 2, some 1⟩ ∧
      (∀ step ∈ moving, step.setsTogether = true) ∧
      ((after Slots.blank moving).get "c").report ∈
        ((after Slots.blank moving).get "b").reports ∧
      ((after Slots.blank moving).get "c").report.Paired ∧
      (lineage relocating "c").changes =
        [.setLine 7] ++ .locateInText :: [.setCursor none, .setColumn 9] ∧
      Report.Update.locateInText.places
        (Lineage.replay ⟨(lineage relocating "c").form, [.setLine 7]⟩).value.report = true ∧
      ((after Slots.blank relocating).get "c").report.Positioned := by
  have made : Finding.ofSteps?
      [.report .warning "w", .locate "x\ny", .setPosition ⟨2, 1⟩, .setCursor 0] =
        some ⟨.warning, "w", some 0, some 2, some 1⟩ := rfl
  have together : ∀ step ∈ moving, step.setsTogether = true := by decide
  have below : ((after Slots.blank moving).get "c").report ∈
      ((after Slots.blank moving).get "b").reports := List.mem_cons_of_mem _ List.mem_cons_self
  have split : (lineage relocating "c").changes =
      [.setLine 7] ++ .locateInText :: [.setCursor none, .setColumn 9] := rfl
  have places : Report.Update.locateInText.places
      (Lineage.replay ⟨(lineage relocating "c").form, [.setLine 7]⟩).value.report = true := rfl
  obtain ⟨findings, failures, positioned⟩ := lines_paired_with_columns
  exact ⟨made, findings _ _ made, together, below, (failures moving together "b" _ below).1,
    split, places, positioned relocating "c" _ _ _ split places⟩

end Session

end FaultReport
