import FaultReport.Failure.Form
import FaultReport.Proofs.Draft.LastWrite

/-!
# What forms make

A form takes a cause in one of several places, or none, and some forms let the caller choose
whether the message is formatted at once. A form that spells out the edits of a draft takes the
cause that was set last.

`Form.cause?` and `Form.eager` read these choices off a form. Every form but the blank one
raises a draft that makes them (`build_eq_raise`), so the failure has that cause and leaves one
event that tells of the choices. No form gives a position.
-/

set_option autoImplicit false

namespace FaultReport.Failure

namespace Form

variable {κ : Type}

/-! ## What a form chooses -/

/-- The cause of the failure that a form makes. -/
def cause? : Form κ → Option κ
  | .inTextOver _ _ _ cause => some cause
  | .inTextFormatted _ _ _ _ cause => cause
  | .ofMessageOver _ cause => some cause
  | .ofCause cause => some cause
  | .drafted edits => Draft.causeAfter edits
  | _ => none

/-- Whether a form asks for a message that is formatted at once. -/
def eager : Form κ → Bool
  | .inTextFormatted _ _ _ eager _ => eager
  | .drafted edits => Draft.eagerAfter edits
  | _ => false

section Map

variable {μ : Type} (resolve : κ → μ) (form : Form κ)

theorem cause?_map : (form.map resolve).cause? = form.cause?.map resolve := by
  cases form with
  | drafted edits => exact Draft.causeAfter_map resolve edits
  | _ => rfl

theorem eager_map : (form.map resolve).eager = form.eager := by
  cases form with
  | drafted edits => exact Draft.eagerAfter_map resolve edits
  | _ => rfl

theorem map_eq_blank_iff : form.map resolve = .blank ↔ form = .blank := by
  cases form <;> simp only [map, reduceCtorEq]

end Map

/-! ## What a form makes -/

/-- **Every form but the blank one raises a draft with what it chooses.** -/
theorem build_eq_raise {form : Form Cause} (made : form ≠ .blank) :
    ∃ draft : Draft, form.build = draft.raise ∧ draft.cause = form.cause? ∧
      draft.eager = form.eager := by
  cases form with
  | blank => contradiction
  | drafted edits =>
      have last := Draft.ofEdits_eq_after edits
      exact ⟨_, rfl, congrArg Draft.cause last, congrArg Draft.eager last⟩
  | _ => exact ⟨_, rfl, rfl, rfl⟩

theorem cause_build (form : Form Cause) : form.build.value.cause = form.cause? := by
  by_cases made : form = .blank
  · rw [made]
    rfl
  · obtain ⟨draft, raised, cause, _⟩ := build_eq_raise made
    rw [raised, ← cause]
    rfl

theorem events_build {form : Form Cause} (made : form ≠ .blank) :
    form.build.events =
      [.raised form.build.value.report.cursorOffset form.build.value.report.text.isSome
        form.build.value.cause.isSome form.eager] := by
  obtain ⟨draft, raised, _, eager⟩ := build_eq_raise made
  rw [raised, ← eager]
  rfl

theorem no_position_build (form : Form Cause) :
    form.build.value.report.line = none ∧ form.build.value.report.column = none := by
  by_cases made : form = .blank
  · rw [made]
    exact ⟨rfl, rfl⟩
  · obtain ⟨draft, raised, _⟩ := build_eq_raise made
    rw [raised]
    exact ⟨rfl, rfl⟩

end Form

end FaultReport.Failure
