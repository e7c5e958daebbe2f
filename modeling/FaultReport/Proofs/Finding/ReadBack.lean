import FaultReport.Finding
import FaultReport.Proofs.Report.ReadBack

/-!
# What the text of a finding tells

The text of a finding begins with its position, and the message comes last. The message may
contain anything, but the position is read from the front: the line ends at the first comma and
the column at the first parenthesis after it, since a shown ordinal holds neither
(`Ordinal.readUpTo?_render`). What follows is the marker of the severity and the message
(`readFront?_render`).

Whether the marker belongs to the severity or to the message cannot be seen. An error whose
message begins with the marker of warnings has the text of a warning (`Imitates`). The main
statement says that this is all that can be mistaken: otherwise equal texts come from equal
positions, severities and messages, and with the severity given the message is read back
(`render_eq_iff`).
-/

set_option autoImplicit false

namespace FaultReport

/-! ## Ordinals in front of a character -/

namespace Ordinal

/-- The ordinal that is shown up to the first `stop`, and what follows that. -/
def readUpTo? (stop : Char) (characters : List Char) : Option (Option Nat × List Char) := do
  let ordinal ← read? (characters.takeWhile fun character => character != stop)
  let rest ← (characters.dropWhile fun character => character != stop).dropPrefix? [stop]
  return (ordinal, rest)

/-- **An ordinal is read back up to a character that ordinals do not hold.** -/
theorem readUpTo?_render {stop : Char} (noDigit : stop.isDigit = false) (noSign : stop ≠ '-')
    (ordinal : Option Nat) (rest : List Char) :
    readUpTo? stop ((render ordinal).toList ++ stop :: rest) = some (ordinal, rest) := by
  have goesOn : ∀ character ∈ (render ordinal).toList, (character != stop) = true := by
    intro character member
    rw [bne_iff_ne]
    rintro rfl
    exact not_mem_render noDigit noSign ordinal member
  have ended : (stop :: rest).dropPrefix? [stop] = some rest := by
    simp only [List.dropPrefix?, beq_self_eq_true, ↓reduceIte]
  simp only [readUpTo?, List.takeWhile_append_of_pos goesOn, List.dropWhile_append_of_pos goesOn,
    List.takeWhile_cons, List.dropWhile_cons, bne_self_eq_false, Bool.false_eq_true, ↓reduceIte,
    List.append_nil, read?_render, ended, Option.bind_eq_bind, Option.bind_some]
  rfl

end Ordinal

namespace Finding

/-! ## Reading findings -/

/-- The line and the column that a text begins with, and what follows them. -/
def readFront? (characters : List Char) :
    Option (Option Nat × Option Nat × List Char) := do
  let opened ← characters.dropPrefix? ['(']
  let (line, shown) ← Ordinal.readUpTo? ',' opened
  let (column, closed) ← Ordinal.readUpTo? ')' shown
  let rest ← closed.dropPrefix? [' ']
  return (line, column, rest)

/-- The line and the column that a text begins with. -/
def readPosition? (text : String) : Option (Option Nat × Option Nat) := do
  let (line, column, _) ← readFront? text.toList
  return (line, column)

/-- The message of the finding with this text, if that has the given severity. -/
def readMessage? (severity : Severity) (text : String) : Option String := do
  let (_, _, rest) ← readFront? text.toList
  let message ← rest.dropPrefix? severity.marker.toList
  return String.ofList message

variable (finding other : Finding)

theorem toList_render :
    finding.render.toList =
      '(' :: ((Ordinal.render finding.line).toList ++ ',' ::
        ((Ordinal.render finding.column).toList ++ ')' :: ' ' ::
          (finding.severity.marker ++ finding.message).toList)) := by
  simp only [render, String.toList_append, List.append_assoc]
  rfl

/-- **The front of a finding is read back**, and leaves marker and message over. -/
theorem readFront?_render :
    readFront? finding.render.toList =
      some (finding.line, finding.column,
        (finding.severity.marker ++ finding.message).toList) := by
  have line := Ordinal.readUpTo?_render (by decide : ','.isDigit = false) (by decide) finding.line
  have column :=
    Ordinal.readUpTo?_render (by decide : ')'.isDigit = false) (by decide) finding.column
  simp only [readFront?, toList_render, List.dropPrefix?, beq_self_eq_true, ↓reduceIte, line,
    column, Option.bind_eq_bind, Option.bind_some]
  rfl

theorem readMessage?_render :
    readMessage? finding.severity finding.render = some finding.message := by
  simp only [readMessage?, readFront?_render, Option.bind_eq_bind, Option.bind_some,
    String.toList_append, List.dropPrefix?_append_of_beq, beq_self_eq_true]
  exact congrArg some String.ofList_toList

/-! ## Findings with the same text -/

/-- An error with the text of a warning: its message begins with the marker of warnings. -/
def Imitates (finding other : Finding) : Prop :=
  finding.severity = .error ∧ other.severity = .warning ∧
    finding.message = "WARNING: " ++ other.message

/-- Texts are equal exactly if positions are, and what is shown after them. -/
theorem render_eq_iff_front :
    finding.render = other.render ↔
      finding.line = other.line ∧ finding.column = other.column ∧
        finding.severity.marker ++ finding.message =
          other.severity.marker ++ other.message := by
  constructor
  · intro same
    have front := readFront?_render finding
    rw [same, readFront?_render] at front
    simp only [Option.some.injEq, Prod.mk.injEq, String.toList_inj] at front
    obtain ⟨line, column, shown⟩ := front
    exact ⟨line.symm, column.symm, shown.symm⟩
  · rintro ⟨line, column, shown⟩
    rw [← String.toList_inj, toList_render, toList_render, line, column, shown]

/-- A marker and a message are told apart by what they show, but for imitations. -/
theorem marker_append_eq_iff :
    finding.severity.marker ++ finding.message = other.severity.marker ++ other.message ↔
      finding.severity = other.severity ∧ finding.message = other.message ∨
        finding.Imitates other ∨ other.Imitates finding := by
  rw [Imitates, Imitates]
  cases finding.severity with
  | error =>
      cases other.severity with
      | error =>
          simp only [Severity.marker, String.empty_append, true_and, reduceCtorEq, false_and,
            and_false, or_false]
      | warning =>
          simp only [Severity.marker, String.empty_append, reduceCtorEq, false_and, true_and,
            or_false, false_or]
  | warning =>
      cases other.severity with
      | error =>
          simp only [Severity.marker, String.empty_append, reduceCtorEq, false_and, true_and,
            false_or]
          exact eq_comm
      | warning =>
          simp only [Severity.marker, String.append_right_inj, true_and, reduceCtorEq, false_and,
            or_false]

/-- **The text of a finding tells its position, and all else but imitations.** Two findings have
the same text exactly if they have the same line, the same column, and either the same severity
and message, or one of them is an error whose message is the marker of warnings and the message
of the other, which is a warning. Whatever the message is, the position is read back from the
text, and so is the message if the severity is given. -/
theorem render_eq_iff :
    (finding.render = other.render ↔
      finding.line = other.line ∧ finding.column = other.column ∧
        (finding.severity = other.severity ∧ finding.message = other.message ∨
          finding.Imitates other ∨ other.Imitates finding)) ∧
    readPosition? finding.render = some (finding.line, finding.column) ∧
    readMessage? finding.severity finding.render = some finding.message := by
  refine ⟨?_, ?_, finding.readMessage?_render⟩
  · rw [render_eq_iff_front, marker_append_eq_iff]
  · rw [readPosition?, readFront?_render]
    rfl

/-- An error that imitates a warning. -/
example : (report .error "WARNING: w").render = (report .warning "w").render := by decide

end Finding

end FaultReport
