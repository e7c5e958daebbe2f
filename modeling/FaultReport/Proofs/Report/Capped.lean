import FaultReport.Draft
import FaultReport.Proofs.Excerpt.Covered

/-!
# Cursors that are too large

A cursor may be larger than any offset. Its offset is then the largest one, so cursors from there
on are taken for the same (`offset_some_inj_iff`). Only the unknown cursor stands before the
text, so it is taken for no other.

This cannot be seen in an excerpt. From the largest offset on, the standard window lies past a
text that is not nearly as long as that: it is pulled left, and it still starts where the text has
ended. The exact rule shows nothing there, whatever the cursor is
(`exact_standard_eq_empty`), and so the excerpt follows the exact rule at the cursor itself,
not only at its offset.

The main statement says so for the excerpt that a report shows and for the one that is worked
into the message of a failure, and it says which cursors have the same offset
(`excerpts_exact_at_place`).
-/

set_option autoImplicit false

namespace FaultReport

/-! ## Offsets of cursors -/

namespace Cursor

/-- The place of a cursor, of whatever size. An unknown cursor stands just before the text. -/
def place : Option Nat → Int
  | none => -1
  | some cursor => cursor

theorem offset_eq_min (cursor : Option Nat) :
    offset cursor = min (place cursor) Offset.greatest := by
  cases cursor with
  | none => rfl
  | some cursor => rfl

theorem least_le_offset (cursor : Option Nat) : Offset.least ≤ offset cursor := by
  cases cursor with
  | none => decide
  | some cursor => exact Int.le_trans (by decide) (Offset.ofCount_nonneg cursor)

theorem offset_le_greatest (cursor : Option Nat) : offset cursor ≤ Offset.greatest := by
  rw [offset_eq_min]
  exact Int.min_le_right _ _

/-- Two known cursors have the same offset exactly if they are equal or both too large. -/
theorem offset_some_inj_iff (first second : Nat) :
    offset (some first) = offset (some second) ↔
      first = second ∨ Offset.greatest ≤ first ∧ Offset.greatest ≤ second := by
  simp only [offset, Offset.ofCount]
  omega

end Cursor

/-! ## Windows past the text -/

namespace Excerpt

/-- The exact rule shows nothing where the window covers nothing. -/
theorem exact_eq_empty {window : Window} {text : String} {cursor : Int}
    (nothing : window.CoversNothing text.length cursor) : exact window text cursor = "" := by
  have collapsed := Span.between_eq_empty_iff.mpr (Window.coversNothing_iff.mp nothing)
  rw [exact, exactCharacters_eq_shown, String.length_toList, collapsed]
  rfl

theorem exact_standard_eq_empty {text : String} {cursor : Int}
    (short : (text.length : Int) < Offset.greatest - 30) (far : Offset.greatest ≤ cursor) :
    exact Window.standard text cursor = "" := by
  refine exact_eq_empty (Or.inr (Or.inr ?_))
  simp only [Window.standard]
  omega

/-- **The exact rule cannot tell a cursor from its offset.** -/
theorem exact_standard_offset {text : String} (short : (text.length : Int) < Offset.greatest - 30)
    (cursor : Option Nat) :
    exact Window.standard text (Cursor.offset cursor) =
      exact Window.standard text (Cursor.place cursor) := by
  rw [Cursor.offset_eq_min]
  by_cases inside : Cursor.place cursor ≤ Offset.greatest
  · rw [Int.min_eq_left inside]
  · have far : Offset.greatest ≤ Cursor.place cursor := Int.le_of_lt (Int.not_le.mp inside)
    rw [Int.min_eq_right far, exact_standard_eq_empty short (Int.le_refl _),
      exact_standard_eq_empty short far]

/-- The excerpt at the offset of a cursor follows the exact rule at the cursor. -/
theorem excerpt_offset_eq_exact {text : String}
    (short : (text.length : Int) < Offset.greatest - 30) (cursor : Option Nat) :
    excerpt (some text) (Cursor.offset cursor) =
      exact Window.standard text (Cursor.place cursor) := by
  have uncapped : Window.standard.capped = Window.standard := by decide
  have follows := Window.standard.excerpt_eq_exact text (Cursor.offset cursor)
    (Cursor.least_le_offset cursor) (Cursor.offset_le_greatest cursor) (by omega)
  rw [excerpt, follows, uncapped, exact_standard_offset short]

end Excerpt

/-! ## Reports and messages -/

namespace Cursor

/-- **Excerpts follow the exact rule at the cursor itself.** In a text shorter than the largest
offset by more than the standard window, the excerpt that a report shows, and the one that a
formatted message holds, are what the exact rule shows at the place of the cursor, although the
offset is the largest one for every cursor that is larger. The offset tells an unknown cursor from
all others, and known ones from each other unless both are too large. -/
theorem excerpts_exact_at_place :
    (∀ (report : Report) (text : String), report.text = some text →
      (text.length : Int) < Offset.greatest - 30 →
      report.excerpt = Excerpt.exact Window.standard text (place report.cursor)) ∧
    (∀ (draft : Draft) (text : String), draft.text = some text →
      (text.length : Int) < Offset.greatest - 30 → draft.eager = true →
      draft.raise.value.report.message =
        "Failed to compile:\n[Error: " ++ draft.statement ++ "]\n[Near: \x7b ... " ++
          Excerpt.exact Window.standard text (place draft.cursor) ++
          " ... \x7d ]\n[Position: " ++ Int.repr draft.cursorOffset ++ "]") ∧
    (∀ report : Report,
      report.cursorOffset = min (place report.cursor) Offset.greatest ∧
        (report.cursorOffset = -1 ↔ report.cursor = none)) ∧
    ∀ (report other : Report) (first second : Nat),
      report.cursor = some first → other.cursor = some second →
      (report.cursorOffset = other.cursorOffset ↔
        first = second ∨ Offset.greatest ≤ first ∧ Offset.greatest ≤ second) := by
  refine ⟨?_, ?_, ?_, ?_⟩
  · intro report text named short
    rw [Report.excerpt, named]
    exact Excerpt.excerpt_offset_eq_exact short report.cursor
  · intro draft text named short eager
    have shown := Excerpt.excerpt_offset_eq_exact short draft.cursor
    rw [Draft.message_raise_of_eager eager, named, Draft.cursorOffset, shown]
    rfl
  · intro report
    exact ⟨offset_eq_min report.cursor, offset_eq_neg_one_iff report.cursor⟩
  · intro report other first second here there
    rw [Report.cursorOffset, Report.cursorOffset, here, there]
    exact offset_some_inj_iff first second

/-- A draft with the largest cursor there is. -/
def farDraft : Draft :=
  { Draft.blank with text := some "ab", cursor := some (Count.limit - 1), eager := true }

/-- A report whose cursor is the largest offset. -/
def atGreatest : Report :=
  { Report.blank with text := some "ab", cursor := some Offset.greatest.toNat }

/-- The largest cursor and the largest offset are different cursors with the same offset. Nothing
is shown at either, as the exact rule says. -/
theorem excerpts_exact_at_place_far :
    farDraft.text = some "ab" ∧ atGreatest.text = some "ab" ∧
      (("ab".length : Nat) : Int) < Offset.greatest - 30 ∧ farDraft.eager = true ∧
      farDraft.report.cursor = some (Count.limit - 1) ∧
      atGreatest.cursor = some Offset.greatest.toNat ∧
      atGreatest.excerpt = Excerpt.exact Window.standard "ab" (place atGreatest.cursor) ∧
      Excerpt.exact Window.standard "ab" (place farDraft.cursor) = "" ∧
      farDraft.raise.value.report.message =
        "Failed to compile:\n[Error: ]\n[Near: \x7b ...  ... \x7d ]\n" ++
          "[Position: 9223372036854775807]" ∧
      farDraft.report.cursorOffset ≠ -1 ∧
      Count.limit - 1 ≠ Offset.greatest.toNat ∧
      farDraft.report.cursorOffset = atGreatest.cursorOffset := by
  have short : (("ab".length : Nat) : Int) < Offset.greatest - 30 := by decide
  have nothing : Excerpt.exact Window.standard "ab" (place farDraft.cursor) = "" :=
    Excerpt.exact_standard_eq_empty short (by decide)
  obtain ⟨shown, formatted, unknown, merged⟩ := excerpts_exact_at_place
  have message := formatted farDraft "ab" rfl short rfl
  rw [nothing] at message
  exact ⟨rfl, rfl, short, rfl, rfl, rfl, shown atGreatest "ab" rfl short, nothing,
    message.trans (by decide), mt (unknown farDraft.report).2.mp nofun, by decide,
    (merged farDraft.report atGreatest _ _ rfl rfl).mpr (Or.inr ⟨by decide, by decide⟩)⟩

end Cursor

end FaultReport
