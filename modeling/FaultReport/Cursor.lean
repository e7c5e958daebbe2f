import FaultReport.Offset

/-!
# Cursors as offsets

A cursor counts characters from the beginning of a text and may be unknown.  As an
offset, an unknown cursor stands just before the text, and a cursor that is too
large stands at the largest offset.

The main statement is that only the unknown cursor stands before the text
(`offset_eq_neg_one_iff`).
-/

set_option autoImplicit false

namespace FaultReport

namespace Cursor

/-- The offset of a cursor that may be unknown. -/
def offset : Option Nat → Int
  | none => -1
  | some cursor => Offset.ofCount cursor

theorem offset_eq_neg_one_iff (cursor : Option Nat) : offset cursor = -1 ↔ cursor = none := by
  cases cursor with
  | none => simp only [offset]
  | some cursor =>
    have counted := Offset.ofCount_nonneg cursor
    simp only [offset, reduceCtorEq, iff_false]
    omega

end Cursor

end FaultReport
