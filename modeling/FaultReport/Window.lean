import FaultReport.Offset
import FaultReport.Count

/-!
# Windows on a text

A window says how many characters before and after a cursor an excerpt may show.
Placed on a text of a given length it covers a span of characters.

A window that would reach past the end of the text is pulled left: it then ends
just before the last character and starts earlier by as much as it would have
shown after the cursor.  A window that covers nothing has the empty span.

The sizes of a window are checked counts, and its span is computed with
saturating offsets, so a span exists also for windows whose sizes overflow.  The
main statement on spans is that they lie inside the text (`start_le_stop_span`,
`stop_span_le`).
-/

set_option autoImplicit false

namespace FaultReport

/-- How many characters before and after a cursor to show. -/
structure Window where
  before : Nat
  after : Nat
  deriving DecidableEq, Repr

/-- A run of characters of a text, from `start` up to but not including `stop`. -/
structure Span where
  start : Nat
  stop : Nat
  deriving DecidableEq, Repr

/-- The span that covers nothing. -/
def Span.empty : Span := ⟨0, 0⟩

/-- The span between two offsets.  Places before the text count as its beginning,
and edges that enclose nothing give the empty span. -/
def Span.between (start stop : Int) : Span :=
  if stop.toNat ≤ start.toNat then Span.empty else ⟨start.toNat, stop.toNat⟩

namespace Window

/-- Ten characters before the cursor and twenty after it. -/
def standard : Window := ⟨10, 20⟩

/-! ## Sizes -/

/-- The number of characters a window covers where it fits. -/
def width (window : Window) : Except Overflow Nat :=
  Count.add window.before window.after

/-- The number of characters that no excerpt of this window exceeds. -/
def longest (window : Window) : Except Overflow Nat := do
  let twiceAfter ← Count.multiply 2 window.after
  let total ← Count.add window.before twiceAfter
  return total - 2

/-! ## Spans -/

/-- The offsets between which a window at `cursor` covers a text of `length`
characters, pulled left where it would reach past the end. -/
def edges (window : Window) (length cursor : Int) : Int × Int :=
  let start := Offset.sub cursor (Offset.ofCount window.before)
  let stop := Offset.add cursor (Offset.ofCount window.after)
  if length < stop then
    (Offset.sub start (Offset.ofCount window.after), length - 1)
  else
    (start, stop)

/-- The characters that a window at `cursor` covers in a text of `length`
characters. -/
def span (window : Window) (length : Nat) (cursor : Int) : Span :=
  let (start, stop) := window.edges (Offset.ofCount length) cursor
  Span.between start stop

/-- A window never ends past the text. -/
theorem edges_stop_le (window : Window) (length cursor : Int) :
    (window.edges length cursor).2 ≤ length := by
  simp only [edges]
  split <;> simp only <;> omega

theorem start_le_stop_span (window : Window) (length : Nat) (cursor : Int) :
    (window.span length cursor).start ≤ (window.span length cursor).stop := by
  simp only [span, Span.between]
  split
  · exact Nat.le_refl 0
  · simp only
    omega

theorem stop_span_le (window : Window) (length : Nat) (cursor : Int) :
    (window.span length cursor).stop ≤ length := by
  have inside := window.edges_stop_le (Offset.ofCount length) cursor
  have counted := Offset.ofCount_le length
  simp only [span, Span.between]
  split
  · exact Nat.zero_le length
  · simp only
    omega

end Window

end FaultReport
