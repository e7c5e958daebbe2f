import FaultReport.Excerpt

/-!
# The excerpt in exact integers

The rule for excerpts, stated without a bound on the numbers in it.  A window is
laid around the cursor, pulled left where it would reach past the end of the text,
and moved forward to the beginning of the text where it would start before it.  Then
the start moves on, one character at a time, while it stands on a blank and before
the stop.  What lies between start and stop is the excerpt.

`Window.capped` counts a size that is no offset as the largest offset.
-/

set_option autoImplicit false

namespace FaultReport

/-- The window with sizes above the largest offset replaced by it. -/
def Window.capped (window : Window) : Window where
  before := min window.before Offset.greatest.toNat
  after := min window.after Offset.greatest.toNat

namespace Excerpt

/-- Where the window starts and stops, before the start is moved to the text. -/
def exactEdges (window : Window) (length : Nat) (cursor : Int) : Int × Int :=
  if length < cursor + window.after then
    (cursor - window.before - window.after, length - 1)
  else
    (cursor - window.before, cursor + window.after)

/-- Moves `start` on while it is before `stop` and stands on a blank. -/
def skipBlanks (characters : List Char) (start stop : Nat) : Nat :=
  if unfinished : start < stop then
    if characters[start]?.any Text.isBlank then skipBlanks characters (start + 1) stop
    else start
  else
    start
termination_by stop - start

/-- The characters of the excerpt of a text around a cursor. -/
def exactCharacters (window : Window) (characters : List Char) (cursor : Int) : List Char :=
  let (start, stop) := exactEdges window characters.length cursor
  let first := skipBlanks characters start.toNat stop.toNat
  (characters.drop first).take (stop.toNat - first)

/-- The excerpt of a text around a cursor. -/
def exact (window : Window) (text : String) (cursor : Int) : String :=
  String.ofList (exactCharacters window text.toList cursor)

end Excerpt

end FaultReport
