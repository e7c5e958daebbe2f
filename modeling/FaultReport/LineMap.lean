import FaultReport.Ordinal
import FaultReport.Position
import FaultReport.LineMap.Search

/-!
# Line maps

A line map answers which line and column a cursor stands on.  It holds the cursor
at which each line of a text starts, in order, and the number of characters of the
text.  It is built in one pass (`ofText`), by adding the characters of the text one
after the other to the map of the empty text, and then answers by binary search.

A line break belongs to the line that it ends.  A break at the end of a text opens
one more line, which is empty.  Cursors past the end stand just after the last
character.

Two maps are equal when their lines start at the same cursors and their texts are
equally long.
-/

set_option autoImplicit false

namespace FaultReport

/-- Where the lines of a text start, and how many characters it has. -/
structure LineMap where
  starts : Array Nat
  length : Nat
  deriving DecidableEq, Repr

namespace LineMap

/-! ## Building -/

/-- The map of the empty text: one line, and it starts at the beginning. -/
def empty : LineMap := ⟨#[0], 0⟩

/-- The map of a text with one more character at its end. -/
def push : LineMap → Char → LineMap
  | ⟨starts, length⟩, character =>
    ⟨if character = '\n' then starts.push (length + 1) else starts, length + 1⟩

/-- The map of a sequence of characters. -/
def ofList (characters : List Char) : LineMap := characters.foldl push empty

/-- The map of a text. -/
def ofText (text : String) : LineMap := ofList text.toList

@[simp]
theorem length_foldl_push (map : LineMap) (characters : List Char) :
    (characters.foldl push map).length = map.length + characters.length := by
  induction characters generalizing map with
  | nil => rfl
  | cons character rest ih =>
    rw [List.foldl_cons, ih, push, List.length_cons]
    simp only
    omega

@[simp]
theorem length_ofList (characters : List Char) :
    (ofList characters).length = characters.length := by
  rw [ofList, length_foldl_push, empty, Nat.zero_add]

/-! ## Answers -/

/-- The number of lines. -/
def lineCount (map : LineMap) : Nat := map.starts.size

/-- Whether the text has no characters. -/
def isEmpty (map : LineMap) : Bool := map.length == 0

/-- The index of the line that a cursor stands on: that of the last start which is
not after the cursor. -/
def indexAt (map : LineMap) (cursor : Nat) : Nat := (search map.starts cursor).floor

/-- The number of the line that a cursor stands on. -/
def lineAt (map : LineMap) (cursor : Nat) : Nat := Ordinal.ofIndex (map.indexAt cursor)

/-- The cursor at which a line starts, if the text has that line. -/
def startOf? (map : LineMap) (line : Nat) : Option Nat :=
  if line = 0 then none else map.starts[line - 1]?

/-- The line and column of a cursor. -/
def positionAt (map : LineMap) (cursor : Nat) : Position :=
  let line := map.lineAt cursor
  let start := (map.startOf? line).getD 0
  ⟨line, Ordinal.ofIndex (min cursor map.length - start)⟩

end LineMap

end FaultReport
