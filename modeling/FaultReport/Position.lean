/-!
# Lines and columns

Places in a text are reported to readers as a line and a column, both counted from
one.  `walk` finds the position that a reader reaches by going over characters one
after the other from the beginning of a text.

The main statements say how a walk goes on: over one more character (`walk_concat`)
and over a second run of characters (`walk_append`).
-/

set_option autoImplicit false

namespace FaultReport

/-- A line and a column, both counted from one. -/
structure Position where
  line : Nat
  column : Nat
  deriving DecidableEq, Repr

namespace Position

/-- Where every text begins. -/
def origin : Position := ⟨1, 1⟩

/-- The position after one more character: a line break begins the next line, and
any other character moves on by one column. -/
def advance (position : Position) (character : Char) : Position :=
  if character = '\n' then ⟨position.line + 1, 1⟩ else ⟨position.line, position.column + 1⟩

/-- The position reached by walking over characters from the beginning. -/
def walk (characters : List Char) : Position := characters.foldl advance origin

theorem walk_append (first second : List Char) :
    walk (first ++ second) = second.foldl advance (walk first) :=
  List.foldl_append

theorem walk_concat (characters : List Char) (last : Char) :
    walk (characters ++ [last]) = (walk characters).advance last :=
  walk_append characters [last]

end Position

end FaultReport
