/-!
# Ordinals

Lines and columns are numbered from one, by unsigned 32-bit numbers.  An index that
is too large to be one of them gets the largest as its number.  The largest is itself
an index, and no ordinal comes after it: there the addition wraps around, and the
index gets zero.  Where additions are checked it gets no number at all, so that what
asked for the number has no outcome.  All other indices have the same number either
way.

The main statement is that the number of an index is one more than the index
wherever one more is an ordinal (`ofIndex_eq`).
-/

set_option autoImplicit false

namespace FaultReport

namespace Ordinal

/-- Ordinals are the numbers below this one. -/
def limit : Nat := 4294967296

/-- An index as an ordinal.  One that is too large becomes the last but one, which
still has a number. -/
def narrow (index : Nat) : Nat := if index < limit then index else limit - 2

/-- The number, counted from one, of an index counted from zero.  The addition wraps
around. -/
def ofIndex (index : Nat) : Nat := (narrow index + 1) % limit

/-- The text of an ordinal that may be absent. -/
def render : Option Nat → String
  | none => "-1"
  | some ordinal => Nat.repr ordinal

theorem ofIndex_eq {index : Nat} (fits : index + 1 < limit) : ofIndex index = index + 1 := by
  rw [ofIndex, narrow, if_pos (Nat.lt_of_succ_lt fits), Nat.mod_eq_of_lt fits]

/-- As an index the largest ordinal wraps around, while a larger index has it as its number. -/
example : ofIndex (limit - 1) = 0 ∧ ofIndex limit = limit - 1 := by decide

end Ordinal

end FaultReport
