/-!
# Saturating offsets

A cursor may stand before the text it points into, and a window may reach past
either end, so places in a text are compared as signed offsets.  Offsets live in
the signed 64-bit range.  Arithmetic on them saturates: a result outside the
range becomes the nearest end of it.

The main statements bound the range from both sides (`least_le_clamp`,
`clamp_le_greatest`) and say that clamping changes nothing inside it
(`clamp_eq_self`), so saturating arithmetic is exact whenever the exact result
is an offset.
-/

set_option autoImplicit false

namespace FaultReport

namespace Offset

/-- The largest offset. -/
def greatest : Int := 9223372036854775807

/-- The smallest offset. -/
def least : Int := -9223372036854775808

/-- The offset nearest to an integer. -/
def clamp (value : Int) : Int := max least (min value greatest)

/-- The offset of a count: the count itself, or the largest offset for a count
that is no offset. -/
def ofCount (count : Nat) : Int := min (count : Int) greatest

/-- Saturating addition. -/
def add (left right : Int) : Int := clamp (left + right)

/-- Saturating subtraction. -/
def sub (left right : Int) : Int := clamp (left - right)

/-! ## The range -/

theorem least_le_clamp (value : Int) : least ≤ clamp value := by
  simp only [clamp]
  omega

theorem clamp_le_greatest (value : Int) : clamp value ≤ greatest := by
  simp only [clamp, least, greatest]
  omega

/-- Clamping changes nothing inside the range. -/
theorem clamp_eq_self {value : Int} (lower : least ≤ value) (upper : value ≤ greatest) :
    clamp value = value := by
  simp only [clamp]
  omega

theorem ofCount_nonneg (count : Nat) : 0 ≤ ofCount count := by
  simp only [ofCount, greatest]
  omega

theorem ofCount_le (count : Nat) : ofCount count ≤ count := by
  simp only [ofCount]
  omega

theorem ofCount_le_greatest (count : Nat) : ofCount count ≤ greatest := by
  simp only [ofCount]
  omega

end Offset

end FaultReport
