/-!
# Checked counts

Counts of characters are unsigned 64-bit numbers.  Adding or multiplying two of
them is checked: a result that is no count is an overflow, and the overflow
records which operation had it.

The main statements say that a checked operation succeeds exactly when the exact
result is a count, and then returns that result (`add_eq_ok_iff`,
`multiply_eq_ok_iff`), and that it names itself when it does not succeed
(`add_eq_error_iff`, `multiply_eq_error_iff`).
-/

set_option autoImplicit false

namespace FaultReport

/-- The operation whose result was no count. -/
inductive Overflow where
  | add
  | multiply
  deriving DecidableEq, Repr

/-- The text that reports an overflow. -/
def Overflow.message : Overflow → String
  | .add => "attempt to add with overflow"
  | .multiply => "attempt to multiply with overflow"

namespace Count

/-- Counts are the numbers below this one. -/
def limit : Nat := 18446744073709551616

/-- Checked addition. -/
def add (left right : Nat) : Except Overflow Nat :=
  if left + right < limit then .ok (left + right) else .error .add

/-- Checked multiplication. -/
def multiply (left right : Nat) : Except Overflow Nat :=
  if left * right < limit then .ok (left * right) else .error .multiply

theorem add_eq_ok_iff {left right total : Nat} :
    add left right = .ok total ↔ left + right = total ∧ total < limit := by
  by_cases fits : left + right < limit
  · simp only [add, if_pos fits, Except.ok.injEq]
    omega
  · simp only [add, if_neg fits, reduceCtorEq, false_iff]
    omega

theorem add_eq_error_iff {left right : Nat} {overflow : Overflow} :
    add left right = .error overflow ↔ limit ≤ left + right ∧ overflow = .add := by
  by_cases fits : left + right < limit
  · simp only [add, if_pos fits, Nat.not_le.mpr fits, reduceCtorEq, false_and]
  · simp only [add, if_neg fits, Nat.not_lt.mp fits, Except.error.injEq, true_and, eq_comm]

theorem multiply_eq_ok_iff {left right total : Nat} :
    multiply left right = .ok total ↔ left * right = total ∧ total < limit := by
  by_cases fits : left * right < limit
  · simp only [multiply, if_pos fits, Except.ok.injEq]
    omega
  · simp only [multiply, if_neg fits, reduceCtorEq, false_iff]
    omega

theorem multiply_eq_error_iff {left right : Nat} {overflow : Overflow} :
    multiply left right = .error overflow ↔ limit ≤ left * right ∧ overflow = .multiply := by
  by_cases fits : left * right < limit
  · simp only [multiply, if_pos fits, Nat.not_le.mpr fits, reduceCtorEq, false_and]
  · simp only [multiply, if_neg fits, Nat.not_lt.mp fits, Except.error.injEq, true_and, eq_comm]

end Count

end FaultReport
