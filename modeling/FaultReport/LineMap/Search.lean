/-!
# Binary search

Search for a key in an array of numbers that is sorted.  The outcome is the place
of the key, or the place where it would have to be inserted to keep the array
sorted.

`searchBetween` works on the half-open range from `low` up to but not including
`high`, which halves with every comparison.
-/

set_option autoImplicit false

namespace FaultReport.LineMap

/-- The outcome of a search. -/
inductive Probe where
  /-- The key stands at this place. -/
  | found (place : Nat)
  /-- The key is absent and belongs at this place. -/
  | absent (place : Nat)
  deriving DecidableEq, Repr

/-- The place of the last entry that is not after the key, for a key that is not before all
entries. -/
def Probe.floor : Probe → Nat
  | .found place => place
  | .absent place => place - 1

/-- Search for `key` among the entries from `low` up to but not including `high`. -/
def searchBetween (entries : Array Nat) (key low high : Nat) (inside : high ≤ entries.size) :
    Probe :=
  if nonempty : low < high then
    let middle := low + (high - low) / 2
    have below : middle < high := by omega
    let entry := entries[middle]
    if entry = key then .found middle
    else if entry < key then searchBetween entries key (middle + 1) high inside
    else searchBetween entries key low middle (by omega)
  else
    .absent low
termination_by high - low

/-- Search for `key` in a sorted array. -/
def search (entries : Array Nat) (key : Nat) : Probe :=
  searchBetween entries key 0 entries.size (Nat.le_refl _)

end FaultReport.LineMap
