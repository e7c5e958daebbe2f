import FaultReport.Count
import FaultReport.Proofs.LineMap.ReadingOrder
import Mathlib.Data.List.Sort

/-!
# What lookups tell of a text

A map keeps the length of its text and the places of its breaks, and forgets all other
characters. Two texts have the same map exactly if they agree on these (`ofList_eq_iff`): the
starts go up strictly, so they are known once it is known which places are among them.

Lookups give all of this back. Walking past a character leads to the next line exactly where
that character is a break (`line_positionAt_succ_iff`). The length is told by where positions
stop moving: a text that is longer still has a later position to give where the other has
ended (`length_le_of_positionAt_eq`).

So two texts that answer every lookup in the same way have the same map. The main statement
says that equal maps, texts with the same breaks and equal lookups are one and the same
(`ofText_eq_iff_positionAt`).
-/

set_option autoImplicit false

namespace FaultReport

theorem Position.not_before_self (position : Position) : ¬ position.Before position := by
  simp only [Before]
  omega

namespace LineMap

/-! ## Equal maps -/

theorem getElem?_eq_break_iff {characters : List Char} {place : Nat} :
    characters[place]? = some '\n' ↔ place + 1 ∈ startsFrom 0 characters := by
  simp only [mem_startsFrom_iff, Nat.zero_add, Nat.add_right_cancel_iff, exists_eq_right']

/-- Texts open lines at the same places exactly if their breaks are at the same places. -/
theorem startsFrom_eq_iff {first second : List Char} :
    startsFrom 0 first = startsFrom 0 second ↔
      ∀ place : Nat, first[place]? = some '\n' ↔ second[place]? = some '\n' := by
  constructor
  · intro same place
    rw [getElem?_eq_break_iff, getElem?_eq_break_iff, same]
  · intro same
    refine (pairwise_startsFrom 0 first).eq_of_mem_iff (pairwise_startsFrom 0 second) ?_
    intro start
    simp only [mem_startsFrom_iff, same]

/-- **A map keeps the length and the breaks of its text, and nothing else.** -/
theorem ofList_eq_iff {first second : List Char} :
    ofList first = ofList second ↔
      first.length = second.length ∧
        ∀ place : Nat, first[place]? = some '\n' ↔ second[place]? = some '\n' := by
  rw [← startsFrom_eq_iff]
  constructor
  · intro same
    have starts : 0 :: startsFrom 0 first = 0 :: startsFrom 0 second := by
      rw [← toList_starts_ofList, same, toList_starts_ofList]
    have length : (ofList first).length = (ofList second).length := congrArg LineMap.length same
    rw [length_ofList, length_ofList] at length
    exact ⟨length, List.tail_eq_of_cons_eq starts⟩
  · rintro ⟨length, opened⟩
    have starts : (ofList first).starts = (ofList second).starts := by
      rw [← Array.toList_inj, toList_starts_ofList, toList_starts_ofList, opened]
    rw [← length_ofList first, ← length_ofList second] at length
    exact congrArg₂ LineMap.mk starts length

/-! ## Equal lookups -/

section Short

variable {first second : List Char} (short : first.length < Ordinal.limit - 1)
include short

/-- **The next line begins exactly past a break.** -/
theorem line_positionAt_succ_iff (cursor : Nat) :
    ((ofList first).positionAt (cursor + 1)).line =
        ((ofList first).positionAt cursor).line + 1 ↔
      first[cursor]? = some '\n' := by
  rw [positionAt_ofList short, positionAt_ofList short, List.take_add_one]
  cases here : first[cursor]? with
  | none =>
      simp only [Option.toList_none, List.append_nil, Nat.left_eq_add, Nat.succ_ne_self,
        reduceCtorEq]
  | some character =>
      rw [Option.toList_some, Position.walk_concat, Position.advance]
      by_cases isBreak : character = '\n'
      · simp only [isBreak, ↓reduceIte]
      · simp only [isBreak, ↓reduceIte, Nat.left_eq_add, Nat.succ_ne_self, Option.some.injEq]

variable (short' : second.length < Ordinal.limit - 1)
include short'

/-- A text that is looked up like another, up to one past the end of that one, is no longer. -/
theorem length_le_of_positionAt_eq
    (agree : ∀ cursor, cursor ≤ first.length + 1 →
      (ofList first).positionAt cursor = (ofList second).positionAt cursor) :
    second.length ≤ first.length := by
  by_contra shorter
  have ordered := positionAt_before short' (Nat.lt_succ_self first.length)
    (Nat.lt_of_not_le shorter)
  -- The first text has ended, so both cursors stand at the same position in it.
  rw [← agree first.length (Nat.le_succ _), ← agree (first.length + 1) (Nat.le_refl _),
    positionAt_of_length_le short (Nat.le_succ first.length)] at ordered
  exact Position.not_before_self _ ordered

/-- **Equal lookups come from equal maps**, already if cursors are counts. -/
theorem ofList_eq_of_positionAt_eq
    (agree : ∀ cursor, cursor < Count.limit →
      (ofList first).positionAt cursor = (ofList second).positionAt cursor) :
    ofList first = ofList second := by
  have counted : Ordinal.limit < Count.limit := by decide
  have length : first.length = second.length := by
    refine Nat.le_antisymm ?_ ?_
    · refine length_le_of_positionAt_eq short' short ?_
      intro cursor reached
      exact (agree cursor (by omega)).symm
    · refine length_le_of_positionAt_eq short short' ?_
      intro cursor reached
      exact agree cursor (by omega)
  refine ofList_eq_iff.mpr ⟨length, ?_⟩
  intro place
  by_cases inside : place < first.length
  · rw [← line_positionAt_succ_iff short, ← line_positionAt_succ_iff short',
      agree place (by omega), agree (place + 1) (by omega)]
  · rw [List.getElem?_eq_none (by omega), List.getElem?_eq_none (by omega)]

end Short

/-- **Maps are equal exactly if no lookup tells them apart.** Two texts have the same map if and
only if they are equally long and have their breaks at the same places, and if and only if every
cursor has the same line and column in both. -/
theorem ofText_eq_iff_positionAt (first second : String)
    (short : first.length < Ordinal.limit - 1) (short' : second.length < Ordinal.limit - 1) :
    (ofText first = ofText second ↔
      first.length = second.length ∧
        ∀ place : Nat, first.toList[place]? = some '\n' ↔ second.toList[place]? = some '\n') ∧
    (ofText first = ofText second ↔
      ∀ cursor, cursor < Count.limit →
        (ofText first).positionAt cursor = (ofText second).positionAt cursor) := by
  simp only [← String.length_toList] at short short' ⊢
  refine ⟨ofList_eq_iff, ?_, ?_⟩
  · intro same cursor _
    rw [same]
  · intro agree
    exact ofList_eq_of_positionAt_eq short short' agree

/-- Texts whose breaks are at the same places are looked up alike, and a break that is added at
the end is noticed. -/
theorem ofText_eq_iff_positionAt_trailing_break :
    "a\nb".length < Ordinal.limit - 1 ∧ "x\ny".length < Ordinal.limit - 1 ∧
      "a\nb\n".length < Ordinal.limit - 1 ∧
      ofText "a\nb" = ofText "x\ny" ∧
      (ofText "a\nb").positionAt 3 = (ofText "x\ny").positionAt 3 ∧
      "a\nb".length ≠ "a\nb\n".length ∧
      ¬ ∀ cursor, cursor < Count.limit →
        (ofText "a\nb").positionAt cursor = (ofText "a\nb\n").positionAt cursor := by
  have short : "a\nb".length < Ordinal.limit - 1 := by decide
  have short' : "x\ny".length < Ordinal.limit - 1 := by decide
  have longer : "a\nb\n".length < Ordinal.limit - 1 := by decide
  have same : ofText "a\nb" = ofText "x\ny" := by decide
  obtain ⟨_, alike⟩ := ofText_eq_iff_positionAt "a\nb" "x\ny" short short'
  obtain ⟨kept, told⟩ := ofText_eq_iff_positionAt "a\nb" "a\nb\n" short longer
  refine ⟨short, short', longer, same, alike.mp same 3 (by decide), by decide, ?_⟩
  intro agree
  exact absurd (kept.mp (told.mpr agree)).1 (by decide)

end LineMap

end FaultReport
