import FaultReport.Proofs.LineMap.Walk

/-!
# Positions in reading order

Positions are read line by line, and within a line column by column. Up to the end of a text,
cursors and positions are in the same order: a later cursor has a later position
(`positionAt_before`), since every character that is walked over leads on
(`Position.before_advance`). From the end on the position stays the same
(`positionAt_of_length_le`).

Positions can also be turned back into cursors. The line of a cursor has a start, and start
and column give the cursor back, or the end of the text for a cursor past it
(`startOf?_positionAt`). The lines of the map are exactly those that have a start
(`isSome_startOf?_iff`), and a column on such a line that does not reach the next line or
pass the end is the position of the cursor that start and column give
(`positionAt_add_column`). The main statement puts these together
(`positionAt_orderIso`).
-/

set_option autoImplicit false

namespace FaultReport

/-! ## Reading order -/

namespace Position

/-- The first position comes before the second in reading order. -/
def Before (first second : Position) : Prop :=
  first.line < second.line ∨ first.line = second.line ∧ first.column < second.column

instance : DecidableRel Before := fun first second =>
  inferInstanceAs (Decidable
    (first.line < second.line ∨ first.line = second.line ∧ first.column < second.column))

theorem Before.trans {first second third : Position} (earlier : first.Before second)
    (later : second.Before third) : first.Before third := by
  simp only [Before] at earlier later ⊢
  omega

theorem before_advance (position : Position) (character : Char) :
    position.Before (position.advance character) := by
  by_cases isBreak : character = '\n'
  · rw [advance, if_pos isBreak]
    exact Or.inl (Nat.lt_succ_self _)
  · rw [advance, if_neg isBreak]
    exact Or.inr ⟨rfl, Nat.lt_succ_self _⟩

/-- **A walk that goes on leads on.** -/
theorem walk_before_walk_append (front : List Char) {rest : List Char} (goesOn : rest ≠ []) :
    (walk front).Before (walk (front ++ rest)) := by
  rw [walk_append]
  generalize walk front = position
  induction rest generalizing position with
  | nil => exact absurd rfl goesOn
  | cons character rest ih =>
      rw [List.foldl_cons]
      by_cases stops : rest = []
      · rw [stops, List.foldl_nil]
        exact before_advance position character
      · exact (before_advance position character).trans (ih stops _)

end Position

namespace LineMap

/-! ## Starts of numbered lines -/

theorem startOf?_eq_some_iff {map : LineMap} {line start : Nat} :
    map.startOf? line = some start ↔
      ∃ index, line = index + 1 ∧ map.starts[index]? = some start := by
  cases line with
  | zero =>
      constructor
      · intro found
        cases found
      · rintro ⟨index, numbered, _⟩
        exact absurd numbered.symm (Nat.succ_ne_zero index)
  | succ index =>
      have found : map.startOf? (index + 1) = map.starts[index]? :=
        if_neg (Nat.succ_ne_zero index)
      rw [found]
      constructor
      · intro here
        exact ⟨index, rfl, here⟩
      · rintro ⟨other, numbered, here⟩
        rw [Nat.succ.inj numbered]
        exact here

/-- **The lines of a map are those that have a start.** -/
theorem isSome_startOf?_iff (map : LineMap) (line : Nat) :
    (map.startOf? line).isSome ↔ 1 ≤ line ∧ line ≤ map.lineCount := by
  rw [Option.isSome_iff_exists, lineCount]
  constructor
  · rintro ⟨start, found⟩
    obtain ⟨index, rfl, here⟩ := startOf?_eq_some_iff.mp found
    obtain ⟨inside, _⟩ := Array.getElem?_eq_some_iff.mp here
    omega
  · rintro ⟨positive, inside⟩
    have there : line - 1 < map.starts.size := by omega
    exact ⟨map.starts[line - 1], startOf?_eq_some_iff.mpr
      ⟨line - 1, by omega, Array.getElem?_eq_getElem there⟩⟩

theorem onLine_add_column {map : LineMap} {line start column : Nat}
    (found : map.startOf? line = some start) (positive : 1 ≤ column)
    (within : ∀ next, map.startOf? (line + 1) = some next → start + column - 1 < next) :
    map.OnLine (start + column - 1) (line - 1) start := by
  obtain ⟨index, rfl, here⟩ := startOf?_eq_some_iff.mp found
  refine ⟨here, by omega, ?_⟩
  intro next there
  exact within next (startOf?_eq_some_iff.mpr ⟨index + 1, rfl, there⟩)

/-! ## Cursors and their positions -/

section Short

variable {characters : List Char} (short : characters.length < Ordinal.limit - 1)
include short

/-- **A later cursor has a later position**, up to the end. -/
theorem positionAt_before {first second : Nat} (order : first < second)
    (inside : second ≤ characters.length) :
    ((ofList characters).positionAt first).Before ((ofList characters).positionAt second) := by
  have split : characters.take second =
      characters.take first ++ (characters.drop first).take (second - first) := by
    rw [← List.take_add, Nat.add_sub_cancel' (Nat.le_of_lt order)]
  have goesOn : (characters.drop first).take (second - first) ≠ [] := by
    refine List.ne_nil_of_length_pos ?_
    rw [List.length_take, List.length_drop]
    omega
  rw [positionAt_ofList short, positionAt_ofList short, split]
  exact Position.walk_before_walk_append _ goesOn

theorem positionAt_of_length_le {cursor : Nat} (past : characters.length ≤ cursor) :
    (ofList characters).positionAt cursor =
      (ofList characters).positionAt characters.length := by
  rw [positionAt_ofList short, positionAt_ofList short, List.take_of_length_le past,
    List.take_length]

/-- **Line and column give the cursor back**, or the end for a cursor past it. -/
theorem startOf?_positionAt (cursor : Nat) :
    ∃ start, (ofList characters).startOf? ((ofList characters).positionAt cursor).line =
        some start ∧
      start + ((ofList characters).positionAt cursor).column =
        min cursor characters.length + 1 := by
  have on := onLine_take characters cursor
  have reached := lastStart_le (characters.take cursor)
  rw [List.length_take] at reached
  rw [positionAt_ofList short, walk_eq, List.length_take]
  refine ⟨lastStart (characters.take cursor), on.startOf?_succ, ?_⟩
  simp only
  omega

/-- **A column on a line is a position**, unless it reaches the next line or passes the
end. -/
theorem positionAt_add_column {line start column : Nat}
    (found : (ofList characters).startOf? line = some start) (positive : 1 ≤ column)
    (inside : start + column - 1 ≤ characters.length)
    (within : ∀ next, (ofList characters).startOf? (line + 1) = some next →
      start + column - 1 < next) :
    (ofList characters).positionAt (start + column - 1) = ⟨line, column⟩ := by
  have numbered : 1 ≤ line ∧ line ≤ (ofList characters).lineCount :=
    (isSome_startOf?_iff _ line).mp (Option.isSome_of_eq_some found)
  have counted := List.count_le_length (a := '\n') (l := characters)
  rw [lineCount_ofList] at numbered
  have on := onLine_add_column found positive within
  rw [on.positionAt_eq (increasing_starts characters) (by omega)
    (by rw [length_ofList]; omega), length_ofList]
  refine congrArg₂ Position.mk ?_ ?_
  · omega
  · omega

end Short

/-- **Cursors up to the end and their positions are in the same order, and each gives the
other back.** Later cursors have later positions, and from the end on the position stays the
same. Every position leads back to its cursor through the start of its line. The lines with
a start are the lines of the text, and every column on one of them that neither reaches the
next line nor passes the end is the position of the cursor it stands for. -/
theorem positionAt_orderIso (text : String) (short : text.length < Ordinal.limit - 1) :
    (∀ first second, first < second → second ≤ text.length →
      ((ofText text).positionAt first).Before ((ofText text).positionAt second)) ∧
    (∀ cursor, text.length ≤ cursor →
      (ofText text).positionAt cursor = (ofText text).positionAt text.length) ∧
    (∀ cursor, ∃ start,
      (ofText text).startOf? ((ofText text).positionAt cursor).line = some start ∧
      start + ((ofText text).positionAt cursor).column = min cursor text.length + 1) ∧
    (∀ line, ((ofText text).startOf? line).isSome ↔ 1 ≤ line ∧ line ≤ (ofText text).lineCount) ∧
    (∀ line start column, (ofText text).startOf? line = some start → 1 ≤ column →
      start + column - 1 ≤ text.length →
      (line < (ofText text).lineCount →
        ∀ next, (ofText text).startOf? (line + 1) = some next → start + column - 1 < next) →
      (ofText text).positionAt (start + column - 1) = ⟨line, column⟩) := by
  simp only [← String.length_toList] at short ⊢
  refine ⟨?_, ?_, ?_, ?_, ?_⟩
  · intro first second order inside
    exact positionAt_before short order inside
  · intro cursor past
    exact positionAt_of_length_le short past
  · exact startOf?_positionAt short
  · exact isSome_startOf?_iff _
  · intro line start column found positive inside within
    refine positionAt_add_column short found positive inside ?_
    intro next there
    have numbered := (isSome_startOf?_iff _ _).mp (Option.isSome_of_eq_some there)
    exact within (Nat.lt_of_succ_le numbered.2) next there

/-- The order of positions in a text that ends with a break, and its empty last line. -/
theorem positionAt_orderIso_trailing_break :
    "a\n".length < Ordinal.limit - 1 ∧
      ((ofText "a\n").positionAt 1).Before ((ofText "a\n").positionAt 2) ∧
      (ofText "a\n").positionAt 7 = (ofText "a\n").positionAt 2 ∧
      (ofText "a\n").startOf? 2 = some 2 ∧ (ofText "a\n").positionAt (2 + 1 - 1) = ⟨2, 1⟩ := by
  have short : "a\n".length < Ordinal.limit - 1 := by decide
  have found : (ofText "a\n").startOf? 2 = some 2 := by decide
  obtain ⟨ordered, ended, _, _, placed⟩ := positionAt_orderIso "a\n" short
  refine ⟨short, ordered 1 2 (by decide) (by decide), ended 7 (by decide), found, ?_⟩
  refine placed 2 2 1 found (by decide) (by decide) ?_
  intro notLast
  exact absurd notLast (by decide)

end LineMap

end FaultReport
