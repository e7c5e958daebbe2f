import FaultReport.Proofs.LineMap.Starts
import Mathlib.Data.List.Induction

/-!
# The map agrees with the walk

A reader who walks over a text counts lines and columns one character at a time. The map
answers by a search among line starts. For a text in which every line and column has a number
the two agree at every cursor (`positionAt_lineAt_eq_walk`).

The walk over some characters ends on the line that the last break opened, as many columns
past its start as there are characters since (`walk_eq`). Of the search only its promise is
used: any outcome that answers it names the same line. A cursor past the end of the text is
that of the end, for the walk because there are no more characters and for the map because
columns are counted no further.
-/

set_option autoImplicit false

namespace FaultReport.LineMap

/-! ## The end of a walk -/

theorem lastStart_concat_break (characters : List Char) :
    lastStart (characters ++ ['\n']) = characters.length + 1 := by
  rw [lastStart, startsFrom_append, startsFrom_cons_break, startsFrom, List.getLast?_concat,
    Option.getD_some, Nat.zero_add]

theorem lastStart_concat_of_ne {last : Char} (noBreak : last ≠ '\n') (characters : List Char) :
    lastStart (characters ++ [last]) = lastStart characters := by
  rw [lastStart, startsFrom_append, startsFrom_cons_of_ne noBreak, startsFrom, List.append_nil,
    lastStart]

/-- **A walk ends on the line that the last break opened**, as far past its start as the
characters reach. -/
theorem walk_eq (characters : List Char) :
    Position.walk characters =
      ⟨characters.count '\n' + 1, characters.length - lastStart characters + 1⟩ := by
  induction characters using List.reverseRecOn with
  | nil => rfl
  | append_singleton front last ih =>
      rw [Position.walk_concat, ih, Position.advance, List.count_append, List.length_append,
        List.length_singleton]
      by_cases isBreak : last = '\n'
      · rw [if_pos isBreak, isBreak, lastStart_concat_break, Nat.sub_self,
          List.count_singleton_self]
      · have reached := lastStart_le front
        have column : front.length - lastStart front + 1 + 1 =
            front.length + 1 - lastStart front + 1 := by omega
        rw [if_neg isBreak, lastStart_concat_of_ne isBreak, column,
          List.count_eq_zero_of_not_mem (fun member => isBreak (List.mem_singleton.mp member).symm)]

/-! ## Agreement -/

section Short

variable {characters : List Char} (short : characters.length < Ordinal.limit - 1) (cursor : Nat)
include short

theorem count_take_succ_lt_limit :
    (characters.take cursor).count '\n' + 1 < Ordinal.limit := by
  have counted := List.count_le_length (a := '\n') (l := characters.take cursor)
  rw [List.length_take] at counted
  omega

theorem lineAt_ofList :
    (ofList characters).lineAt cursor = (characters.take cursor).count '\n' + 1 :=
  (onLine_take characters cursor).lineAt_eq (increasing_starts characters)
    (count_take_succ_lt_limit short cursor)

theorem positionAt_ofList :
    (ofList characters).positionAt cursor = Position.walk (characters.take cursor) := by
  have fits : (ofList characters).length + 1 < Ordinal.limit := by
    rw [length_ofList]
    omega
  rw [(onLine_take characters cursor).positionAt_eq (increasing_starts characters)
    (count_take_succ_lt_limit short cursor) fits, walk_eq, length_ofList, List.length_take]

end Short

/-- **Line maps agree with the walk.** At every cursor, also past the end of the text, the
position is where a walk over the characters before the cursor ends, and the line is one more
than the number of breaks among them. The search that finds the line answers, and every other
outcome that answers it finds the same line. -/
theorem positionAt_lineAt_eq_walk (text : String) (short : text.length < Ordinal.limit - 1)
    (cursor : Nat) :
    (ofText text).positionAt cursor = Position.walk (text.toList.take cursor) ∧
      (ofText text).lineAt cursor = 1 + (text.toList.take cursor).count '\n' ∧
      (search (ofText text).starts cursor).Answers (ofText text).starts cursor ∧
      ∀ probe : Probe, probe.Answers (ofText text).starts cursor →
        Ordinal.ofIndex probe.floor = 1 + (text.toList.take cursor).count '\n' := by
  rw [← String.length_toList] at short
  have increasing := increasing_starts text.toList
  have on := onLine_take text.toList cursor
  refine ⟨positionAt_ofList short cursor, ?_, search_answers increasing cursor, ?_⟩
  · rw [Nat.add_comm]
    exact lineAt_ofList short cursor
  · intro probe answers
    rw [answers.floor_eq increasing on.starts on.reached on.last,
      Ordinal.ofIndex_eq (count_take_succ_lt_limit short cursor), Nat.add_comm]

/-- A cursor past the end, after two breaks in a row. -/
theorem positionAt_lineAt_past_end :
    "ab\n\ncd".length < Ordinal.limit - 1 ∧
      (ofText "ab\n\ncd").positionAt 100 = Position.walk ("ab\n\ncd".toList.take 100) ∧
      (ofText "ab\n\ncd").lineAt 100 = 1 + ("ab\n\ncd".toList.take 100).count '\n' ∧
      Position.walk ("ab\n\ncd".toList.take 100) = ⟨3, 3⟩ := by
  have short : "ab\n\ncd".length < Ordinal.limit - 1 := by decide
  have agrees := positionAt_lineAt_eq_walk "ab\n\ncd" short 100
  exact ⟨short, agrees.1, agrees.2.1, by decide⟩

end FaultReport.LineMap
