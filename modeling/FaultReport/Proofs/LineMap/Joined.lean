import FaultReport.Proofs.LineMap.Walk

/-!
# Joined texts

Two texts that are joined share a line: the last line of the first text goes on with the first
line of the second. All other lines stay as they are, those of the second text behind those of
the first. So the map of the joined text has the starts of both maps but one, and the starts of
the second are moved past the first text (`toList_starts_ofList_append`).

Positions are joined in the same way. What comes after a position adds its lines to it, and its
columns as long as it stays on the line (`Position.join`). A walk over two runs of characters
ends where the walks over each of them are joined (`Position.walk_append_eq_join`).

The main statement says where the lines of a joined text start, how many there are, and where
every cursor stands: before the seam as in the first text, and behind it as in the second, on
later lines (`ofText_append`).
-/

set_option autoImplicit false

namespace FaultReport

/-! ## Joined positions -/

namespace Position

/-- The position that is reached from `first` by characters that lead to `second` from the
beginning of a text. -/
def join (first second : Position) : Position :=
  if second.line = 1 then ⟨first.line, first.column + second.column - 1⟩
  else ⟨first.line + second.line - 1, second.column⟩

theorem join_of_first_line {first second : Position} (stays : second.line = 1) :
    first.join second = ⟨first.line, first.column + second.column - 1⟩ :=
  if_pos stays

theorem join_of_later_line {first second : Position} (leaves : second.line ≠ 1) :
    first.join second = ⟨first.line + second.line - 1, second.column⟩ :=
  if_neg leaves

theorem line_join (first second : Position) :
    (first.join second).line = first.line + second.line - 1 := by
  by_cases stays : second.line = 1
  · rw [join_of_first_line stays, stays, Nat.add_sub_cancel]
  · rw [join_of_later_line stays]

theorem join_advance (first : Position) {second : Position} (line : 1 ≤ second.line)
    (column : 1 ≤ second.column) (character : Char) :
    (first.join second).advance character = first.join (second.advance character) := by
  by_cases isBreak : character = '\n'
  · have leaves : second.line + 1 ≠ 1 := by omega
    have moved : first.line + second.line - 1 + 1 = first.line + (second.line + 1) - 1 := by omega
    rw [advance, if_pos isBreak, advance, if_pos isBreak, line_join, moved]
    exact (if_neg leaves).symm
  · have moved : first.column + second.column - 1 + 1 = first.column + (second.column + 1) - 1 := by
      omega
    rw [advance, if_neg isBreak, advance, if_neg isBreak]
    by_cases stays : second.line = 1
    · simp only [join, stays, ↓reduceIte, moved]
    · simp only [join, stays, ↓reduceIte]

/-- Walks begin at the first line and column, and never lead back past them. -/
theorem one_le_walk (characters : List Char) :
    1 ≤ (walk characters).line ∧ 1 ≤ (walk characters).column := by
  rw [LineMap.walk_eq]
  exact ⟨Nat.le_add_left _ _, Nat.le_add_left _ _⟩

/-- **A walk over two runs of characters joins the walks over each.** -/
theorem walk_append_eq_join (first second : List Char) :
    walk (first ++ second) = (walk first).join (walk second) := by
  induction second using List.reverseRecOn with
  | nil =>
      rw [List.append_nil]
      rfl
  | append_singleton front last ih =>
      obtain ⟨line, column⟩ := one_le_walk front
      rw [← List.append_assoc, walk_concat, ih, walk_concat, join_advance _ line column]

end Position

namespace LineMap

/-! ## Joined maps -/

theorem startsFrom_add (offset place : Nat) (characters : List Char) :
    startsFrom (offset + place) characters =
      (startsFrom place characters).map (offset + ·) := by
  induction characters generalizing place with
  | nil => rfl
  | cons character rest ih =>
      by_cases isBreak : character = '\n'
      · subst isBreak
        rw [startsFrom_cons_break, startsFrom_cons_break, List.map_cons, Nat.add_assoc, ih]
      · rw [startsFrom_cons_of_ne isBreak, startsFrom_cons_of_ne isBreak, Nat.add_assoc, ih]

/-- The end of a text is on its last line. -/
theorem line_positionAt_length {characters : List Char}
    (short : characters.length < Ordinal.limit - 1) :
    ((ofList characters).positionAt characters.length).line = (ofList characters).lineCount := by
  rw [positionAt_ofList short, List.take_length, walk_eq, lineCount_ofList]

section Join

variable (first second : List Char)

/-- **A joined text has the starts of both texts**, but for that of the second text itself,
which begins on a line of the first. -/
theorem toList_starts_ofList_append :
    (ofList (first ++ second)).starts.toList =
      (ofList first).starts.toList ++
        (ofList second).starts.toList.tail.map (first.length + ·) := by
  have behind : startsFrom (0 + first.length) second =
      (startsFrom 0 second).map (first.length + ·) := by
    rw [Nat.zero_add]
    exact startsFrom_add first.length 0 second
  rw [toList_starts_ofList, toList_starts_ofList, toList_starts_ofList, startsFrom_append, behind,
    List.tail_cons, List.cons_append]

theorem lineCount_ofList_append :
    (ofList (first ++ second)).lineCount =
      (ofList first).lineCount + (ofList second).lineCount - 1 := by
  rw [lineCount_ofList, lineCount_ofList, lineCount_ofList, List.count_append]
  omega

variable {first second} (short : first.length + second.length < Ordinal.limit - 1)
include short

theorem positionAt_append_of_le {cursor : Nat} (inside : cursor ≤ first.length) :
    (ofList (first ++ second)).positionAt cursor = (ofList first).positionAt cursor := by
  rw [positionAt_ofList (by rwa [List.length_append]), positionAt_ofList (by omega),
    List.take_append_of_le_length inside]

/-- **Behind the seam, positions are joined to the end of the first text.** -/
theorem positionAt_append_add (cursor : Nat) :
    (ofList (first ++ second)).positionAt (first.length + cursor) =
      ((ofList first).positionAt first.length).join ((ofList second).positionAt cursor) := by
  rw [positionAt_ofList (by rwa [List.length_append]), positionAt_ofList (by omega),
    positionAt_ofList (by omega), List.take_length_add_append, List.take_length,
    Position.walk_append_eq_join]

end Join

/-- **The map of a joined text is joined from the maps of its parts.** It is as long as both
together, and its lines start where those of the first text do and then where those of the
second do but for its first one, moved by the length of the first. Up to the seam cursors stand
where they do in the first text. Behind it they stand on the last line of the first text as long
as they are on the first line of the second, and so many columns on from the end of the first
text; and otherwise on the lines after that, in the column that they have in the second text.
This is so for cursors past the end as well. -/
theorem ofText_append (first second : String)
    (short : first.length + second.length < Ordinal.limit - 1) :
    (ofText (first ++ second)).length = first.length + second.length ∧
    (ofText (first ++ second)).starts.toList =
      (ofText first).starts.toList ++
        (ofText second).starts.toList.tail.map (first.length + ·) ∧
    (ofText (first ++ second)).lineCount =
      (ofText first).lineCount + (ofText second).lineCount - 1 ∧
    (∀ cursor, cursor ≤ first.length →
      (ofText (first ++ second)).positionAt cursor = (ofText first).positionAt cursor) ∧
    ∀ cursor line column, (ofText second).positionAt cursor = ⟨line, column⟩ →
      (line = 1 →
        (ofText (first ++ second)).positionAt (first.length + cursor) =
          ⟨(ofText first).lineCount,
            ((ofText first).positionAt first.length).column + column - 1⟩) ∧
      (line ≠ 1 →
        (ofText (first ++ second)).positionAt (first.length + cursor) =
          ⟨(ofText first).lineCount + line - 1, column⟩) := by
  simp only [ofText, ← String.length_toList, String.toList_append] at short ⊢
  refine ⟨?_, toList_starts_ofList_append _ _, lineCount_ofList_append _ _, ?_, ?_⟩
  · rw [length_ofList, List.length_append]
  · intro cursor inside
    exact positionAt_append_of_le short inside
  · intro cursor line column stands
    have joined := positionAt_append_add short cursor
    have seam : ((ofList first.toList).positionAt first.toList.length).line =
        (ofList first.toList).lineCount := line_positionAt_length (by omega)
    rw [stands] at joined
    constructor
    · intro stays
      rw [joined, Position.join_of_first_line stays, seam]
    · intro leaves
      rw [joined, Position.join_of_later_line leaves, seam]

/-- Two texts that share a line, with a cursor on that line and one past the end of both. -/
theorem ofText_append_shared_line :
    "x\nab".length + "c\nde".length < Ordinal.limit - 1 ∧
      (ofText "x\nab").positionAt 4 = ⟨2, 3⟩ ∧
      (ofText "c\nde").positionAt 1 = ⟨1, 2⟩ ∧ (ofText "c\nde").positionAt 9 = ⟨2, 3⟩ ∧
      (ofText ("x\nab" ++ "c\nde")).starts.toList = [0, 2] ++ [4 + 2] ∧
      (ofText ("x\nab" ++ "c\nde")).positionAt 4 = ⟨2, 3⟩ ∧
      (ofText ("x\nab" ++ "c\nde")).positionAt (4 + 1) = ⟨2, 3 + 2 - 1⟩ ∧
      (ofText ("x\nab" ++ "c\nde")).positionAt (4 + 9) = ⟨2 + 2 - 1, 3⟩ := by
  have short : "x\nab".length + "c\nde".length < Ordinal.limit - 1 := by decide
  have first : "x\nab".toList.length < Ordinal.limit - 1 := by decide
  have second : "c\nde".toList.length < Ordinal.limit - 1 := by decide
  have seam : (ofText "x\nab").positionAt 4 = ⟨2, 3⟩ :=
    (positionAt_ofList first 4).trans (by decide)
  have shared : (ofText "c\nde").positionAt 1 = ⟨1, 2⟩ :=
    (positionAt_ofList second 1).trans (by decide)
  have past : (ofText "c\nde").positionAt 9 = ⟨2, 3⟩ :=
    (positionAt_ofList second 9).trans (by decide)
  obtain ⟨_, starts, _, before, behind⟩ := ofText_append "x\nab" "c\nde" short
  have onShared := (behind 1 1 2 shared).1 rfl
  have length : "x\nab".length = 4 := by decide
  have lines : (ofText "x\nab").lineCount = 2 := by decide
  rw [length, seam, lines] at onShared
  exact ⟨short, seam, shared, past, starts, (before 4 (by decide)).trans seam, onShared,
    (behind 9 2 3 past).2 (by decide)⟩

end LineMap

end FaultReport
