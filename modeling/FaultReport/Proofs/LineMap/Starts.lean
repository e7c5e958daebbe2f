import FaultReport.LineMap
import FaultReport.Proofs.LineMap.Answers

/-!
# Where lines start

The map of a text is built in one pass that keeps a running count of characters. Its starts
are those of the lines that the line breaks open, behind the start of the first line
(`toList_starts_ofList`): every break opens a line just after itself. `startsFrom` lists them
for characters that begin at any place, which is the form in which they can be found by
induction and put together (`startsFrom_append`).

The starts go up strictly (`increasing_starts`), so a search answers where a cursor stands.
A cursor is on a line when the line starts no later than it and the next line, if there is
one, starts later (`OnLine`). Its position can then be read off the start of that line
(`OnLine.positionAt_eq`). Every cursor is on the line that the last break before it opened
(`onLine_take`), also a cursor past the end of the text.
-/

set_option autoImplicit false

namespace FaultReport.LineMap

/-! ## Lines opened by breaks -/

/-- The starts of the lines that the breaks among some characters open, where the first
character stands at `place`. -/
def startsFrom (place : Nat) : List Char → List Nat
  | [] => []
  | character :: rest =>
      if character = '\n' then (place + 1) :: startsFrom (place + 1) rest
      else startsFrom (place + 1) rest

theorem startsFrom_cons_break (place : Nat) (rest : List Char) :
    startsFrom place ('\n' :: rest) = (place + 1) :: startsFrom (place + 1) rest :=
  if_pos rfl

theorem startsFrom_cons_of_ne {character : Char} (noBreak : character ≠ '\n') (place : Nat)
    (rest : List Char) : startsFrom place (character :: rest) = startsFrom (place + 1) rest :=
  if_neg noBreak

theorem startsFrom_append (place : Nat) (first second : List Char) :
    startsFrom place (first ++ second) =
      startsFrom place first ++ startsFrom (place + first.length) second := by
  induction first generalizing place with
  | nil => rfl
  | cons character rest ih =>
      have later : place + (character :: rest).length = place + 1 + rest.length := by
        rw [List.length_cons]
        omega
      rw [List.cons_append, later]
      by_cases isBreak : character = '\n'
      · subst isBreak
        rw [startsFrom_cons_break, startsFrom_cons_break, ih, List.cons_append]
      · rw [startsFrom_cons_of_ne isBreak, startsFrom_cons_of_ne isBreak, ih]

/-- **A line starts just after each break**, and nowhere else. -/
theorem mem_startsFrom_iff {place start : Nat} {characters : List Char} :
    start ∈ startsFrom place characters ↔
      ∃ index, characters[index]? = some '\n' ∧ start = place + index + 1 := by
  induction characters generalizing place with
  | nil =>
      simp only [startsFrom, List.not_mem_nil, List.getElem?_nil, reduceCtorEq, false_and,
        exists_false]
  | cons character rest ih =>
      have shifted : ∀ index, place + (index + 1) + 1 = place + 1 + index + 1 := by
        intro index
        omega
      rw [← Nat.or_exists_add_one]
      simp only [List.getElem?_cons_zero, List.getElem?_cons_succ, Option.some.injEq, shifted,
        Nat.add_zero, ← ih]
      by_cases isBreak : character = '\n'
      · subst isBreak
        rw [startsFrom_cons_break, List.mem_cons, eq_self, true_and]
      · rw [startsFrom_cons_of_ne isBreak, eq_false isBreak, false_and, false_or]

theorem bounds_of_mem_startsFrom {place start : Nat} {characters : List Char}
    (member : start ∈ startsFrom place characters) :
    place < start ∧ start ≤ place + characters.length := by
  obtain ⟨index, here, rfl⟩ := mem_startsFrom_iff.mp member
  obtain ⟨inside, _⟩ := List.getElem?_eq_some_iff.mp here
  omega

theorem pairwise_startsFrom (place : Nat) (characters : List Char) :
    (startsFrom place characters).Pairwise (· < ·) := by
  induction characters generalizing place with
  | nil => exact List.Pairwise.nil
  | cons character rest ih =>
      by_cases isBreak : character = '\n'
      · subst isBreak
        rw [startsFrom_cons_break]
        refine List.pairwise_cons.mpr ⟨?_, ih (place + 1)⟩
        intro start later
        exact (bounds_of_mem_startsFrom later).1
      · rw [startsFrom_cons_of_ne isBreak]
        exact ih (place + 1)

theorem length_startsFrom (place : Nat) (characters : List Char) :
    (startsFrom place characters).length = characters.count '\n' := by
  induction characters generalizing place with
  | nil => rfl
  | cons character rest ih =>
      by_cases isBreak : character = '\n'
      · subst isBreak
        rw [startsFrom_cons_break, List.length_cons, ih, List.count_cons_self]
      · rw [startsFrom_cons_of_ne isBreak, ih, List.count_cons_of_ne isBreak]

/-! ## The starts of a map -/

/-- **Adding characters to a map adds the starts of the lines that they open.** -/
theorem toList_starts_foldl_push (map : LineMap) (characters : List Char) :
    (characters.foldl push map).starts.toList =
      map.starts.toList ++ startsFrom map.length characters := by
  induction characters generalizing map with
  | nil => exact (List.append_nil _).symm
  | cons character rest ih =>
      rw [List.foldl_cons, ih, push]
      by_cases isBreak : character = '\n'
      · subst isBreak
        simp only [↓reduceIte, startsFrom_cons_break, Array.toList_push, List.append_assoc,
          List.singleton_append]
      · simp only [if_neg isBreak, startsFrom_cons_of_ne isBreak]

theorem toList_starts_ofList (characters : List Char) :
    (ofList characters).starts.toList = 0 :: startsFrom 0 characters :=
  toList_starts_foldl_push empty characters

theorem increasing_starts (characters : List Char) : Increasing (ofList characters).starts := by
  rw [Increasing, toList_starts_ofList]
  refine List.pairwise_cons.mpr ⟨?_, pairwise_startsFrom 0 characters⟩
  intro start member
  exact (bounds_of_mem_startsFrom member).1

theorem lineCount_ofList (characters : List Char) :
    (ofList characters).lineCount = characters.count '\n' + 1 := by
  rw [lineCount, ← Array.length_toList, toList_starts_ofList, List.length_cons,
    length_startsFrom]

/-- The start of the line that the last break opened, or of the first line. -/
def lastStart (characters : List Char) : Nat := (startsFrom 0 characters).getLast?.getD 0

theorem lastStart_le (characters : List Char) : lastStart characters ≤ characters.length := by
  cases found : (startsFrom 0 characters).getLast? with
  | none => simp only [lastStart, found, Option.getD_none, Nat.zero_le]
  | some start =>
      have bounds := bounds_of_mem_startsFrom (List.mem_of_getLast? found)
      simp only [lastStart, found, Option.getD_some]
      omega

/-! ## The line of a cursor -/

/-- A cursor is on the line with an index, which starts at `start`. -/
structure OnLine (map : LineMap) (cursor index start : Nat) : Prop where
  starts : map.starts[index]? = some start
  reached : start ≤ cursor
  last : ∀ next, map.starts[index + 1]? = some next → cursor < next

/-- Every cursor is on the line that the last break before it opened. -/
theorem onLine_take (characters : List Char) (cursor : Nat) :
    (ofList characters).OnLine cursor ((characters.take cursor).count '\n')
      (lastStart (characters.take cursor)) := by
  have split : (ofList characters).starts.toList =
      (0 :: startsFrom 0 (characters.take cursor)) ++
        startsFrom (characters.take cursor).length (characters.drop cursor) := by
    rw [toList_starts_ofList, List.cons_append, ← Nat.zero_add (characters.take cursor).length,
      ← startsFrom_append, List.take_append_drop]
  have opened := length_startsFrom 0 (characters.take cursor)
  refine ⟨?_, ?_, ?_⟩
  · rw [← Array.getElem?_toList, split, ← opened, List.getElem?_append_left (by simp), lastStart,
      ← List.getLast?_cons, List.getLast?_eq_getElem?]
    rfl
  · exact Nat.le_trans (lastStart_le _) (List.length_take_le _ _)
  · intro next here
    have member : next ∈
        startsFrom (characters.take cursor).length (characters.drop cursor) := by
      rw [← Array.getElem?_toList, split, ← opened,
        List.getElem?_append_right (by simp)] at here
      exact List.mem_of_getElem? here
    have bounds := bounds_of_mem_startsFrom member
    rw [List.length_take, List.length_drop] at bounds
    omega

namespace OnLine

variable {map : LineMap} {cursor index start : Nat}

theorem indexAt_eq (on : map.OnLine cursor index start) (increasing : Increasing map.starts) :
    map.indexAt cursor = index :=
  (search_answers increasing cursor).floor_eq increasing on.starts on.reached on.last

theorem startOf?_succ (on : map.OnLine cursor index start) :
    map.startOf? (index + 1) = some start := by
  rw [startOf?, if_neg (Nat.succ_ne_zero index)]
  exact on.starts

theorem lineAt_eq (on : map.OnLine cursor index start) (increasing : Increasing map.starts)
    (fits : index + 1 < Ordinal.limit) : map.lineAt cursor = index + 1 := by
  rw [lineAt, on.indexAt_eq increasing, Ordinal.ofIndex_eq fits]

/-- **The position of a cursor is read off the start of its line.** -/
theorem positionAt_eq (on : map.OnLine cursor index start) (increasing : Increasing map.starts)
    (fits : index + 1 < Ordinal.limit) (fits' : map.length + 1 < Ordinal.limit) :
    map.positionAt cursor = ⟨index + 1, min cursor map.length - start + 1⟩ := by
  have column : min cursor map.length - start + 1 < Ordinal.limit := by omega
  rw [positionAt, on.lineAt_eq increasing fits, on.startOf?_succ, Option.getD_some,
    Ordinal.ofIndex_eq column]

end OnLine

end FaultReport.LineMap
