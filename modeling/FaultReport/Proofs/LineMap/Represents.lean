import FaultReport.Proofs.LineMap.ReadingOrder
import Mathlib.Data.List.Sort

/-!
# Maps that represent a text

A map represents a text if it has the length of the text, its first line starts at the beginning,
the starts go up strictly and do not pass the end, and every other line starts just after a break
(`Represents`). The empty map represents the empty text, and adding characters to a map that
represents a text gives one that represents the text with these characters at its end
(`Represents.foldl_push`). So every map that is built represents its text, and no other map does
(`Represents.eq_ofList`).

Lookups have something to fall back on at every step: the first line for a key before all starts,
the beginning for a line without a start, zero for a start past the cursor, and the largest number
for an index that is too large. The number of the largest ordinal wraps around on top of that. In a
map that represents a text with a number for every line and column nothing of this is used
(`Represents.resolves`). The first start is not after any cursor, so the search finds a line, and
this line has a start that the cursor has reached. The starts go up strictly, so there are no more
lines before it than characters.
-/

set_option autoImplicit false

namespace FaultReport.LineMap

/-- A map holds where the lines of a text start, and how many characters it has. -/
structure Represents (map : LineMap) (characters : List Char) : Prop where
  length_eq : map.length = characters.length
  begins : map.starts[0]? = some 0
  increasing : Increasing map.starts
  inside : ∀ start ∈ map.starts, start ≤ map.length
  opened : ∀ start, 0 < start →
    (start ∈ map.starts ↔ characters[start - 1]? = some '\n')

/-! ## Building keeps the representation -/

theorem represents_empty : empty.Represents [] where
  length_eq := rfl
  begins := rfl
  increasing := List.pairwise_singleton _ _
  inside := by
    intro start member
    exact Nat.le_of_eq (Array.mem_singleton.mp member)
  opened := by
    intro start positive
    constructor
    · intro member
      exact absurd (Array.mem_singleton.mp member) (Nat.ne_of_gt positive)
    · intro here
      contradiction

/-- A character of two joined texts stands in the first or, moved past it, in the second. -/
theorem getElem?_append_eq_some_iff {first second : List Char} {place : Nat} {character : Char} :
    (first ++ second)[place]? = some character ↔
      first[place]? = some character ∨
        ∃ index, second[index]? = some character ∧ place = first.length + index := by
  rw [List.getElem?_append]
  by_cases inside : place < first.length
  · rw [if_pos inside]
    constructor
    · exact Or.inl
    · rintro (here | ⟨index, _, later⟩)
      · exact here
      · omega
  · rw [if_neg inside, List.getElem?_eq_none (Nat.le_of_not_lt inside)]
    constructor
    · intro here
      exact Or.inr ⟨place - first.length, here, by omega⟩
    · rintro (here | ⟨index, here, rfl⟩)
      · contradiction
      · rwa [Nat.add_sub_cancel_left]

theorem mem_starts_foldl_push {map : LineMap} {characters : List Char} {start : Nat} :
    start ∈ (characters.foldl push map).starts ↔
      start ∈ map.starts ∨ start ∈ startsFrom map.length characters := by
  rw [← Array.mem_toList_iff, toList_starts_foldl_push, List.mem_append, Array.mem_toList_iff]

/-- **Adding characters keeps the representation**, with the characters at the end of the
text. -/
theorem Represents.foldl_push {map : LineMap} {front : List Char}
    (represents : map.Represents front) (rest : List Char) :
    (rest.foldl push map).Represents (front ++ rest) := by
  have starts := toList_starts_foldl_push map rest
  obtain ⟨nonempty, _⟩ := Array.getElem?_eq_some_iff.mp represents.begins
  refine ⟨?_, ?_, ?_, ?_, ?_⟩
  · rw [length_foldl_push, represents.length_eq, List.length_append]
  · rw [← Array.getElem?_toList, starts, List.getElem?_append_left nonempty,
      Array.getElem?_toList, represents.begins]
  · rw [Increasing, starts, List.pairwise_append]
    refine ⟨represents.increasing, pairwise_startsFrom map.length rest, ?_⟩
    -- What was there before lies inside the text, and what is added lies past it.
    intro earlier there later added
    have within := represents.inside earlier (Array.mem_toList_iff.mp there)
    exact Nat.lt_of_le_of_lt within (bounds_of_mem_startsFrom added).1
  · intro start member
    rw [length_foldl_push]
    rcases mem_starts_foldl_push.mp member with there | added
    · exact Nat.le_trans (represents.inside start there) (Nat.le_add_right _ _)
    · exact (bounds_of_mem_startsFrom added).2
  · intro start positive
    have moved : ∀ index, start = front.length + index + 1 ↔ start - 1 = front.length + index := by
      intro index
      omega
    simp only [mem_starts_foldl_push, getElem?_append_eq_some_iff, mem_startsFrom_iff,
      represents.opened start positive, represents.length_eq, moved]

theorem represents_ofList (characters : List Char) : (ofList characters).Represents characters :=
  represents_empty.foldl_push characters

/-- **No other map represents a text** than the one that is built. -/
theorem Represents.eq_ofList {map : LineMap} {characters : List Char}
    (represents : map.Represents characters) : map = ofList characters := by
  have built := represents_ofList characters
  have starts : map.starts.toList = (ofList characters).starts.toList := by
    refine represents.increasing.eq_of_mem_iff built.increasing ?_
    intro start
    rw [Array.mem_toList_iff, Array.mem_toList_iff]
    rcases Nat.eq_zero_or_pos start with rfl | positive
    · exact iff_of_true (Array.mem_of_getElem? represents.begins)
        (Array.mem_of_getElem? built.begins)
    · rw [represents.opened start positive, built.opened start positive]
  exact congrArg₂ LineMap.mk (Array.toList_inj.mp starts)
    (represents.length_eq.trans built.length_eq.symm)

theorem Represents.lineCount_eq {map : LineMap} {characters : List Char}
    (represents : map.Represents characters) : map.lineCount = 1 + characters.count '\n' := by
  rw [represents.eq_ofList, lineCount_ofList, Nat.add_comm]

/-! ## Lookups without fallbacks -/

/-- A lookup is resolved by the map itself, on a line that starts at `start`: however the search
goes, it names a line; the line has a start that the cursor has reached; and the indices of line and
column are ordinals, and so are the numbers one above them, which line and column have. -/
structure Resolves (map : LineMap) (cursor start : Nat) : Prop where
  answered : (search map.starts cursor).Answers map.starts cursor
  named : ∀ probe : Probe, probe.Answers map.starts cursor → probe ≠ .absent 0
  found : map.startOf? (map.lineAt cursor) = some start
  reached : start ≤ min cursor map.length
  index_lt : map.indexAt cursor < Ordinal.limit
  line_lt : map.indexAt cursor + 1 < Ordinal.limit
  line_eq : map.lineAt cursor = map.indexAt cursor + 1
  offset_lt : min cursor map.length - start < Ordinal.limit
  column_lt : min cursor map.length - start + 1 < Ordinal.limit
  column_eq : (map.positionAt cursor).column = min cursor map.length - start + 1

namespace Represents

variable {map : LineMap} {characters : List Char} (represents : map.Represents characters)
include represents

/-- The line of a cursor has a start, no later than the cursor or the end, and there are no more
lines before it than characters. -/
theorem exists_start (cursor : Nat) :
    ∃ start, map.starts[map.indexAt cursor]? = some start ∧ start ≤ min cursor map.length ∧
      map.indexAt cursor ≤ start := by
  have answers := search_answers represents.increasing cursor
  obtain ⟨start, here, reached⟩ := answers.exists_floor represents.begins (Nat.zero_le cursor)
  have inside := represents.inside start (Array.mem_of_getElem? here)
  exact ⟨start, here, Nat.le_min.mpr ⟨reached, inside⟩, represents.increasing.place_le here⟩

/-- **Where every line and column has a number, lookups are resolved by the map.** -/
theorem resolves (short : characters.length < Ordinal.limit - 1) (cursor : Nat) :
    ∃ start, map.Resolves cursor start := by
  rw [← represents.length_eq] at short
  obtain ⟨start, here, reached, few⟩ := represents.exists_start cursor
  have index : map.indexAt cursor + 1 < Ordinal.limit := by omega
  have offset : min cursor map.length - start + 1 < Ordinal.limit := by omega
  have line : map.lineAt cursor = map.indexAt cursor + 1 := Ordinal.ofIndex_eq index
  have found : map.startOf? (map.lineAt cursor) = some start :=
    startOf?_eq_some_iff.mpr ⟨_, line, here⟩
  have column : (map.positionAt cursor).column = min cursor map.length - start + 1 := by
    rw [positionAt, found, Option.getD_some]
    exact Ordinal.ofIndex_eq offset
  exact ⟨start,
    { answered := search_answers represents.increasing cursor
      named := fun _ answers => answers.ne_absent_zero represents.begins (Nat.zero_le cursor)
      found := found
      reached := reached
      index_lt := Nat.lt_of_succ_lt index
      line_lt := index
      line_eq := line
      offset_lt := Nat.lt_of_succ_lt offset
      column_lt := offset
      column_eq := column }⟩

end Represents

/-- **The map of a text represents it, so lookups need no fallback.** The map has the length of the
text and lines that start at its beginning and just after its breaks, so there is one line more than
there are breaks. If the text is shorter than the largest number, then at every cursor, also past
the end, the search names a line, the line has a start that the cursor has reached, and line and
column have the numbers one above their indices, which are ordinals. -/
theorem ofText_represents (text : String) :
    (ofText text).Represents text.toList ∧
    (ofText text).lineCount = 1 + text.toList.count '\n' ∧
    (text.length < Ordinal.limit - 1 →
      ∀ cursor, ∃ start, (ofText text).Resolves cursor start) := by
  have represents := represents_ofList text.toList
  refine ⟨represents, represents.lineCount_eq, ?_⟩
  intro short cursor
  rw [← String.length_toList] at short
  exact represents.resolves short cursor

/-- A cursor past the end of a text that ends with a break is resolved on the empty last line. -/
theorem ofText_represents_trailing_break :
    "a\n".length < Ordinal.limit - 1 ∧ (ofText "a\n").Represents ['a', '\n'] ∧
      (ofText "a\n").lineCount = 2 ∧ (ofText "a\n").Resolves 7 2 := by
  have short : "a\n".length < Ordinal.limit - 1 := by decide
  have line : (ofText "a\n").lineAt 7 = 2 := by
    have within : "a\n".toList.length < Ordinal.limit - 1 := by decide
    exact (lineAt_ofList within 7).trans (by decide)
  obtain ⟨represents, count, lookups⟩ := ofText_represents "a\n"
  obtain ⟨start, resolves⟩ := lookups short 7
  have last : (ofText "a\n").startOf? 2 = some start := line ▸ resolves.found
  have here : (ofText "a\n").startOf? 2 = some 2 := by decide
  cases last.symm.trans here
  exact ⟨short, represents, count, resolves⟩

end FaultReport.LineMap
