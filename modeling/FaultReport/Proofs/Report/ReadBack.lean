import FaultReport.Proofs.Excerpt.Shown
import FaultReport.Report
import Mathlib.Data.List.DropRight

/-!
# The position of a report is read back from its text

The text of a report ends with its position if it has a line, and with the excerpt otherwise.
Message and excerpt come before it and may contain anything, also text that looks like a
position or like the end of an excerpt. They cannot change what is read at the end.

`readPosition?` looks at the last line of a text alone. The line that shows a position holds
no line break, so it is the last line whatever comes before it (`lastLine_concat_break`). Its
numbers are read back because decimal digits are (`read?_render`), and an unknown column is no
number. A text without a position ends with a brace and a bracket. What is read as a column
never ends with a brace (`not_brace_suffix`), so nothing is read from it.

The main statement is that reading the text of a report gives its line and column
(`render_tells_position`), so reports with equal texts have equal positions.
-/

set_option autoImplicit false

namespace FaultReport

/-! ## Last lines -/

namespace Text

/-- The characters after the last line break, or all of them if there is none. -/
def lastLine (characters : List Char) : List Char :=
  characters.rtakeWhile fun character => character != '\n'

theorem lastLine_append (front : List Char) {tail : List Char} (unbroken : '\n' ∉ tail) :
    lastLine (front ++ tail) = lastLine front ++ tail := by
  have kept : ∀ character ∈ tail.reverse, (character != '\n') = true := by
    intro character member
    rw [bne_iff_ne]
    rintro rfl
    exact unbroken (List.mem_reverse.mp member)
  rw [lastLine, List.rtakeWhile, List.reverse_append, List.takeWhile_append_of_pos kept,
    List.reverse_append, List.reverse_reverse]
  rfl

theorem lastLine_concat_break (front : List Char) {tail : List Char} (unbroken : '\n' ∉ tail) :
    lastLine (front ++ '\n' :: tail) = tail := by
  have opened : lastLine (front ++ ['\n']) = [] := List.rtakeWhile_concat_neg _ _ _ (by decide)
  rw [List.append_cons, lastLine_append _ unbroken, opened, List.nil_append]

end Text

/-! ## Reading numbers -/

namespace Ordinal

/-- The number that decimal digits write. -/
def readNumber? (characters : List Char) : Option Nat :=
  if !characters.isEmpty && characters.all Char.isDigit then
    some (Nat.ofDigitChars 10 characters 0)
  else
    none

/-- The ordinal that a text shows, which may be absent. -/
def read? (characters : List Char) : Option (Option Nat) :=
  if characters = "-1".toList then some none else (readNumber? characters).map some

theorem isDigit_of_mem_repr {number : Nat} {character : Char}
    (member : character ∈ (Nat.repr number).toList) : character.isDigit = true := by
  rw [Nat.toList_repr] at member
  exact Nat.isDigit_of_mem_toDigits (by decide) (by decide) member

theorem readNumber?_repr (number : Nat) : readNumber? (Nat.repr number).toList = some number := by
  have digits : (!(Nat.repr number).toList.isEmpty &&
      (Nat.repr number).toList.all Char.isDigit) = true := by
    rw [Bool.and_eq_true, Bool.not_eq_true', List.isEmpty_eq_false_iff, List.all_eq_true]
    constructor
    · rw [Nat.toList_repr]
      exact Nat.toDigits_ne_nil
    · intro character member
      exact isDigit_of_mem_repr member
  rw [readNumber?, if_pos digits, Nat.toList_repr, Nat.ofDigitChars_ten_toDigits]

/-- **A shown ordinal is read back**, and a shown absence is read as one. -/
theorem read?_render (ordinal : Option Nat) : read? (render ordinal).toList = some ordinal := by
  cases ordinal with
  | none => rfl
  | some number =>
      have signless : (Nat.repr number).toList ≠ "-1".toList := by
        intro same
        have sign : '-' ∈ (Nat.repr number).toList := by
          rw [same]
          decide
        exact absurd (isDigit_of_mem_repr sign) (by decide)
      rw [render, read?, if_neg signless, readNumber?_repr]
      rfl

/-- A shown ordinal holds digits, or else a sign, and nothing else. -/
theorem not_mem_render {character : Char} (noDigit : character.isDigit = false)
    (noSign : character ≠ '-') (ordinal : Option Nat) : character ∉ (render ordinal).toList := by
  intro member
  cases ordinal with
  | none =>
      rcases List.mem_cons.mp member with sign | digit
      · exact noSign sign
      · rw [List.mem_singleton.mp digit] at noDigit
        exact absurd noDigit (by decide)
  | some number =>
      rw [isDigit_of_mem_repr member] at noDigit
      contradiction

theorem unbroken_render (ordinal : Option Nat) : '\n' ∉ (render ordinal).toList :=
  not_mem_render (by decide) (by decide) ordinal

/-- What is read as an ordinal ends with a digit. -/
theorem digit_ends_of_read? {shown : List Char} {ordinal : Option Nat}
    (reads : read? shown = some ordinal) :
    ∃ front last, shown = front ++ [last] ∧ last.isDigit = true := by
  rw [read?] at reads
  split at reads
  next absent => exact ⟨['-'], '1', absent, by decide⟩
  next =>
    obtain ⟨number, readsNumber, _⟩ := Option.map_eq_some_iff.mp reads
    rw [readNumber?, Option.ite_none_right_eq_some, Bool.and_eq_true, Bool.not_eq_true',
      List.isEmpty_eq_false_iff, List.all_eq_true] at readsNumber
    obtain ⟨⟨nonempty, digits⟩, _⟩ := readsNumber
    obtain ⟨front, last, rfl⟩ := (List.eq_nil_or_concat' shown).resolve_left nonempty
    exact ⟨front, last, rfl, digits last List.mem_concat_self⟩

/-- **What ends with an ordinal and a bracket does not end with a brace and a bracket.** -/
theorem not_brace_suffix {shown : List Char} {ordinal : Option Nat}
    (reads : read? shown = some ordinal) (front : List Char) :
    ¬ ['\x7d', ']'] <:+ front ++ shown ++ [']'] := by
  obtain ⟨digits, last, rfl, digit⟩ := digit_ends_of_read? reads
  rintro ⟨before, same⟩
  have ends : before ++ ['\x7d'] ++ [']'] = front ++ digits ++ [last] ++ [']'] := by
    simpa only [List.append_assoc, List.singleton_append] using same
  have brace := List.append_inj_right' (List.append_cancel_right ends) rfl
  cases brace
  contradiction

end Ordinal

namespace Report

/-! ## Reading positions -/

/-- The position that a line shows. -/
def readLine? (characters : List Char) : Option (Nat × Option Nat) := do
  let labelled ← characters.dropPrefix? "[Line: ".toList
  let rest ← (labelled.dropWhile Char.isDigit).dropPrefix? ", Column: ".toList
  let shown ← rest.dropSuffix? [']']
  let line ← Ordinal.readNumber? (labelled.takeWhile Char.isDigit)
  let column ← Ordinal.read? shown
  return (line, column)

/-- The position that the last line of a text shows. -/
def readPosition? (text : String) : Option (Nat × Option Nat) :=
  readLine? (Text.lastLine text.toList)

/-- The line that shows a position. -/
def positionLine (line : Nat) (column : Option Nat) : String :=
  "[Line: " ++ Nat.repr line ++ ", Column: " ++ Ordinal.render column ++ "]"

/-- What is read as a column stands at the end of the line, before a bracket. -/
theorem eq_of_readLine? {characters : List Char} {line : Nat} {column : Option Nat}
    (reads : readLine? characters = some (line, column)) :
    ∃ front shown, characters = front ++ shown ++ [']'] ∧ Ordinal.read? shown = some column := by
  simp only [readLine?, Option.bind_eq_bind, Option.bind_eq_some_iff,
    List.dropPrefix?_eq_some_iff, List.dropSuffix?_eq_some_iff, beq_iff_eq] at reads
  obtain ⟨labelled, ⟨_, rfl, rfl⟩, rest, ⟨_, middle, rfl⟩, shown, ⟨_, rfl, rfl⟩, _, _, _,
    column, same⟩ := reads
  cases same
  refine ⟨"[Line: ".toList ++ labelled.takeWhile Char.isDigit ++ ", Column: ".toList, shown, ?_,
    column⟩
  have labels : labelled.takeWhile Char.isDigit ++ (", Column: ".toList ++ (shown ++ [']'])) =
      labelled := by
    rw [← middle, List.takeWhile_append_dropWhile]
  simp only [List.append_assoc] at labels ⊢
  rw [labels]

/-- **A line that shows a position is read back.** -/
theorem readLine?_positionLine (line : Nat) (column : Option Nat) :
    readLine? (positionLine line column).toList = some (line, column) := by
  have digits : ∀ character ∈ (Nat.repr line).toList, character.isDigit = true :=
    fun _ => Ordinal.isDigit_of_mem_repr
  have labelled : ((positionLine line column).toList.dropPrefix? "[Line: ".toList) =
      some ((Nat.repr line).toList ++
        (", Column: ".toList ++ ((Ordinal.render column).toList ++ "]".toList))) := by
    simp only [positionLine, String.toList_append, List.append_assoc,
      List.dropPrefix?_append_of_beq, beq_self_eq_true]
  have stops : ∀ rest, (", Column: ".toList ++ rest).takeWhile Char.isDigit = [] := by
    intro rest
    rfl
  have stays : ∀ rest, (", Column: ".toList ++ rest).dropWhile Char.isDigit =
      ", Column: ".toList ++ rest := by
    intro rest
    rfl
  have shown : ((Ordinal.render column).toList ++ "]".toList).dropSuffix? [']'] =
      some (Ordinal.render column).toList :=
    List.dropSuffix?_eq_some_iff.mpr ⟨_, rfl, beq_self_eq_true _⟩
  simp only [readLine?, labelled, Option.bind_eq_bind, Option.bind_some,
    List.dropWhile_append_of_pos digits, List.takeWhile_append_of_pos digits, stops, stays,
    List.dropPrefix?_append_of_beq, beq_self_eq_true, shown, List.append_nil,
    Ordinal.readNumber?_repr, Ordinal.read?_render]
  rfl

theorem unbroken_positionLine (line : Nat) (column : Option Nat) :
    '\n' ∉ (positionLine line column).toList := by
  have first := Ordinal.unbroken_render (some line)
  have second := Ordinal.unbroken_render column
  simp only [positionLine, String.toList_append, List.mem_append, not_or]
  exact ⟨⟨⟨⟨by decide, first⟩, by decide⟩, second⟩, by decide⟩

/-! ## The text of a report -/

variable (report : Report)

/-- What the text of a report shows before its position. -/
def body : String :=
  "[Error: " ++ report.message ++ "]\n[Near : \x7b... " ++ report.excerpt ++ " ....\x7d]"

theorem render_of_no_line (absent : report.line = none) : report.render = report.body := by
  rw [render, positionText, absent]
  exact String.append_empty

theorem toList_render_of_line {line : Nat} (present : report.line = some line) :
    report.render.toList =
      report.body.toList ++ '\n' :: (positionLine line report.column).toList := by
  rw [render, positionText, present, positionLine, ← body]
  simp only [String.toList_append, List.append_assoc]
  rfl

theorem suffix_body : "....\x7d]".toList <:+ report.body.toList := by
  rw [body, String.toList_append]
  exact List.suffix_append_of_suffix ⟨[' '], rfl⟩

/-- A text that ends as excerpts do shows no position. -/
theorem readPosition?_of_suffix {text : String} (closed : "....\x7d]".toList <:+ text.toList) :
    readPosition? text = none := by
  obtain ⟨front, split⟩ := closed
  cases reads : readPosition? text with
  | none => rfl
  | some position =>
      obtain ⟨line, column⟩ := position
      obtain ⟨before, shown, last, readsColumn⟩ := eq_of_readLine? reads
      rw [← split, Text.lastLine_append _ (by decide)] at last
      -- What was read ends with a digit and a bracket, and the text with a brace and a bracket.
      refine absurd ?_ (Ordinal.not_brace_suffix readsColumn before)
      rw [← last]
      exact List.suffix_append_of_suffix ⟨"....".toList, rfl⟩

/-- **The position of a report is read back from its text.** -/
theorem readPosition?_render :
    readPosition? report.render = report.line.map fun line => (line, report.column) := by
  cases present : report.line with
  | none =>
      rw [render_of_no_line report present]
      exact readPosition?_of_suffix report.suffix_body
  | some line =>
      rw [readPosition?, toList_render_of_line report present,
        Text.lastLine_concat_break _ (unbroken_positionLine line report.column)]
      exact readLine?_positionLine line report.column

theorem line_eq_none_iff_suffix :
    report.line = none ↔ "....\x7d]".toList <:+ report.render.toList := by
  constructor
  · intro absent
    rw [render_of_no_line report absent]
    exact report.suffix_body
  · intro closed
    have nothing := readPosition?_of_suffix closed
    rw [readPosition?_render, Option.map_eq_none_iff] at nothing
    exact nothing

/-- **Nothing in a report passes for its position.** Whatever the message, the text and the
cursor are, the text of a report ends as excerpts do exactly if there is no line, and otherwise
its last line shows line and column and nothing else. Both are read back from the text, an
unknown column as unknown. So two reports with the same text have the same line or both none,
and where there is one, the same column. -/
theorem render_tells_position :
    (report.line = none ↔ "....\x7d]".toList <:+ report.render.toList) ∧
    (∀ line, report.line = some line →
      Text.lastLine report.render.toList =
        ("[Line: " ++ Nat.repr line ++ ", Column: " ++ Ordinal.render report.column ++
          "]").toList) ∧
    readPosition? report.render = report.line.map (fun line => (line, report.column)) ∧
    ∀ other : Report, report.render = other.render →
      report.line = other.line ∧ (report.line.isSome → report.column = other.column) := by
  refine ⟨report.line_eq_none_iff_suffix, ?_, report.readPosition?_render, ?_⟩
  · intro line present
    rw [toList_render_of_line report present]
    exact Text.lastLine_concat_break _ (unbroken_positionLine line report.column)
  · intro other same
    have position := report.readPosition?_render
    rw [same, other.readPosition?_render] at position
    cases here : report.line with
    | none =>
        rw [here, Option.map_none, Option.map_eq_none_iff] at position
        exact ⟨position.symm, nofun⟩
    | some line =>
        rw [here, Option.map_some, Option.map_eq_some_iff] at position
        obtain ⟨_, there, agree⟩ := position
        obtain ⟨rfl, column⟩ := Prod.mk.inj agree
        exact ⟨there.symm, fun _ => column.symm⟩

/-- A report whose excerpt looks like the end of an excerpt. -/
def misleadingExcerpt : Report where
  message := "x"
  text := some "q]\n[Near : \x7b... Unknown!"
  cursor := some 10
  line := some 3
  column := none
  findings := none

/-- A report whose message looks like the beginning of an excerpt. -/
def misleadingMessage : Report where
  message := "x]\n[Near : \x7b... q"
  text := none
  cursor := none
  line := some 3
  column := none
  findings := none

/-- Two reports with the same text that agree neither in the message nor in the excerpt. Their
position is that of the last line, and the column is unknown. -/
theorem render_tells_position_misleading :
    misleadingExcerpt.message ≠ misleadingMessage.message ∧
      misleadingExcerpt.render = misleadingMessage.render ∧
      misleadingMessage.line = some 3 ∧
      Text.lastLine misleadingMessage.render.toList = "[Line: 3, Column: -1]".toList ∧
      readPosition? misleadingMessage.render = some (3, none) ∧
      misleadingExcerpt.line = misleadingMessage.line ∧
      misleadingExcerpt.column = misleadingMessage.column := by
  have cut : misleadingExcerpt.excerpt = "q]\n[Near : \x7b... Unknown" := by
    have shown := Excerpt.ofSpan_eq_shown (Window.standard.span 24 10)
      "q]\n[Near : \x7b... Unknown!"
    exact shown.trans (by decide)
  have same : misleadingExcerpt.render = misleadingMessage.render := by
    rw [render, render, cut]
    decide
  obtain ⟨_, _, _, agree⟩ := misleadingExcerpt.render_tells_position
  obtain ⟨_, lastLine, reads, _⟩ := misleadingMessage.render_tells_position
  have shown : Text.lastLine misleadingMessage.render.toList = "[Line: 3, Column: -1]".toList :=
    (lastLine 3 rfl).trans (by decide)
  obtain ⟨line, column⟩ := agree misleadingMessage same
  exact ⟨by decide, same, rfl, shown, reads, line, column rfl⟩

end Report

end FaultReport
