import FaultReport.Excerpt
import Mathlib.Data.List.TakeWhile

/-!
# The characters that an excerpt shows

An excerpt is found by counting characters and cut out by bytes. Counting is what its
readers care about: the excerpt of a text in a span consists of the characters of the span,
less the blanks that lead them. That is `shown`, a function on lists of characters in which
no byte occurs.

Placing characters commutes with taking, dropping and skipping them, as long as the byte at
which the rest begins moves on by the encoding of what was left out (`drop_placedFrom`,
`take_placedFrom`, `dropWhile_placedFrom`). So the placed characters of an excerpt are the
shown characters, placed after the `passed` ones (`visible_eq_placedFrom`), the bytes they
span are the bytes between the two (`byteRange?_visible`), and both ends are boundaries of
characters. The cut at those bytes is therefore never refused, and it returns the shown
characters (`ofSpan_eq_shown`).
-/

set_option autoImplicit false

namespace FaultReport

namespace Text

/-! ## Bytes of characters -/

/-- How many bytes encode some characters. -/
def encodedSize (characters : List Char) : Nat := (String.ofList characters).utf8ByteSize

theorem encodedSize_append (first second : List Char) :
    encodedSize (first ++ second) = encodedSize first + encodedSize second := by
  rw [encodedSize, String.ofList_append, String.utf8ByteSize_append]
  rfl

theorem encodedSize_cons (character : Char) (rest : List Char) :
    encodedSize (character :: rest) = character.utf8Size + encodedSize rest := by
  have alone : encodedSize [character] = character.utf8Size := by
    rw [encodedSize, ← String.singleton_eq_ofList, String.utf8ByteSize_singleton]
  rw [← List.singleton_append, encodedSize_append, alone]

/-! ## Runs of placed characters -/

theorem drop_placedFrom (byte count : Nat) (characters : List Char) :
    (placedFrom byte characters).drop count =
      placedFrom (byte + encodedSize (characters.take count)) (characters.drop count) := by
  induction count generalizing byte characters with
  | zero => rfl
  | succ count ih =>
      cases characters with
      | nil => rfl
      | cons character rest =>
          simp only [placedFrom, List.drop_succ_cons, List.take_succ_cons, encodedSize_cons]
          rw [ih, Nat.add_assoc]

theorem take_placedFrom (byte count : Nat) (characters : List Char) :
    (placedFrom byte characters).take count = placedFrom byte (characters.take count) := by
  induction count generalizing byte characters with
  | zero => rfl
  | succ count ih =>
      cases characters with
      | nil => rfl
      | cons character rest => simp only [placedFrom, List.take_succ_cons, ih]

theorem dropWhile_placedFrom (skipped : Char → Bool) (byte : Nat) (characters : List Char) :
    (placedFrom byte characters).dropWhile (fun placed => skipped placed.character) =
      placedFrom (byte + encodedSize (characters.takeWhile skipped))
        (characters.dropWhile skipped) := by
  induction characters generalizing byte with
  | nil => rfl
  | cons character rest ih =>
      by_cases skip : skipped character = true
      · simp only [placedFrom, List.dropWhile_cons, List.takeWhile_cons, skip, ↓reduceIte]
        rw [ih, encodedSize_cons, Nat.add_assoc]
      · simp only [placedFrom, List.dropWhile_cons, List.takeWhile_cons, skip,
          Bool.false_eq_true, ↓reduceIte]
        rfl

/-- The last of some placed characters ends where all of them end. -/
theorem stop_getLast?_placedFrom (byte : Nat) (character : Char) (rest : List Char) :
    ((placedFrom (byte + character.utf8Size) rest).getLast?.getD ⟨byte, character⟩).stop =
      byte + encodedSize (character :: rest) := by
  induction rest generalizing byte character with
  | nil =>
      rw [encodedSize_cons]
      rfl
  | cons next rest ih =>
      rw [placedFrom, List.getLast?_cons, Option.getD_some, ih, encodedSize_cons character,
        Nat.add_assoc]

/-- The bytes around a run of characters cut that run out of the text. -/
theorem cut?_of_toList_eq {text : String} {front middle back : List Char}
    (split : text.toList = front ++ middle ++ back) :
    cut? text (encodedSize front) (encodedSize front + encodedSize middle) =
      some (String.ofList middle) := by
  have joined : text = String.ofList front ++ String.ofList middle ++ String.ofList back := by
    rw [← String.ofList_append, ← String.ofList_append, ← split, String.ofList_toList]
  rw [joined]
  exact cut?_append _ _ _

end Text

namespace Excerpt

/-! ## Shown characters -/

/-- The characters of a span, less the blanks that lead them. -/
def shown (span : Span) (characters : List Char) : List Char :=
  ((characters.drop span.start).take (span.stop - span.start)).dropWhile Text.isBlank

/-- Nothing is shown of a span exactly if it holds nothing but blanks. -/
theorem shown_eq_nil_iff_blank {span : Span} {characters : List Char} :
    shown span characters = [] ↔
      ∀ character ∈ characters.extract span.start span.stop, character ≤ ' ' := by
  rw [shown, ← List.extract_eq_take_drop, List.dropWhile_eq_nil_iff]
  constructor
  · intro blank character member
    exact of_decide_eq_true (blank character member)
  · intro blank character member
    exact decide_eq_true (blank character member)

/-- The characters before the shown ones: those before the span, and the blanks that lead
it. -/
def passed (span : Span) (characters : List Char) : List Char :=
  characters.take span.start ++
    ((characters.drop span.start).take (span.stop - span.start)).takeWhile Text.isBlank

theorem passed_append_shown_append (span : Span) (characters : List Char) :
    passed span characters ++ shown span characters ++
      (characters.drop span.start).drop (span.stop - span.start) = characters := by
  rw [passed, shown, List.append_assoc (characters.take span.start),
    List.takeWhile_append_dropWhile, List.append_assoc, List.take_append_drop,
    List.take_append_drop]

/-- **The placed characters of an excerpt are the shown ones, placed after the passed
ones.** -/
theorem visible_eq_placedFrom (span : Span) (text : String) :
    visible span text =
      Text.placedFrom (Text.encodedSize (passed span text.toList)) (shown span text.toList) := by
  rw [visible, Text.placed, Text.drop_placedFrom, Text.take_placedFrom,
    Text.dropWhile_placedFrom, passed, Text.encodedSize_append, Nat.zero_add]
  rfl

theorem byteRange?_visible {span : Span} {text : String}
    (something : shown span text.toList ≠ []) :
    byteRange? (visible span text) =
      some (Text.encodedSize (passed span text.toList),
        Text.encodedSize (passed span text.toList) +
          Text.encodedSize (shown span text.toList)) := by
  obtain ⟨character, rest, characters⟩ := List.exists_cons_of_ne_nil something
  rw [visible_eq_placedFrom, characters, Text.placedFrom, byteRange?,
    Text.stop_getLast?_placedFrom]

/-- The cut at the visible characters is not refused, and returns the shown ones. -/
theorem cutOut?_visible (span : Span) (text : String) :
    cutOut? text (visible span text) = some (String.ofList (shown span text.toList)) := by
  by_cases nothing : shown span text.toList = []
  · have hidden : visible span text = [] := by
      rw [visible_eq_placedFrom, nothing, Text.placedFrom]
    rw [hidden, nothing]
    rfl
  · rw [cutOut?, byteRange?_visible nothing]
    exact Text.cut?_of_toList_eq (passed_append_shown_append span text.toList).symm

/-- **The excerpt of a text in a span consists of the shown characters.** -/
theorem ofSpan_eq_shown (span : Span) (text : String) :
    ofSpan span text = String.ofList (shown span text.toList) := by
  rw [ofSpan, cutOut?_visible, Option.getD_some]

end Excerpt

end FaultReport
