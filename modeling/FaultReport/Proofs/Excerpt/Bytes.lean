import FaultReport.Proofs.Excerpt.Shown

/-!
# The bytes of an excerpt

A window counts characters, and an excerpt is cut out of stored bytes. A cut that is not at the
boundaries of characters, or whose ends are the wrong way round, is refused. This never happens.

The first byte comes from the first character that is not blank and the last one from the last
character in the span, which may be the same. Each of them was placed by adding up the encodings
of all characters before it, so what lies between the two bytes is the encoding of a run of
characters, and a run that is not empty has at least one byte (`encodedSize_pos`). A cut says
what it returns, and that its ends are boundaries (`cut?_eq_some_iff`), so nothing but the cut
of the shown characters is needed here.

The main statement is about every window, every cursor and every text
(`excerpt_cut_at_boundaries`). The span lies inside the text. Nothing is cut if all of it is blank,
and otherwise the bytes are those of the characters from the first that is not blank.
-/

set_option autoImplicit false

namespace FaultReport

/-! ## Cuts -/

namespace Text

/-- The bytes from `first` up to but not including `stop` encode some characters: both stand at
the boundary of a character, there are bytes between them, and these are the encoding. -/
structure Encloses (text : String) (first stop : Nat) (characters : List Char) : Prop where
  begins : String.Pos.Raw.IsValid text ⟨first⟩
  ends : String.Pos.Raw.IsValid text ⟨stop⟩
  ordered : first < stop
  inside : stop ≤ text.toByteArray.size
  bytes : text.toByteArray.extract first stop = characters.utf8Encode

/-- **A cut returns the text of the bytes between its ends**, and only if these are boundaries. -/
theorem cut?_eq_some_iff {text part : String} {first stop : Nat} :
    cut? text first stop = some part ↔
      String.Pos.Raw.IsValid text ⟨first⟩ ∧ String.Pos.Raw.IsValid text ⟨stop⟩ ∧ first ≤ stop ∧
        text.toByteArray.extract first stop = part.toByteArray := by
  rw [cut?]
  by_cases fits : String.Pos.Raw.IsValid text ⟨first⟩ ∧ String.Pos.Raw.IsValid text ⟨stop⟩ ∧
      first ≤ stop
  · rw [dif_pos fits, Option.some.injEq, ← String.toByteArray_inj, String.toByteArray_extract]
    constructor
    · intro same
      exact ⟨fits.1, fits.2.1, fits.2.2, same⟩
    · rintro ⟨_, _, _, same⟩
      exact same
  · rw [dif_neg fits]
    constructor
    · intro refused
      contradiction
    · rintro ⟨begins, ends, ordered, _⟩
      exact absurd ⟨begins, ends, ordered⟩ fits

/-- Characters are encoded by at least one byte each. -/
theorem encodedSize_pos {characters : List Char} (something : characters ≠ []) :
    0 < encodedSize characters := by
  obtain ⟨character, rest, rfl⟩ := List.exists_cons_of_ne_nil something
  rw [encodedSize_cons]
  exact Nat.add_pos_left character.utf8Size_pos _

/-- A run of characters in a text is enclosed by the bytes that it was placed between. -/
theorem encloses_of_toList_eq {text : String} {front middle back : List Char}
    (split : text.toList = front ++ middle ++ back) (something : middle ≠ []) :
    Encloses text (encodedSize front) (encodedSize front + encodedSize middle) middle := by
  obtain ⟨begins, ends, _, bytes⟩ := cut?_eq_some_iff.mp (cut?_of_toList_eq split)
  have size := encodedSize_pos something
  exact
    { begins := begins
      ends := ends
      ordered := by omega
      inside := ends.le_utf8ByteSize
      bytes := bytes.trans String.toByteArray_ofList }

end Text

/-! ## What is cut -/

namespace Excerpt

theorem byteRange?_visible_eq_none_iff {span : Span} {text : String} :
    byteRange? (visible span text) = none ↔ shown span text.toList = [] := by
  constructor
  · intro nothing
    by_contra something
    rw [byteRange?_visible something] at nothing
    contradiction
  · intro nothing
    rw [visible_eq_placedFrom, nothing]
    rfl

/-- The bytes of the shown characters enclose them, and the cut at these bytes is the excerpt. -/
theorem encloses_shown {span : Span} {text : String} (something : shown span text.toList ≠ []) :
    ∃ first stop, byteRange? (visible span text) = some (first, stop) ∧
      Text.Encloses text first stop (shown span text.toList) ∧
      Text.cut? text first stop = some (ofSpan span text) := by
  have split := (passed_append_shown_append span text.toList).symm
  refine ⟨_, _, byteRange?_visible something, Text.encloses_of_toList_eq split something, ?_⟩
  rw [ofSpan_eq_shown]
  exact Text.cut?_of_toList_eq split

end Excerpt

namespace Window

variable (window : Window)

/-- **An excerpt is cut at the boundaries of characters.** Whatever the window, the text and the
cursor are, the span starts no later than it stops and stops inside the text. There are no bytes
to cut exactly if all characters of the span are blank. If one is not, there are, and they begin
and end at boundaries inside the text, at least one byte apart. They encode the characters of the
span without the blanks that lead it, and the cut there is not refused but returns the excerpt. -/
theorem excerpt_cut_at_boundaries (text : String) (cursor : Int) :
    (window.span text.length cursor).start ≤ (window.span text.length cursor).stop ∧
    (window.span text.length cursor).stop ≤ text.length ∧
    (Excerpt.byteRange? (Excerpt.visible (window.span text.length cursor) text) = none ↔
      ∀ character ∈ text.toList.extract (window.span text.length cursor).start
        (window.span text.length cursor).stop, character ≤ ' ') ∧
    ((∃ character ∈ text.toList.extract (window.span text.length cursor).start
        (window.span text.length cursor).stop, ' ' < character) →
      ∃ first stop,
        Excerpt.byteRange? (Excerpt.visible (window.span text.length cursor) text) =
          some (first, stop) ∧
        Text.Encloses text first stop
          ((text.toList.extract (window.span text.length cursor).start
            (window.span text.length cursor).stop).dropWhile fun character => character ≤ ' ') ∧
        Text.cut? text first stop = some (window.excerptOf text cursor)) := by
  refine ⟨window.start_le_stop_span text.length cursor, window.stop_span_le text.length cursor,
    ?_, ?_⟩
  · rw [Excerpt.byteRange?_visible_eq_none_iff, Excerpt.shown_eq_nil_iff_blank]
  · rintro ⟨character, member, visible⟩
    have something : Excerpt.shown (window.span text.length cursor) text.toList ≠ [] := by
      intro nothing
      exact Char.not_le.mpr visible (Excerpt.shown_eq_nil_iff_blank.mp nothing character member)
    exact Excerpt.encloses_shown something

/-- Characters of two, three and four bytes between blanks, in a window that is pulled left: the
first blank is dropped, the second is kept, and the last character is left out. -/
theorem excerpt_cut_at_boundaries_wide :
    (∃ character ∈ " é€😀 x".toList.extract (standard.span " é€😀 x".length 2).start
        (standard.span " é€😀 x".length 2).stop, ' ' < character) ∧
      Excerpt.byteRange? (Excerpt.visible (standard.span " é€😀 x".length 2) " é€😀 x") =
        some (1, 11) ∧
      Text.Encloses " é€😀 x" 1 11 "é€😀 ".toList ∧
      Text.cut? " é€😀 x" 1 11 = some (standard.excerptOf " é€😀 x" 2) := by
  have shown : ∃ character ∈ " é€😀 x".toList.extract (standard.span " é€😀 x".length 2).start
      (standard.span " é€😀 x".length 2).stop, ' ' < character := ⟨'é', by decide, by decide⟩
  have range : Excerpt.byteRange?
      (Excerpt.visible (standard.span " é€😀 x".length 2) " é€😀 x") = some (1, 11) := by
    decide
  obtain ⟨_, _, _, cuts⟩ := standard.excerpt_cut_at_boundaries " é€😀 x" 2
  obtain ⟨first, stop, bytes, encloses, cut⟩ := cuts shown
  cases bytes.symm.trans range
  have characters : ((" é€😀 x".toList.extract (standard.span " é€😀 x".length 2).start
      (standard.span " é€😀 x".length 2).stop).dropWhile fun character => character ≤ ' ') =
        "é€😀 ".toList := by
    decide
  rw [characters] at encloses
  exact ⟨shown, range, encloses, cut⟩

end Window

end FaultReport
