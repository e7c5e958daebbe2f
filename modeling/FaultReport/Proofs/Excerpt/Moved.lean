import FaultReport.Proofs.Excerpt.Covered

/-!
# Excerpts of longer texts

What an excerpt shows depends on the text only through the characters that the window covers. So
more text after a window that fits changes nothing. More text before it changes nothing either,
if the cursor moves along: the span then moves by as many places (`exactSpan_moved_of_fits`), and
the characters at its places stay the same (`shown_moved`). A window that is pulled left moves
along as well, because the last character does (`exactSpan_moved_of_past`).

Moving needs the whole span inside the text. A window that starts before the text covers less
than it could, and would cover some of the text put in front.
-/

set_option autoImplicit false

namespace FaultReport

/-- The span as many places further on. -/
def Span.moved (span : Span) (count : Nat) : Span := ⟨count + span.start, count + span.stop⟩

namespace Excerpt

/-! ## Characters of longer texts -/

/-- Text after a span does not matter. -/
theorem shown_append {span : Span} {characters : List Char} (inside : span.stop ≤ characters.length)
    (more : List Char) : shown span (characters ++ more) = shown span characters := by
  rw [shown, shown, ← List.drop_take, ← List.drop_take, List.take_append_of_le_length inside]

/-- Text before a span only moves it. -/
theorem shown_moved (span : Span) (front characters : List Char) :
    shown (span.moved front.length) (front ++ characters) = shown span characters := by
  rw [shown, shown, Span.moved, List.drop_length_add_append, Nat.add_sub_add_left]

theorem shown_of_stop_le_start {span : Span} (nothing : span.stop ≤ span.start)
    (characters : List Char) : shown span characters = [] := by
  rw [shown, Nat.sub_eq_zero_of_le nothing, List.take_zero, List.dropWhile_nil]

/-! ## Spans in longer texts -/

section Moving

variable {window : Window} {length : Nat} {cursor : Int} (count : Nat)

theorem exactSpan_moved_of_fits (inside : window.before ≤ cursor)
    (fits : cursor + window.after ≤ length) :
    exactSpan window (count + length) (cursor + count) =
      (exactSpan window length cursor).moved count := by
  have stillFits : cursor + count + window.after ≤ (count + length : Nat) := by omega
  simp only [exactSpan_of_fits fits, exactSpan_of_fits stillFits, Span.moved, Span.mk.injEq]
  omega

/-- A window that is pulled left moves along with the last character, so there has to be one. -/
theorem exactSpan_moved_of_past (inside : window.before + window.after ≤ cursor)
    (past : (length : Int) < cursor + window.after) (nonempty : 1 ≤ length) :
    exactSpan window (count + length) (cursor + count) =
      (exactSpan window length cursor).moved count := by
  have stillPast : ((count + length : Nat) : Int) < cursor + count + window.after := by omega
  simp only [exactSpan_of_past past, exactSpan_of_past stillPast, Span.moved, Span.mk.injEq]
  omega

end Moving

end Excerpt

/-! ## Excerpts in longer texts -/

namespace Window

section Longer

variable (window : Window) {text : String} (other : String) {cursor : Int}
  (lower : Offset.least ≤ cursor)
  (short : ((text.length + other.length : Nat) : Int) < Offset.greatest)
include lower short

/-- **Text after a window that fits does not matter.** -/
theorem excerpt_append_of_fits (upper : cursor ≤ Offset.greatest)
    (fits : cursor + window.capped.after ≤ text.length) :
    window.excerpt (some (text ++ other)) cursor = window.excerpt (some text) cursor := by
  have shortText : (text.length : Int) < Offset.greatest := by omega
  have shortBoth : ((text ++ other).length : Int) < Offset.greatest := by
    rw [String.length_append]
    exact short
  have stillFits : cursor + window.capped.after ≤ (text ++ other).length := by
    rw [String.length_append]
    omega
  have inside : (Excerpt.exactSpan window.capped text.length cursor).stop ≤ text.toList.length := by
    rw [String.length_toList]
    exact Excerpt.exactSpan_stop_le
  apply String.toList_inj.mp
  rw [window.toList_excerpt lower upper shortText, window.toList_excerpt lower upper shortBoth,
    String.toList_append, ← Excerpt.shown_append inside other.toList,
    Excerpt.exactSpan_of_fits fits, Excerpt.exactSpan_of_fits stillFits]

section Front

variable (upper : cursor + other.length ≤ Offset.greatest)
include upper

/-- The excerpt of a text with more text in front of it, from a cursor that moves along. -/
theorem toList_excerpt_front :
    (window.excerpt (some (other ++ text)) (cursor + other.length)).toList =
      Excerpt.shown
        (Excerpt.exactSpan window.capped (other.length + text.length) (cursor + other.length))
        (other.toList ++ text.toList) := by
  have shortBoth : ((other ++ text).length : Int) < Offset.greatest := by
    rw [String.length_append, Nat.add_comm]
    exact short
  rw [window.toList_excerpt (by omega) upper shortBoth, String.toList_append,
    String.length_append]

/-- An excerpt stays as it is where its span moves along with the text. -/
theorem excerpt_front_of_moved
    (moved : Excerpt.exactSpan window.capped (other.length + text.length)
        (cursor + other.length) =
      (Excerpt.exactSpan window.capped text.length cursor).moved other.length) :
    window.excerpt (some (other ++ text)) (cursor + other.length) =
      window.excerpt (some text) cursor := by
  apply String.toList_inj.mp
  rw [window.toList_excerpt_front other lower short upper, moved,
    window.toList_excerpt lower (by omega) (by omega), ← String.length_toList (s := other),
    Excerpt.shown_moved]

/-- **A window that is pulled left, but not to the beginning of the text, moves along with it.**
An empty text has no excerpt, and there is none of the text in front of it either. -/
theorem excerpt_front_of_past (inside : window.capped.before + window.capped.after ≤ cursor)
    (past : (text.length : Int) < cursor + window.capped.after) :
    window.excerpt (some (other ++ text)) (cursor + other.length) =
      window.excerpt (some text) cursor := by
  by_cases nonempty : 1 ≤ text.length
  · exact window.excerpt_front_of_moved other lower short upper
      (Excerpt.exactSpan_moved_of_past _ inside past nonempty)
  · -- The span of an empty text does not move, but both windows cover nothing.
    have stillPast : ((other.length + text.length : Nat) : Int) <
        cursor + other.length + window.capped.after := by omega
    have nothing : window.capped.CoversNothing text.length cursor :=
      Or.inr (Or.inr ⟨past, Or.inl (by omega)⟩)
    have stillNothing :
        window.capped.CoversNothing (other.length + text.length) (cursor + other.length) :=
      Or.inr (Or.inr ⟨stillPast, Or.inr (by omega)⟩)
    apply String.toList_inj.mp
    rw [window.toList_excerpt_front other lower short upper,
      window.toList_excerpt lower (by omega) (by omega),
      Excerpt.shown_of_stop_le_start (coversNothing_iff.mp nothing),
      Excerpt.shown_of_stop_le_start (coversNothing_iff.mp stillNothing)]

end Front

/-- **Excerpts of longer texts.** Where the window ends inside the text, more text after it does
not change the excerpt. Where the window also starts inside the text, or is pulled left to a place
inside it, more text before it does not change the excerpt either, if the cursor moves along. -/
theorem excerpt_longer_text (upper : cursor ≤ Offset.greatest) :
    (cursor + window.capped.after ≤ text.length →
      window.excerpt (some (text ++ other)) cursor = window.excerpt (some text) cursor) ∧
    (cursor + other.length ≤ Offset.greatest →
      (window.capped.before ≤ cursor ∧ cursor + window.capped.after ≤ text.length) ∨
        (window.capped.before + window.capped.after ≤ cursor ∧
          (text.length : Int) < cursor + window.capped.after) →
      window.excerpt (some (other ++ text)) (cursor + other.length) =
        window.excerpt (some text) cursor) := by
  refine ⟨window.excerpt_append_of_fits other lower short upper, fun moved regime => ?_⟩
  rcases regime with ⟨inside, fits⟩ | ⟨inside, past⟩
  · exact window.excerpt_front_of_moved other lower short moved
      (Excerpt.exactSpan_moved_of_fits _ inside fits)
  · exact window.excerpt_front_of_past other lower short moved inside past

end Longer

/-- Digits with letters after and before them: at the cursor `7` the window ends with the digits,
and at the cursor `8` it is pulled left. -/
theorem excerpt_longer_text_digits :
    Offset.least ≤ 7 ∧ 8 + ("ab".length : Int) ≤ Offset.greatest ∧
      (("0123456789".length + "ab".length : Nat) : Int) < Offset.greatest ∧
      Window.excerpt ⟨2, 3⟩ (some ("0123456789" ++ "ab")) 7 =
        Window.excerpt ⟨2, 3⟩ (some "0123456789") 7 ∧
      Window.excerpt ⟨2, 3⟩ (some ("ab" ++ "0123456789")) (8 + "ab".length) =
        Window.excerpt ⟨2, 3⟩ (some "0123456789") 8 ∧
      Window.excerpt ⟨2, 3⟩ (some "0123456789") 8 = "345678" := by
  have lower : Offset.least ≤ 7 := by decide
  have upper : 8 + ("ab".length : Int) ≤ Offset.greatest := by decide
  have short : (("0123456789".length + "ab".length : Nat) : Int) < Offset.greatest := by decide
  have after := (excerpt_longer_text ⟨2, 3⟩ "ab" lower short (by decide)).1 (by decide)
  have before := (excerpt_longer_text ⟨2, 3⟩ "ab" (by decide) short (by decide)).2 upper
    (Or.inr (by decide))
  have shown : Window.excerpt ⟨2, 3⟩ (some "0123456789") 8 = "345678" :=
    (Excerpt.ofSpan_eq_shown (Window.span ⟨2, 3⟩ 10 8) "0123456789").trans (by decide)
  exact ⟨lower, upper, short, after, before, shown⟩

end Window

end FaultReport
