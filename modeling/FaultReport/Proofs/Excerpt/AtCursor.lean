import FaultReport.Proofs.Excerpt.Covered

/-!
# The character at the cursor

An excerpt shows a run of characters, from the first in its span that is not blank to the end of
the span (`toList_excerpt_eq_extract`). So a character that is not blank is shown if its place
lies in the span: the walk over blanks stops at that place at the latest (`skipBlanks_le`).

A window with a character after the cursor covers the place of the cursor, and it still does
where it is pulled left, because it ends before the last character only (`exactSpan_covers`). The
last character itself is another matter. A window that reaches past it is pulled left and ends
just before it (`exactSpan_at_last`). Only the window with a single character after the cursor
fits there. The main statement tells the two cases apart (`excerpt_shows_cursor`).
-/

set_option autoImplicit false

namespace FaultReport

/-! ## Places that are shown -/

/-- A span covers a place. -/
def Span.Covers (span : Span) (place : Nat) : Prop := span.start ≤ place ∧ place < span.stop

namespace Excerpt

/-- The walk over blanks stops at a character that is not blank. -/
theorem skipBlanks_le {characters : List Char} {start stop place : Nat} {character : Char}
    (started : start ≤ place) (here : characters[place]? = some character)
    (visible : ' ' < character) : skipBlanks characters start stop ≤ place := by
  fun_induction skipBlanks characters start stop with
  | case1 start unfinished blank ih =>
      -- The walk goes on from a blank, so not from the place of the character.
      have elsewhere : start ≠ place := by
        rintro rfl
        rw [here, Option.any_some] at blank
        exact Char.not_le.mpr visible (of_decide_eq_true blank)
      exact ih (by omega)
  | case2 start unfinished visible => exact started
  | case3 start finished => exact started

end Excerpt

namespace Window

/-- The places whose characters the excerpt of a text shows: those of its span from the first
that is not blank. -/
def places (window : Window) (text : String) (cursor : Int) : Span :=
  let span := Excerpt.exactSpan window.capped text.length cursor
  ⟨Excerpt.skipBlanks text.toList span.start span.stop, span.stop⟩

theorem toList_excerpt_eq_extract (window : Window) {text : String} {cursor : Int}
    (lower : Offset.least ≤ cursor) (upper : cursor ≤ Offset.greatest)
    (short : (text.length : Int) < Offset.greatest) :
    (window.excerpt (some text) cursor).toList =
      text.toList.extract (window.places text cursor).start (window.places text cursor).stop := by
  rw [window.toList_excerpt lower upper short, Excerpt.shown, ← Excerpt.take_drop_skipBlanks]
  rfl

end Window

/-! ## Spans around the cursor -/

namespace Excerpt

variable {window : Window} {length cursor : Nat}

/-- **A window covers the place of its cursor**, unless that is the last place and the window
reaches past it. -/
theorem exactSpan_covers (reaches : 1 ≤ window.after) (inside : cursor < length)
    (early : cursor + 1 < length ∨ window.after = 1) :
    (exactSpan window length cursor).Covers cursor := by
  by_cases fits : (cursor : Int) + window.after ≤ length
  · simp only [exactSpan_of_fits fits, Span.Covers]
    omega
  · simp only [exactSpan_of_past (Int.not_le.mp fits), Span.Covers]
    omega

/-- A window that reaches past the last character covers characters just up to it. -/
theorem exactSpan_at_last (reaches : 2 ≤ window.after) (last : cursor + 1 = length) :
    (exactSpan window length cursor).start ≤ cursor ∧
      (exactSpan window length cursor).stop = cursor := by
  have past : (length : Int) < cursor + window.after := by omega
  simp only [exactSpan_of_past past]
  omega

end Excerpt

/-! ## What is shown at the cursor -/

namespace Window

variable (window : Window)

theorem le_after_capped {count : Nat} (offset : (count : Int) ≤ Offset.greatest)
    (reaches : count ≤ window.after) : count ≤ window.capped.after := by
  simp only [capped]
  omega

theorem after_capped_eq_self (offset : (window.after : Int) ≤ Offset.greatest) :
    window.capped.after = window.after := by
  simp only [capped]
  omega

/-- A character that is not blank is at one of the places shown if the span covers it. -/
theorem places_covers {text : String} {cursor : Nat} {character : Char}
    (here : text.toList[cursor]? = some character) (visible : ' ' < character)
    (covered : (Excerpt.exactSpan window.capped text.length cursor).Covers cursor) :
    (window.places text cursor).Covers cursor :=
  ⟨Excerpt.skipBlanks_le covered.1 here visible, covered.2⟩

/-- **Which cursors an excerpt shows.** The excerpt consists of the characters at the places shown.
For a cursor at a character that is not blank these include the cursor, if it stands before the
last character or the window has a single character after the cursor. At the last character any
other window shows places up to it, but not the last place itself. -/
theorem excerpt_shows_cursor {text : String} {cursor : Nat} {character : Char}
    (reaches : 1 ≤ window.after) (here : text.toList[cursor]? = some character)
    (visible : ' ' < character) (short : (text.length : Int) < Offset.greatest) :
    (window.excerpt (some text) cursor).toList =
      text.toList.extract (window.places text cursor).start (window.places text cursor).stop ∧
    (cursor + 1 < text.length ∨ window.after = 1 →
      (window.places text cursor).Covers cursor ∧
        (window.places text cursor).stop ≤ text.length ∧
        character ∈ (window.excerpt (some text) cursor).toList) ∧
    (cursor + 1 = text.length → 2 ≤ window.after →
      (window.places text cursor).start ≤ text.length - 1 ∧
        (window.places text cursor).stop = text.length - 1 ∧
        ¬ (window.places text cursor).Covers cursor) := by
  have inside : cursor < text.length := by
    rw [← String.length_toList]
    exact (List.getElem?_eq_some_iff.mp here).1
  have lower : Offset.least ≤ (cursor : Int) := by
    simp only [Offset.least]
    omega
  have extracted := window.toList_excerpt_eq_extract lower (by omega) short
  refine ⟨extracted, ?_, ?_⟩
  · intro early
    have single : window.after = 1 → window.capped.after = 1 := by
      intro one
      rw [window.after_capped_eq_self (one ▸ by decide), one]
    have covered : (window.places text cursor).Covers cursor :=
      window.places_covers here visible (Excerpt.exactSpan_covers
        (window.le_after_capped (by decide) reaches) inside (early.imp_right single))
    refine ⟨covered, Excerpt.exactSpan_stop_le, ?_⟩
    rw [extracted]
    exact Excerpt.mem_extract_iff.mpr ⟨cursor, covered.1, covered.2, here⟩
  · intro last more
    obtain ⟨start, stop⟩ := Excerpt.exactSpan_at_last
      (window.le_after_capped (by decide) more) last
    have ends : (window.places text cursor).stop = cursor := stop
    have starts : (window.places text cursor).start ≤ cursor :=
      Excerpt.skipBlanks_le start here visible
    refine ⟨by omega, by omega, ?_⟩
    rintro ⟨_, before⟩
    omega

/-- The standard window at two characters that are not blank: it shows the first of them, and ends
just before the other one, which is the last. -/
theorem excerpt_shows_cursor_until_last :
    1 ≤ standard.after ∧ "  x y".toList[2]? = some 'x' ∧ ' ' < 'x' ∧ "  x y".toList[4]? = some 'y' ∧
      ' ' < 'y' ∧ (("  x y".length : Nat) : Int) < Offset.greatest ∧
      (standard.places "  x y" (2 : Nat)).Covers 2 ∧
      'x' ∈ (standard.excerpt (some "  x y") (2 : Nat)).toList ∧
      (standard.places "  x y" (4 : Nat)).stop = 4 ∧
      ¬ (standard.places "  x y" (4 : Nat)).Covers 4 ∧
      standard.excerpt (some "  x y") (4 : Nat) = "x " := by
  have reaches : 1 ≤ standard.after := by decide
  have here : "  x y".toList[2]? = some 'x' := by decide
  have hereLast : "  x y".toList[4]? = some 'y' := by decide
  have visible : ' ' < 'x' := by decide
  have visibleLast : ' ' < 'y' := by decide
  have short : (("  x y".length : Nat) : Int) < Offset.greatest := by decide
  obtain ⟨_, early, _⟩ := standard.excerpt_shows_cursor reaches here visible short
  obtain ⟨_, _, last⟩ := standard.excerpt_shows_cursor reaches hereLast visibleLast short
  obtain ⟨covered, _, member⟩ := early (by decide)
  obtain ⟨_, stop, outside⟩ := last (by decide) (by decide)
  have shown : standard.excerpt (some "  x y") (4 : Nat) = "x " :=
    (Excerpt.ofSpan_eq_shown (standard.span 5 4) "  x y").trans (by decide)
  exact ⟨reaches, here, visible, hereLast, visibleLast, short, covered, member, stop, outside,
    shown⟩

end Window

end FaultReport
