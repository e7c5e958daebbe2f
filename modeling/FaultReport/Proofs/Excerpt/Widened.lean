import FaultReport.Proofs.Excerpt.Covered

/-!
# Excerpts of wider windows

A wider window shows what a narrower one shows, and perhaps more on one side. With more
characters before the cursor the span starts earlier and ends where it ended, so the excerpt
grows at its beginning. With more characters after the cursor the span of a window that still
fits ends later, and the excerpt grows at its end. A window that did not fit before is pulled
further left instead, and the excerpt grows at its beginning again.

The blanks that lead a span do not disturb this, although the wider window may skip more of them
or fewer. If the narrower window covers only blanks it shows nothing. Otherwise the first
character that it shows comes after all blanks that lead it, and it is shown whatever stands
further left (`dropWhile_suffix_dropWhile`, `dropWhile_prefix_dropWhile`).
-/

set_option autoImplicit false

namespace FaultReport

namespace Excerpt

/-! ## Blanks that lead longer runs -/

theorem dropWhile_suffix_dropWhile (skipped : Char → Bool) {short long : List Char}
    (ending : short <:+ long) : short.dropWhile skipped <:+ long.dropWhile skipped := by
  obtain ⟨front, rfl⟩ := ending
  rw [List.dropWhile_append]
  split
  next => exact List.suffix_rfl
  next => exact (List.dropWhile_suffix skipped).trans (List.suffix_append _ _)

theorem dropWhile_prefix_dropWhile (skipped : Char → Bool) {short long : List Char}
    (beginning : short <+: long) : short.dropWhile skipped <+: long.dropWhile skipped := by
  obtain ⟨back, rfl⟩ := beginning
  rw [List.dropWhile_append]
  split
  next nothing =>
    rw [List.isEmpty_iff.mp nothing]
    exact List.nil_prefix
  next => exact List.prefix_append _ _

/-! ## Longer spans -/

section Longer

variable {short long : Span}

/-- A span that starts earlier shows more at its beginning. -/
theorem shown_suffix_of_start_le (earlier : long.start ≤ short.start)
    (same : long.stop = short.stop) (characters : List Char) :
    shown short characters <:+ shown long characters := by
  apply dropWhile_suffix_dropWhile
  rw [same, ← List.drop_take, ← List.drop_take]
  exact List.drop_suffix_drop_left _ earlier

/-- A span that stops later shows more at its end. -/
theorem shown_prefix_of_stop_le (same : long.start = short.start)
    (later : short.stop ≤ long.stop) (characters : List Char) :
    shown short characters <+: shown long characters := by
  apply dropWhile_prefix_dropWhile
  rw [same]
  exact List.take_prefix_take_left (Nat.sub_le_sub_right later short.start)

end Longer

/-! ## Wider windows -/

section Wider

variable {narrow wide : Window} {length : Nat} {cursor : Int}

/-- **A window that is pulled left starts earlier if it is wider**, on whichever side. -/
theorem exactSpan_of_le_of_past (before : narrow.before ≤ wide.before)
    (after : narrow.after ≤ wide.after) (past : (length : Int) < cursor + narrow.after) :
    (exactSpan wide length cursor).start ≤ (exactSpan narrow length cursor).start ∧
      (exactSpan wide length cursor).stop = (exactSpan narrow length cursor).stop := by
  have pastWide : (length : Int) < cursor + wide.after := by omega
  simp only [exactSpan_of_past past, exactSpan_of_past pastWide, and_true]
  omega

/-- With more before the cursor the span starts earlier, also where the window fits. -/
theorem exactSpan_of_before_le (before : narrow.before ≤ wide.before)
    (after : narrow.after = wide.after) :
    (exactSpan wide length cursor).start ≤ (exactSpan narrow length cursor).start ∧
      (exactSpan wide length cursor).stop = (exactSpan narrow length cursor).stop := by
  by_cases fits : cursor + narrow.after ≤ length
  · have fitsWide : cursor + wide.after ≤ length := after ▸ fits
    simp only [exactSpan_of_fits fits, exactSpan_of_fits fitsWide]
    omega
  · exact exactSpan_of_le_of_past before (Nat.le_of_eq after) (Int.not_le.mp fits)

/-- With more after the cursor the span stops later where the wider window fits. -/
theorem exactSpan_of_after_le (before : narrow.before = wide.before)
    (after : narrow.after ≤ wide.after) (fits : cursor + wide.after ≤ length) :
    (exactSpan wide length cursor).start = (exactSpan narrow length cursor).start ∧
      (exactSpan narrow length cursor).stop ≤ (exactSpan wide length cursor).stop := by
  have fitsNarrow : cursor + narrow.after ≤ length := by omega
  simp only [exactSpan_of_fits fits, exactSpan_of_fits fitsNarrow]
  omega

end Wider

end Excerpt

/-- **Excerpts of wider windows.** With more characters before the cursor an excerpt grows at its
beginning. With more after the cursor it grows at its end where the wider window fits, and at its
beginning where the narrower one does not. -/
theorem Window.excerpt_of_wider (narrow wide : Window) {text : String} {cursor : Int}
    (lower : Offset.least ≤ cursor) (upper : cursor ≤ Offset.greatest)
    (short : (text.length : Int) < Offset.greatest) :
    (narrow.capped.before ≤ wide.capped.before → narrow.capped.after = wide.capped.after →
      (narrow.excerpt (some text) cursor).toList <:+ (wide.excerpt (some text) cursor).toList) ∧
    (narrow.capped.before = wide.capped.before → narrow.capped.after ≤ wide.capped.after →
      cursor + wide.capped.after ≤ text.length →
      (narrow.excerpt (some text) cursor).toList <+: (wide.excerpt (some text) cursor).toList) ∧
    (narrow.capped.before = wide.capped.before → narrow.capped.after ≤ wide.capped.after →
      (text.length : Int) < cursor + narrow.capped.after →
      (narrow.excerpt (some text) cursor).toList <:+ (wide.excerpt (some text) cursor).toList) := by
  rw [narrow.toList_excerpt lower upper short, wide.toList_excerpt lower upper short]
  refine ⟨?_, ?_, ?_⟩
  · intro before after
    obtain ⟨earlier, same⟩ := Excerpt.exactSpan_of_before_le before after
    exact Excerpt.shown_suffix_of_start_le earlier same text.toList
  · intro before after fits
    obtain ⟨same, later⟩ := Excerpt.exactSpan_of_after_le before after fits
    exact Excerpt.shown_prefix_of_stop_le same later text.toList
  · intro before after past
    obtain ⟨earlier, same⟩ :=
      Excerpt.exactSpan_of_le_of_past (Nat.le_of_eq before) after past
    exact Excerpt.shown_suffix_of_start_le earlier same text.toList

/-- Windows around two blanks: wider before the cursor, wider after it, and wider where both are
pulled left. -/
theorem Window.excerpt_of_wider_around_blanks :
    Offset.least ≤ 3 ∧ 4 ≤ Offset.greatest ∧
      (("ab  cd".length : Nat) : Int) < Offset.greatest ∧
      (excerpt ⟨1, 2⟩ (some "ab  cd") 3).toList <:+ (excerpt ⟨3, 2⟩ (some "ab  cd") 3).toList ∧
      (excerpt ⟨1, 1⟩ (some "ab  cd") 3).toList <+: (excerpt ⟨1, 2⟩ (some "ab  cd") 3).toList ∧
      (excerpt ⟨0, 3⟩ (some "ab  cd") 4).toList <:+ (excerpt ⟨0, 5⟩ (some "ab  cd") 4).toList ∧
      excerpt ⟨1, 2⟩ (some "ab  cd") 3 = "c" ∧ excerpt ⟨3, 2⟩ (some "ab  cd") 3 = "ab  c" := by
  have lower : Offset.least ≤ 3 := by decide
  have upper : 4 ≤ Offset.greatest := by decide
  have short : (("ab  cd".length : Nat) : Int) < Offset.greatest := by decide
  have before := (excerpt_of_wider ⟨1, 2⟩ ⟨3, 2⟩ lower (by decide) short).1 (by decide) (by decide)
  have after := (excerpt_of_wider ⟨1, 1⟩ ⟨1, 2⟩ lower (by decide) short).2.1 (by decide)
    (by decide) (by decide)
  have pulled := (excerpt_of_wider ⟨0, 3⟩ ⟨0, 5⟩ (by decide) upper short).2.2 (by decide)
    (by decide) (by decide)
  have shown : excerpt ⟨1, 2⟩ (some "ab  cd") 3 = "c" :=
    (Excerpt.ofSpan_eq_shown (span ⟨1, 2⟩ 6 3) "ab  cd").trans (by decide)
  have shownWide : excerpt ⟨3, 2⟩ (some "ab  cd") 3 = "ab  c" :=
    (Excerpt.ofSpan_eq_shown (span ⟨3, 2⟩ 6 3) "ab  cd").trans (by decide)
  exact ⟨lower, upper, short, before, after, pulled, shown, shownWide⟩

end FaultReport
