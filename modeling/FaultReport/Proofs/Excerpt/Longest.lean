import FaultReport.Proofs.Excerpt.Shown
import Mathlib.Order.Bounds.Defs

/-!
# The longest excerpt

An excerpt shows at most as many characters as its span covers, and just as many if there are
no blanks to skip. So the longest excerpt of a window has the size of its largest span. Where
the window fits, its span covers at most its width. Where it is pulled left, the span starts
earlier by the size after the cursor but also ends before the last character, which the window
would have passed: twice the size after the cursor, less two, on top of the size before it.

Both sizes are reached. A text as long as the window is covered whole (`span_whole`), and a
text past whose end the window reaches is covered up to its last character (`span_front`). The
main statement gives the longest excerpt over all texts and cursors, and over those where the
window fits (`isGreatest_excerptSizes`).

`Window.longest` counts a window that is pulled left, also where pulling it left makes it
narrower. With less than two characters after the cursor that is so, and the count is less than
the width. It bounds the excerpts of a window exactly if there are at least two characters after
the cursor, or no characters at all, or so many before it that the count reaches the largest
offset, which no excerpt exceeds (`excerpt_le_longest_iff`).
-/

set_option autoImplicit false

namespace FaultReport

/-! ## Sizes of spans -/

/-- The number of characters that a span covers. -/
def Span.size (span : Span) : Nat := span.stop - span.start

theorem Span.size_between_le {start stop : Int} {bound : Nat} (near : stop - start ≤ bound) :
    (Span.between start stop).size ≤ bound := by
  rw [between]
  split
  · exact Nat.zero_le bound
  · simp only [size]
    omega

/-- A span that starts before the text starts at its beginning. -/
theorem Span.between_of_nonpos {start : Int} (early : start ≤ 0) (stop : Nat) :
    Span.between start stop = ⟨0, stop⟩ := by
  rw [between, Int.toNat_of_nonpos early, Int.toNat_natCast]
  split
  next nothing => rw [empty, Nat.le_zero.mp nothing]
  next => rfl

namespace Offset

/-- A count that is an offset stays as it is. -/
theorem ofCount_eq_self {count : Nat} (offset : (count : Int) ≤ greatest) :
    ofCount count = count :=
  Int.min_eq_left offset

/-- A difference that saturates becomes larger. -/
theorem le_sub {left right : Int} (upper : left ≤ greatest) (nonneg : 0 ≤ right) :
    left - right ≤ sub left right := by
  simp only [sub, clamp]
  omega

/-- A sum that saturates becomes smaller. -/
theorem add_le {left right : Int} (lower : least ≤ left) (nonneg : 0 ≤ right) :
    add left right ≤ left + right := by
  simp only [add, clamp]
  omega

end Offset

namespace Window

/-- No span covers more characters than there are offsets past the beginning. -/
theorem size_span_le_greatest (window : Window) (length : Nat) (cursor : Int) :
    ((window.span length cursor).size : Int) ≤ Offset.greatest := by
  have inside := window.edges_stop_le (Offset.ofCount length) cursor
  have offset := Offset.ofCount_le_greatest length
  simp only [span, Span.between]
  split
  · exact Int.le_of_lt (by decide)
  · simp only [Span.size, Offset.greatest] at offset ⊢
    omega

section Reach

variable (window : Window) {length : Nat} {cursor : Int} (lower : Offset.least ≤ cursor)
  (upper : cursor ≤ Offset.greatest)
include lower upper

/-- **A window that fits covers at most its width.** -/
theorem size_span_le_of_fits (fits : cursor + window.after ≤ length) :
    (window.span length cursor).size ≤ window.before + window.after := by
  have before := Offset.ofCount_le window.before
  have after := Offset.ofCount_le window.after
  have start := Offset.le_sub upper (Offset.ofCount_nonneg window.before)
  have stop := Offset.add_le lower (Offset.ofCount_nonneg window.after)
  have inside : ¬ Offset.ofCount length < Offset.add cursor (Offset.ofCount window.after) := by
    have offset := Offset.clamp_le_greatest (cursor + Offset.ofCount window.after)
    simp only [Offset.ofCount, Offset.add] at after stop offset ⊢
    omega
  rw [span, edges, if_neg inside]
  apply Span.size_between_le
  omega

/-- **Every window covers at most its width, or what it covers when it is pulled left.** -/
theorem size_span_le :
    (window.span length cursor).size ≤
      window.before + max window.after (2 * window.after - 2) := by
  have before := Offset.ofCount_le window.before
  have after := Offset.ofCount_le window.after
  have start := Offset.le_sub upper (Offset.ofCount_nonneg window.before)
  have stop := Offset.add_le lower (Offset.ofCount_nonneg window.after)
  by_cases past : Offset.ofCount length < Offset.add cursor (Offset.ofCount window.after)
  · have inside := Offset.clamp_le_greatest (cursor - Offset.ofCount window.before)
    have pulled := Offset.le_sub inside (Offset.ofCount_nonneg window.after)
    rw [span, edges, if_pos past]
    apply Span.size_between_le
    simp only [Offset.sub] at start pulled ⊢
    omega
  · rw [span, edges, if_neg past]
    apply Span.size_between_le
    omega

end Reach

/-- A text no longer than the window is covered whole, from a cursor that stands as far before
its end as the window reaches. -/
theorem span_whole (window : Window) {length : Nat} (reached : window.after ≤ length)
    (covered : length ≤ window.before + window.after) (offset : (length : Int) ≤ Offset.greatest) :
    window.span length (length - window.after) = ⟨0, length⟩ := by
  have after : Offset.ofCount window.after = window.after := Offset.ofCount_eq_self (by omega)
  have counted : Offset.ofCount length = length := Offset.ofCount_eq_self offset
  have stop : Offset.add (length - window.after) window.after = length := by
    rw [Offset.add, Int.sub_add_cancel]
    apply Offset.clamp_eq_self _ offset
    simp only [Offset.least]
    omega
  have start : Offset.sub (length - window.after) (Offset.ofCount window.before) ≤ 0 := by
    simp only [Offset.sub, Offset.clamp, Offset.ofCount, Offset.least]
    omega
  rw [span, counted, edges, after, stop, if_neg (Int.lt_irrefl _)]
  exact Span.between_of_nonpos start length

/-- A text past whose end the window reaches is covered up to its last character, from a cursor
that stands no further from its beginning than the window is wide. -/
theorem span_front (window : Window) {length cursor : Nat}
    (past : length + 1 < cursor + window.after) (near : cursor ≤ window.before + window.after)
    (offset : ((window.before + 2 * window.after : Nat) : Int) ≤ Offset.greatest) :
    window.span (length + 1) cursor = ⟨0, length⟩ := by
  have before : Offset.ofCount window.before = window.before := Offset.ofCount_eq_self (by omega)
  have after : Offset.ofCount window.after = window.after := Offset.ofCount_eq_self (by omega)
  have counted : Offset.ofCount (length + 1) = (length : Int) + 1 :=
    Offset.ofCount_eq_self (by omega)
  have stop : Offset.add cursor window.after = cursor + window.after := by
    apply Offset.clamp_eq_self
    · simp only [Offset.least]
      omega
    · omega
  have start : Offset.sub (Offset.sub cursor window.before) window.after ≤ 0 := by
    simp only [Offset.sub, Offset.clamp, Offset.least]
    omega
  have passed : (length : Int) + 1 < cursor + window.after := by omega
  rw [span, counted, edges, before, after, stop, if_pos passed, Int.add_sub_cancel]
  exact Span.between_of_nonpos start length

end Window

/-! ## Sizes of excerpts -/

namespace Excerpt

theorem length_ofSpan_le (span : Span) (text : String) :
    (ofSpan span text).length ≤ span.size := by
  rw [ofSpan_eq_shown, String.length_ofList]
  exact Nat.le_trans (List.dropWhile_sublist _).length_le (List.length_take_le _ _)

/-- A text that has no blanks. -/
def solid (length : Nat) : String := String.ofList (List.replicate length 'x')

theorem length_solid (length : Nat) : (solid length).length = length := by
  rw [solid, String.length_ofList, List.length_replicate]

/-- **Without blanks, an excerpt shows all that its span covers.** -/
theorem length_ofSpan_solid {span : Span} {length : Nat} (inside : span.stop ≤ length) :
    (ofSpan span (solid length)).length = span.size := by
  have visible : ∀ count, (List.replicate count 'x').dropWhile Text.isBlank =
      List.replicate count 'x' := by
    intro count
    cases count with
    | zero => rfl
    | succ count => exact List.dropWhile_cons_of_neg (by decide)
  rw [ofSpan_eq_shown, String.length_ofList, shown, solid, String.toList_ofList,
    List.drop_replicate, List.take_replicate, visible, List.length_replicate, Span.size]
  omega

end Excerpt

namespace Window

/-! ## The longest excerpt -/

/-- The sizes of the excerpts that a window shows of texts shorter than the largest offset. -/
def excerptSizes (window : Window) : Set Nat :=
  {size | ∃ (text : String) (cursor : Int), (text.length : Int) < Offset.greatest ∧
    Offset.least ≤ cursor ∧ cursor ≤ Offset.greatest ∧
    (window.excerpt (some text) cursor).length = size}

/-- The sizes of these excerpts where the window ends inside the text. -/
def fittingSizes (window : Window) : Set Nat :=
  {size | ∃ (text : String) (cursor : Int), (text.length : Int) < Offset.greatest ∧
    Offset.least ≤ cursor ∧ cursor ≤ Offset.greatest ∧ cursor + window.after ≤ text.length ∧
    (window.excerpt (some text) cursor).length = size}

section Bounds

variable (window : Window) (text : String) {cursor : Int} (lower : Offset.least ≤ cursor)
  (upper : cursor ≤ Offset.greatest)
include lower upper

theorem length_excerpt_le_of_fits (fits : cursor + window.after ≤ text.length) :
    (window.excerpt (some text) cursor).length ≤ window.before + window.after :=
  Nat.le_trans (Excerpt.length_ofSpan_le _ text) (window.size_span_le_of_fits lower upper fits)

theorem length_excerpt_le :
    (window.excerpt (some text) cursor).length ≤
      window.before + max window.after (2 * window.after - 2) :=
  Nat.le_trans (Excerpt.length_ofSpan_le _ text) (window.size_span_le lower upper)

end Bounds

theorem length_excerpt_le_greatest (window : Window) (text : String) (cursor : Int) :
    ((window.excerpt (some text) cursor).length : Int) ≤ Offset.greatest :=
  Int.le_trans (Int.ofNat_le.mpr (Excerpt.length_ofSpan_le _ text))
    (window.size_span_le_greatest text.length cursor)

/-- The excerpt of a text without blanks, no longer than the window, is the whole text. -/
theorem length_excerpt_whole (window : Window) {length : Nat} (reached : window.after ≤ length)
    (covered : length ≤ window.before + window.after) (offset : (length : Int) ≤ Offset.greatest) :
    (window.excerpt (some (Excerpt.solid length)) (length - window.after)).length = length := by
  have whole := window.span_whole reached covered offset
  rw [excerpt, excerptOf, Excerpt.length_solid, whole,
    Excerpt.length_ofSpan_solid (Nat.le_refl length)]
  rfl

/-- The excerpt of a text without blanks that ends where a window that is pulled left is widest
is the whole text but for its last character. -/
theorem length_excerpt_front (window : Window) (widens : 2 ≤ window.after)
    (offset : ((window.before + 2 * window.after : Nat) : Int) ≤ Offset.greatest) :
    (window.excerpt (some (Excerpt.solid (window.before + (2 * window.after - 2) + 1)))
      (window.before + window.after : Nat)).length = window.before + (2 * window.after - 2) := by
  have past : window.before + (2 * window.after - 2) + 1 <
      window.before + window.after + window.after := by omega
  have front := window.span_front past (Nat.le_refl _) offset
  rw [excerpt, excerptOf, Excerpt.length_solid, front,
    Excerpt.length_ofSpan_solid (Nat.le_succ _)]
  rfl

theorem longest_eq_ok_iff {window : Window} {bound : Nat} :
    window.longest = .ok bound ↔
      window.before + 2 * window.after < Count.limit ∧
        window.before + 2 * window.after - 2 = bound := by
  rw [longest]
  by_cases twice : 2 * window.after < Count.limit
  · rw [Count.multiply, if_pos twice]
    by_cases total : window.before + 2 * window.after < Count.limit
    · have added : Count.add window.before (2 * window.after) =
          .ok (window.before + 2 * window.after) := if_pos total
      simp only [bind, Except.bind, added, pure, Except.pure, Except.ok.injEq, total, true_and]
    · have added : Count.add window.before (2 * window.after) = .error .add := if_neg total
      simp only [bind, Except.bind, added, total, false_and, reduceCtorEq]
  · rw [Count.multiply, if_neg twice]
    simp only [bind, Except.bind, reduceCtorEq, false_iff]
    omega

section Attained

variable (window : Window)
  (small : ((window.before + 2 * window.after : Nat) : Int) < Offset.greatest)
include small

/-- The width of a window is attained where it fits. -/
theorem width_mem_fittingSizes : window.before + window.after ∈ window.fittingSizes := by
  have attained := window.length_excerpt_whole (Nat.le_add_left _ _) (Nat.le_refl _) (by omega)
  refine ⟨Excerpt.solid (window.before + window.after), _, ?_, ?_, ?_, ?_, attained⟩
  · rw [Excerpt.length_solid]
    omega
  · simp only [Offset.least]
    omega
  · omega
  · rw [Excerpt.length_solid]
    omega

/-- What a window covers when it is pulled left is attained if that is more than its width. -/
theorem front_mem_excerptSizes (widens : 2 ≤ window.after) :
    window.before + (2 * window.after - 2) ∈ window.excerptSizes := by
  have attained := window.length_excerpt_front widens (Int.le_of_lt small)
  refine ⟨_, _, ?_, ?_, ?_, attained⟩
  · rw [Excerpt.length_solid]
    omega
  · simp only [Offset.least]
    omega
  · omega

/-- **The longest excerpt of a window** has the size before the cursor and, on top of it, the
size after the cursor or twice that less two, whichever is more. With at least two characters
after the cursor this is what `longest` counts. Where the window ends inside the text, the
longest excerpt is as long as the window is wide. -/
theorem isGreatest_excerptSizes :
    IsGreatest window.excerptSizes (window.before + max window.after (2 * window.after - 2)) ∧
    (2 ≤ window.after → window.longest =
      .ok (window.before + max window.after (2 * window.after - 2))) ∧
    IsGreatest window.fittingSizes (window.before + window.after) ∧
    window.width = .ok (window.before + window.after) := by
  have fitting := window.width_mem_fittingSizes small
  refine ⟨⟨?_, ?_⟩, ?_, ⟨fitting, ?_⟩, ?_⟩
  · by_cases widens : 2 ≤ window.after
    · rw [Nat.max_eq_right (by omega)]
      exact window.front_mem_excerptSizes small widens
    · obtain ⟨text, cursor, short, lower, upper, _, attained⟩ := fitting
      rw [Nat.max_eq_left (by omega)]
      exact ⟨text, cursor, short, lower, upper, attained⟩
  · rintro size ⟨text, cursor, _, lower, upper, rfl⟩
    exact window.length_excerpt_le text lower upper
  · intro widens
    apply longest_eq_ok_iff.mpr
    simp only [Offset.greatest, Count.limit] at small ⊢
    omega
  · rintro size ⟨text, cursor, _, lower, upper, fits, rfl⟩
    exact window.length_excerpt_le_of_fits text lower upper fits
  · apply Count.add_eq_ok_iff.mpr
    refine ⟨rfl, ?_⟩
    simp only [Offset.greatest, Count.limit] at small ⊢
    omega

end Attained

/-- The longest excerpts of the standard window: one is longer than the window is wide. -/
theorem isGreatest_excerptSizes_standard :
    ((standard.before + 2 * standard.after : Nat) : Int) < Offset.greatest ∧
      IsGreatest standard.excerptSizes 48 ∧ 2 ≤ standard.after ∧ standard.longest = .ok 48 ∧
      IsGreatest standard.fittingSizes 30 ∧ standard.width = .ok 30 := by
  have small : ((standard.before + 2 * standard.after : Nat) : Int) < Offset.greatest := by decide
  have widens : 2 ≤ standard.after := by decide
  obtain ⟨longest, counted, fitting, width⟩ := standard.isGreatest_excerptSizes small
  exact ⟨small, longest, widens, counted widens, fitting, width⟩

/-- **`longest` bounds the excerpts of a window** of all texts at all cursors exactly if the
window has at least two characters after the cursor, or no characters at all, or sizes so large
that the count reaches the largest offset. -/
theorem excerpt_le_longest_iff (window : Window) {bound : Nat}
    (sizes : window.longest = .ok bound) :
    (∀ (text : String) (cursor : Int), Offset.least ≤ cursor → cursor ≤ Offset.greatest →
      (window.excerpt (some text) cursor).length ≤ bound) ↔
    2 ≤ window.after ∨ window.before + window.after = 0 ∨
      Offset.greatest + 2 ≤ (window.before + 2 * window.after : Nat) := by
  obtain ⟨_, rfl⟩ := longest_eq_ok_iff.mp sizes
  constructor
  · intro bounded
    by_cases widens : 2 ≤ window.after
    · exact Or.inl widens
    · -- The longest text without blanks that the window covers whole.
      obtain ⟨length, longestText⟩ :
          ∃ length, length = min (window.before + window.after) Offset.greatest.toNat := ⟨_, rfl⟩
      have offset : (length : Int) ≤ Offset.greatest := by
        simp only [Offset.greatest] at longestText ⊢
        omega
      have reached : window.after ≤ length := by
        simp only [Offset.greatest] at longestText
        omega
      have covered : length ≤ window.before + window.after := by omega
      have lower : Offset.least ≤ (length : Int) - window.after := by
        simp only [Offset.least]
        omega
      have within := bounded (Excerpt.solid length) (length - window.after) lower (by omega)
      rw [window.length_excerpt_whole reached covered offset] at within
      simp only [Offset.greatest] at longestText ⊢
      omega
  · intro exceptions text cursor lower upper
    have shown := window.length_excerpt_le text lower upper
    have offset := window.length_excerpt_le_greatest text cursor
    omega

/-- The standard window where it is pulled left to the beginning of a text. -/
theorem excerpt_le_longest_iff_standard :
    standard.longest = .ok 48 ∧ Offset.least ≤ 30 ∧ 30 ≤ Offset.greatest ∧ 2 ≤ standard.after ∧
      (standard.excerpt (some (Excerpt.solid 49)) 30).length ≤ 48 := by
  have counted : standard.longest = .ok 48 := rfl
  have lower : Offset.least ≤ 30 := by decide
  have upper : 30 ≤ Offset.greatest := by decide
  have widens : 2 ≤ standard.after := by decide
  have bounded := (standard.excerpt_le_longest_iff counted).mpr (Or.inl widens)
  exact ⟨counted, lower, upper, widens, bounded (Excerpt.solid 49) 30 lower upper⟩

/-- The window that shows the character at the cursor alone. -/
def narrow : Window := ⟨0, 1⟩

/-- The window that shows one character is said to show none. -/
theorem longest_narrow_lt_excerpt :
    narrow.longest = .ok 0 ∧ narrow.excerpt (some "xy") 0 = "x" ∧
      ¬ (narrow.excerpt (some "xy") 0).length ≤ 0 := by
  have shown : narrow.excerpt (some "xy") 0 = "x" :=
    (Excerpt.ofSpan_eq_shown (narrow.span 2 0) "xy").trans (by decide)
  refine ⟨rfl, shown, ?_⟩
  rw [shown]
  decide

end Window

end FaultReport
