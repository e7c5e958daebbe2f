import FaultReport.Proofs.Excerpt.Exact

/-!
# What a window covers

In exact integers a window covers a text in one of two ways. Where it ends inside the text it
covers the characters around the cursor (`exactSpan_of_fits`). Elsewhere it is pulled left, and
it covers the characters before the last one, from a place that lies further left
(`exactSpan_of_past`). An excerpt shows what its window covers, less the blanks that lead it
(`toList_excerpt`). What is said of excerpts elsewhere is read off these three equations, once
for each of the two ways.

Nothing is shown for one of two reasons. The window covers nothing: it ends before the text, or
it has no width, or it is pulled left to where nothing is left of the text (`span_eq_empty_iff`).
Or all that it covers is blank (`shown_eq_nil_iff`). The main statement keeps the two apart
(`excerpt_eq_empty_iff`).
-/

set_option autoImplicit false

namespace FaultReport

/-! ## Exact spans -/

namespace Excerpt

/-- The characters between the exact edges of a window. Places before the text count as its
beginning. -/
def exactSpan (window : Window) (length : Nat) (cursor : Int) : Span where
  start := (exactEdges window length cursor).1.toNat
  stop := (exactEdges window length cursor).2.toNat

section Ways

variable {window : Window} {length : Nat} {cursor : Int}

theorem exactEdges_of_fits (fits : cursor + window.after ≤ length) :
    exactEdges window length cursor = (cursor - window.before, cursor + window.after) :=
  if_neg (Int.not_lt.mpr fits)

theorem exactEdges_of_past (past : (length : Int) < cursor + window.after) :
    exactEdges window length cursor =
      (cursor - window.before - window.after, (length : Int) - 1) :=
  if_pos past

/-- A window that fits covers the characters around the cursor. -/
theorem exactSpan_of_fits (fits : cursor + window.after ≤ length) :
    exactSpan window length cursor =
      ⟨(cursor - window.before).toNat, (cursor + window.after).toNat⟩ := by
  rw [exactSpan, exactEdges_of_fits fits]

/-- A window that is pulled left covers characters before the last one. -/
theorem exactSpan_of_past (past : (length : Int) < cursor + window.after) :
    exactSpan window length cursor =
      ⟨(cursor - window.before - window.after).toNat, length - 1⟩ := by
  have stop : ((length : Int) - 1).toNat = length - 1 := by omega
  rw [exactSpan, exactEdges_of_past past, stop]

theorem exactSpan_stop_le : (exactSpan window length cursor).stop ≤ length := by
  by_cases fits : cursor + window.after ≤ length
  · rw [exactSpan_of_fits fits]
    exact Int.toNat_le.mpr fits
  · rw [exactSpan_of_past (Int.not_le.mp fits)]
    exact Nat.sub_le length 1

end Ways

end Excerpt

/-- **An excerpt shows what its window covers**, less the blanks that lead it. -/
theorem Window.toList_excerpt (window : Window) {text : String} {cursor : Int}
    (lower : Offset.least ≤ cursor) (upper : cursor ≤ Offset.greatest)
    (short : (text.length : Int) < Offset.greatest) :
    (window.excerpt (some text) cursor).toList =
      Excerpt.shown (Excerpt.exactSpan window.capped text.length cursor) text.toList := by
  rw [excerpt, excerptOf, Excerpt.ofSpan_eq_shown, String.toList_ofList,
    window.span_eq_between_exactEdges lower upper short, Excerpt.shown_between]
  rfl

/-! ## Windows that cover nothing -/

theorem Span.between_eq_empty_iff {start stop : Int} :
    between start stop = empty ↔ stop.toNat ≤ start.toNat := by
  rw [between]
  constructor
  · intro nothing
    by_cases collapsed : stop.toNat ≤ start.toNat
    · exact collapsed
    · rw [if_neg collapsed] at nothing
      have stops : stop.toNat = 0 := congrArg Span.stop nothing
      omega
  · intro collapsed
    exact if_pos collapsed

namespace Window

/-- A window covers nothing of a text if it ends before it, or fits and has no width, or is
pulled left and either the text has no character before the last one or the window starts no
earlier than that. -/
def CoversNothing (window : Window) (length : Nat) (cursor : Int) : Prop :=
  cursor + window.after ≤ 0 ∨
    (cursor + window.after ≤ length ∧ window.before + window.after = 0) ∨
    ((length : Int) < cursor + window.after ∧
      (length ≤ 1 ∨ (length : Int) - 1 ≤ cursor - window.before - window.after))

instance (window : Window) (length : Nat) (cursor : Int) :
    Decidable (window.CoversNothing length cursor) := by
  unfold CoversNothing
  infer_instance

theorem coversNothing_iff {window : Window} {length : Nat} {cursor : Int} :
    window.CoversNothing length cursor ↔
      (Excerpt.exactSpan window length cursor).stop ≤
        (Excerpt.exactSpan window length cursor).start := by
  by_cases fits : cursor + window.after ≤ length
  · simp only [Excerpt.exactSpan_of_fits fits, CoversNothing]
    omega
  · simp only [Excerpt.exactSpan_of_past (Int.not_le.mp fits), CoversNothing]
    omega

/-- **The span of a window is empty exactly if the window covers nothing.** -/
theorem span_eq_empty_iff (window : Window) {length : Nat} {cursor : Int}
    (lower : Offset.least ≤ cursor) (upper : cursor ≤ Offset.greatest)
    (short : (length : Int) < Offset.greatest) :
    window.span length cursor = Span.empty ↔ window.capped.CoversNothing length cursor := by
  rw [window.span_eq_between_exactEdges lower upper short, Span.between_eq_empty_iff,
    coversNothing_iff]
  rfl

end Window

/-! ## Windows that cover blanks -/

namespace Text

/-- All characters at places from `start` up to but not including `stop` are blank. -/
def BlankBetween (characters : List Char) (start stop : Int) : Prop :=
  ∀ (place : Nat) (character : Char), start ≤ place → place < stop →
    characters[place]? = some character → character ≤ ' '

theorem blankBetween_toNat {characters : List Char} {start stop : Int} :
    BlankBetween characters start.toNat stop.toNat ↔
      BlankBetween characters (max 0 start) stop := by
  constructor
  · intro blank place character started before here
    exact blank place character (by omega) (by omega) here
  · intro blank place character started before here
    exact blank place character (by omega) (by omega) here

end Text

namespace Excerpt

/-- The characters of a span are those at its places. -/
theorem mem_extract_iff {characters : List Char} {start stop : Nat} {character : Char} :
    character ∈ characters.extract start stop ↔
      ∃ place, start ≤ place ∧ place < stop ∧ characters[place]? = some character := by
  rw [List.extract_eq_take_drop, List.mem_iff_getElem?]
  constructor
  · rintro ⟨offset, here⟩
    rw [List.getElem?_take] at here
    by_cases inside : offset < stop - start
    · rw [if_pos inside, List.getElem?_drop] at here
      exact ⟨start + offset, Nat.le_add_right _ _, by omega, here⟩
    · rw [if_neg inside] at here
      contradiction
  · rintro ⟨place, started, before, here⟩
    refine ⟨place - start, ?_⟩
    rw [List.getElem?_take, if_pos (by omega), List.getElem?_drop, Nat.add_sub_cancel' started,
      here]

/-- Nothing is shown of a span exactly if all its characters are blank. -/
theorem shown_eq_nil_iff {span : Span} {characters : List Char} :
    shown span characters = [] ↔ Text.BlankBetween characters span.start span.stop := by
  rw [shown_eq_nil_iff_blank]
  constructor
  · intro blank place character started before here
    exact blank character (mem_extract_iff.mpr ⟨place, by omega, by omega, here⟩)
  · intro blank character covered
    obtain ⟨place, started, before, here⟩ := mem_extract_iff.mp covered
    exact blank place character (by omega) (by omega) here

end Excerpt

namespace Window

/-- A window covers only blanks of a text. Where it is pulled left, it covers none of the
characters from the last one on. -/
def CoversBlanks (window : Window) (characters : List Char) (cursor : Int) : Prop :=
  (cursor + window.after ≤ characters.length ∧
    Text.BlankBetween characters (max 0 (cursor - window.before)) (cursor + window.after)) ∨
  ((characters.length : Int) < cursor + window.after ∧
    Text.BlankBetween characters (max 0 (cursor - window.before - window.after))
      ((characters.length : Int) - 1))

theorem coversBlanks_iff {window : Window} {characters : List Char} {cursor : Int} :
    window.CoversBlanks characters cursor ↔
      Text.BlankBetween characters (Excerpt.exactSpan window characters.length cursor).start
        (Excerpt.exactSpan window characters.length cursor).stop := by
  rw [Excerpt.exactSpan, Text.blankBetween_toNat, CoversBlanks]
  by_cases fits : cursor + window.after ≤ characters.length
  · have inside : ¬ (characters.length : Int) < cursor + window.after := Int.not_lt.mpr fits
    simp only [Excerpt.exactEdges_of_fits fits, fits, inside, true_and, false_and, or_false]
  · have past : (characters.length : Int) < cursor + window.after := Int.not_le.mp fits
    simp only [Excerpt.exactEdges_of_past past, fits, past, true_and, false_and, false_or]

/-! ## When nothing is shown -/

/-- **When nothing is shown.** The span of a window is empty exactly if the window covers
nothing, and the excerpt is empty exactly if the window covers nothing or only blanks. -/
theorem excerpt_eq_empty_iff (window : Window) {text : String} {cursor : Int}
    (lower : Offset.least ≤ cursor) (upper : cursor ≤ Offset.greatest)
    (short : (text.length : Int) < Offset.greatest) :
    (window.span text.length cursor = Span.empty ↔
      window.capped.CoversNothing text.length cursor) ∧
    (window.excerpt (some text) cursor = "" ↔
      window.capped.CoversNothing text.length cursor ∨
        window.capped.CoversBlanks text.toList cursor) := by
  refine ⟨window.span_eq_empty_iff lower upper short, ?_⟩
  rw [← String.toList_eq_nil_iff, window.toList_excerpt lower upper short,
    Excerpt.shown_eq_nil_iff, ← String.length_toList, ← coversBlanks_iff]
  constructor
  · exact Or.inr
  · rintro (nothing | blanks)
    · -- No character stands between edges that enclose nothing.
      have enclosed := coversNothing_iff.mp nothing
      refine coversBlanks_iff.mpr fun place character started before _ => ?_
      omega
    · exact blanks

/-- The standard window over blanks and a last character that it leaves out: it covers something,
and shows nothing. -/
theorem excerpt_eq_empty_iff_blank_front :
    Offset.least ≤ 1 ∧ 1 ≤ Offset.greatest ∧ ((" \tx".length : Nat) : Int) < Offset.greatest ∧
      ¬ standard.capped.CoversNothing " \tx".length 1 ∧
      standard.capped.CoversBlanks " \tx".toList 1 ∧
      standard.span " \tx".length 1 ≠ Span.empty ∧ standard.excerpt (some " \tx") 1 = "" := by
  have lower : Offset.least ≤ 1 := by decide
  have upper : 1 ≤ Offset.greatest := by decide
  have short : ((" \tx".length : Nat) : Int) < Offset.greatest := by decide
  have something : ¬ standard.capped.CoversNothing " \tx".length 1 := by decide
  have blanks : standard.capped.CoversBlanks " \tx".toList 1 :=
    coversBlanks_iff.mpr (Excerpt.shown_eq_nil_iff.mp (by decide))
  obtain ⟨span, shown⟩ := standard.excerpt_eq_empty_iff lower upper short
  exact ⟨lower, upper, short, something, blanks, mt span.mp something, shown.mpr (Or.inr blanks)⟩

end Window

end FaultReport
