import FaultReport.Excerpt.Exact
import FaultReport.Proofs.Excerpt.Shown

/-!
# Excerpts are exact

Spans are computed with saturating offsets, collapse early to the empty span, and are cut
out of stored bytes. The rule for excerpts knows none of this: it lays the window in exact
integers and moves the start on while it stands on a blank.

For a text shorter than the largest offset the two agree (`excerpt_eq_exact`). Saturation
happens only where the rule does not look. A start that saturates lies before the text, where
all places count as its beginning (`toNat_sub_sub`). A stop that saturates lies past the text,
so the window is pulled left and its stop is computed from the length instead
(`lt_add_iff`). The walk over blanks is `dropWhile` (`take_drop_skipBlanks`).

The bound on the length cannot be dropped: a text as long as the largest offset hides that a
saturated stop lies past it.
-/

set_option autoImplicit false

namespace FaultReport

/-! ## Saturation out of sight -/

namespace Offset

theorem toNat_sub {left right : Int} (upper : left ≤ greatest) (nonneg : 0 ≤ right) :
    (sub left right).toNat = (left - right).toNat := by
  simp only [sub, clamp, least, greatest] at upper ⊢
  omega

/-- Subtracting again from a difference that saturated stays before the text. -/
theorem toNat_sub_sub {left first second : Int} (upper : left ≤ greatest) (nonneg : 0 ≤ first)
    (nonneg' : 0 ≤ second) :
    (sub (sub left first) second).toNat = (left - first - second).toNat := by
  simp only [sub, clamp, least, greatest] at upper ⊢
  omega

/-- A sum passes a length below the largest offset exactly when the exact sum does. -/
theorem lt_add_iff {length left right : Int} (short : length < greatest)
    (lower : least ≤ left) (nonneg : 0 ≤ right) :
    length < add left right ↔ length < left + right := by
  simp only [add, clamp, least, greatest] at short lower ⊢
  omega

/-- A sum that does not pass a length below the largest offset is exact. -/
theorem add_eq_of_le {length left right : Int} (short : length < greatest)
    (lower : least ≤ left) (nonneg : 0 ≤ right) (inside : left + right ≤ length) :
    add left right = left + right := by
  have upper : left + right ≤ greatest := by omega
  exact clamp_eq_self (by omega) upper

theorem ofCount_eq_min (count : Nat) :
    ofCount count = ((min count greatest.toNat : Nat) : Int) := by
  simp only [ofCount, greatest]
  omega

end Offset

namespace Window

/-- **The span of a window lies between its exact edges**, once the sizes of the window are
capped. -/
theorem span_eq_between_exactEdges (window : Window) {length : Nat} {cursor : Int}
    (lower : Offset.least ≤ cursor) (upper : cursor ≤ Offset.greatest)
    (short : (length : Int) < Offset.greatest) :
    window.span length cursor =
      Span.between (Excerpt.exactEdges window.capped length cursor).1
        (Excerpt.exactEdges window.capped length cursor).2 := by
  have before := Offset.ofCount_nonneg window.before
  have after := Offset.ofCount_nonneg window.after
  have counted : Offset.ofCount length = length := by
    simp only [Offset.ofCount]
    omega
  have passes := Offset.lt_add_iff short lower after
  simp only [span, edges, Excerpt.exactEdges, capped, counted, ← Offset.ofCount_eq_min]
  by_cases past : (length : Int) < cursor + Offset.ofCount window.after
  · -- The window is pulled left, and only its start is computed from the cursor.
    rw [if_pos past, if_pos (passes.mpr past)]
    simp only [Span.between, Offset.toNat_sub_sub upper before after]
  · have stop := Offset.add_eq_of_le short lower after (by omega)
    rw [if_neg past, if_neg (mt passes.mp past)]
    simp only [Span.between, Offset.toNat_sub upper before, stop]

end Window

/-! ## The walk over blanks -/

namespace Excerpt

theorem drop_eq_cons {characters : List Char} {place : Nat} {character : Char}
    (here : characters[place]? = some character) :
    characters.drop place = character :: characters.drop (place + 1) := by
  obtain ⟨inside, equal⟩ := List.getElem?_eq_some_iff.mp here
  rw [List.drop_eq_getElem_cons inside, equal]

/-- **Moving the start over blanks drops them.** What lies between the moved start and the
stop is what lay between start and stop, less its leading blanks. -/
theorem take_drop_skipBlanks (characters : List Char) (start stop : Nat) :
    (characters.drop (skipBlanks characters start stop)).take
        (stop - skipBlanks characters start stop) =
      ((characters.drop start).take (stop - start)).dropWhile Text.isBlank := by
  fun_induction skipBlanks characters start stop with
  | case1 start unfinished blank ih =>
      obtain ⟨character, here, isBlank⟩ := Option.any_eq_true _ _ |>.mp blank
      have size : stop - start = stop - (start + 1) + 1 := by omega
      rw [ih, drop_eq_cons here, size, List.take_succ_cons, List.dropWhile_cons_of_pos isBlank]
  | case2 start unfinished visible =>
      cases here : characters[start]? with
      | none =>
          have past : characters.drop start = [] :=
            List.drop_eq_nil_of_le (List.getElem?_eq_none_iff.mp here)
          rw [past, List.take_nil]
          rfl
      | some character =>
          have size : stop - start = stop - (start + 1) + 1 := by omega
          rw [here, Option.any_some] at visible
          rw [drop_eq_cons here, size, List.take_succ_cons, List.dropWhile_cons_of_neg visible]
  | case3 start finished =>
      have size : stop - start = 0 := by omega
      rw [size, List.take_zero, List.dropWhile_nil]

/-- A span between two offsets shows what lies between them, less its leading blanks, also
where the offsets enclose nothing. -/
theorem shown_between (start stop : Int) (characters : List Char) :
    shown (Span.between start stop) characters =
      ((characters.drop start.toNat).take (stop.toNat - start.toNat)).dropWhile Text.isBlank := by
  by_cases collapsed : stop.toNat ≤ start.toNat
  · have size : stop.toNat - start.toNat = 0 := by omega
    rw [Span.between, if_pos collapsed, size, List.take_zero]
    rfl
  · rw [Span.between, if_neg collapsed]
    rfl

theorem exactCharacters_eq_shown (window : Window) (characters : List Char) (cursor : Int) :
    exactCharacters window characters cursor =
      shown (Span.between (exactEdges window characters.length cursor).1
        (exactEdges window characters.length cursor).2) characters := by
  rw [shown_between, ← take_drop_skipBlanks]
  rfl

end Excerpt

/-! ## Agreement -/

/-- **Excerpts follow the exact rule**, for every window, every offset as cursor and every
text shorter than the largest offset. -/
theorem Window.excerpt_eq_exact (window : Window) (text : String) (cursor : Int)
    (lower : Offset.least ≤ cursor) (upper : cursor ≤ Offset.greatest)
    (short : (text.length : Int) < Offset.greatest) :
    window.excerpt (some text) cursor = Excerpt.exact window.capped text cursor := by
  have characters := Excerpt.exactCharacters_eq_shown window.capped text.toList cursor
  rw [String.length_toList, ← window.span_eq_between_exactEdges lower upper short] at characters
  rw [excerpt, excerptOf, Excerpt.ofSpan_eq_shown, Excerpt.exact, characters]

/-- The window with the largest sizes. -/
def Window.widest : Window := ⟨Count.limit - 1, Count.limit - 1⟩

/-- The widest window at the largest offset: the sum of cursor and size saturates, the
window is pulled left to the beginning of the text, and the blank there is skipped. -/
theorem Window.excerpt_widest_at_greatest :
    Offset.least ≤ Offset.greatest ∧ ((" ab".length : Nat) : Int) < Offset.greatest ∧
      Window.widest.excerpt (some " ab") Offset.greatest =
        Excerpt.exact Window.widest.capped " ab" Offset.greatest ∧
      Excerpt.exact Window.widest.capped " ab" Offset.greatest = "a" := by
  have short : ((" ab".length : Nat) : Int) < Offset.greatest := by decide
  have agrees := Window.widest.excerpt_eq_exact " ab" Offset.greatest (by decide)
    (Int.le_refl _) short
  refine ⟨by decide, short, agrees, ?_⟩
  rw [Excerpt.exact, Excerpt.exactCharacters_eq_shown]
  decide

end FaultReport
