import FaultReport.Excerpt.Checked
import FaultReport.Proofs.Excerpt.Longest

/-!
# Sizes that overflow and excerpts that do not

The sizes of a window are checked counts, and there are windows whose sizes are no counts. Twice the
size after the cursor is computed before the size before it is added, so `longest` reports the
multiplication wherever that overflows, whatever stands before the cursor, and the addition only
where the multiplication succeeds (`longest_eq_error_iff`). The width is the smaller sum, so it is a
count wherever `longest` is one.

Excerpts use the same sizes, but as offsets, which saturate. What is left to check in an excerpt
always succeeds. A window is pulled left to one before the length, and lengths are not negative, so
that is an offset (`stop_edges_bounds`). A span ends no earlier than it starts
(`start_le_stop_span`). The placed characters of a text end inside it (`stop_le_of_mem_placed`), so
in a text with a count of bytes each of them ends at a count. The cut is at the boundaries of
characters, so it is not refused (`cutOut?_visible`). So every window has an excerpt at every
cursor, also if both of its sizes overflow (`sizes_overflow_iff`).
-/

set_option autoImplicit false

namespace FaultReport

/-! ## Sizes -/

namespace Window

/-- **When the longest excerpt is no count**, and which operation finds out. -/
theorem longest_eq_error_iff {window : Window} {overflow : Overflow} :
    window.longest = .error overflow ↔
      (Count.limit ≤ 2 * window.after ∧ overflow = .multiply) ∨
      (2 * window.after < Count.limit ∧ Count.limit ≤ window.before + 2 * window.after ∧
        overflow = .add) := by
  rw [longest]
  cases twice : Count.multiply 2 window.after with
  | error cause =>
      obtain ⟨large, rfl⟩ := Count.multiply_eq_error_iff.mp twice
      simp only [bind, Except.bind, Except.error.injEq, large, Nat.not_lt.mpr large, true_and,
        false_and, or_false, eq_comm]
  | ok twiceAfter =>
      obtain ⟨rfl, small⟩ := Count.multiply_eq_ok_iff.mp twice
      simp only [bind, Except.bind, small, Nat.not_le.mpr small, true_and, false_and, false_or]
      rw [← Count.add_eq_error_iff]
      cases Count.add window.before (2 * window.after) with
      | error cause => rfl
      | ok total => simp only [pure, Except.pure, reduceCtorEq]

end Window

/-! ## Checked operations that succeed -/

namespace Text

/-- Placed characters end no later than the last of them. -/
theorem stop_le_of_mem_placedFrom {byte : Nat} {characters : List Char} {item : Placed}
    (member : item ∈ placedFrom byte characters) : item.stop ≤ byte + encodedSize characters := by
  induction characters generalizing byte with
  | nil => contradiction
  | cons character rest ih =>
      rw [encodedSize_cons]
      rcases List.mem_cons.mp member with rfl | later
      · simp only [Placed.stop]
        omega
      · have within := ih later
        omega

/-- **The characters of a text end inside it.** -/
theorem stop_le_of_mem_placed {text : String} {item : Placed} (member : item ∈ placed text) :
    item.stop ≤ text.utf8ByteSize := by
  have within := stop_le_of_mem_placedFrom member
  rwa [Nat.zero_add, encodedSize, String.ofList_toList] at within

end Text

/-- The visible characters of a text with a count of bytes end at counts. -/
theorem Excerpt.stop_lt_of_mem_visible {span : Span} {text : String}
    (counted : text.utf8ByteSize < Count.limit) {item : Text.Placed}
    (member : item ∈ visible span text) : item.stop < Count.limit := by
  have placed : item ∈ Text.placed text :=
    List.mem_of_mem_drop (List.mem_of_mem_take ((List.dropWhile_sublist _).mem member))
  exact Nat.lt_of_le_of_lt (Text.stop_le_of_mem_placed placed) counted

namespace Window

/-- Where a window ends is an offset, also where it is pulled left. -/
theorem stop_edges_bounds (window : Window) (length : Nat) (cursor : Int) :
    Offset.least ≤ (window.edges (Offset.ofCount length) cursor).2 ∧
      (window.edges (Offset.ofCount length) cursor).2 ≤ Offset.greatest := by
  have nonneg := Offset.ofCount_nonneg length
  have upper := Offset.ofCount_le_greatest length
  rw [edges]
  split
  · simp only [Offset.least]
    omega
  · exact ⟨Offset.least_le_clamp _, Offset.clamp_le_greatest _⟩

/-- **Every window has an excerpt at every cursor** of a text with a count of bytes. -/
theorem excerptOf?_eq_some (window : Window) {text : String}
    (counted : text.utf8ByteSize < Count.limit) (cursor : Int) :
    window.excerptOf? text cursor = some (window.excerptOf text cursor) := by
  have stop := window.stop_edges_bounds text.length cursor
  have ordered := window.start_le_stop_span text.length cursor
  have ends : ((Excerpt.visible (window.span text.length cursor) text).all fun placed =>
      placed.stop < Count.limit) = true := by
    rw [List.all_eq_true]
    intro item member
    exact decide_eq_true (Excerpt.stop_lt_of_mem_visible counted member)
  have cut : Excerpt.cutOut? text (Excerpt.visible (window.span text.length cursor) text) =
      some (window.excerptOf text cursor) := by
    rw [excerptOf, Excerpt.ofSpan, Excerpt.cutOut?_visible, Option.getD_some]
  rw [excerptOf?]
  exact (if_pos ⟨stop, ordered, ends⟩).trans cut

/-! ## Sizes and excerpts -/

/-- **Sizes overflow, and excerpts do not.** The width of a window overflows exactly if its sizes
add up to no count, and is their sum otherwise. The longest excerpt overflows by multiplication
exactly if the size after the cursor is at least half the limit, else by addition exactly if twice
that size and the size before the cursor add up to no count, and is two less than their sum
otherwise, or zero. If it does not overflow, neither does the width. Whether they overflow or not,
every cursor has an excerpt, with all operations checked, and it is the one without checks. -/
theorem sizes_overflow_iff (window : Window) :
    (∀ overflow, window.width = .error overflow ↔
      Count.limit ≤ window.before + window.after ∧ overflow = .add) ∧
    (∀ total, window.width = .ok total ↔
      window.before + window.after < Count.limit ∧ total = window.before + window.after) ∧
    (∀ overflow, window.longest = .error overflow ↔
      (Count.limit / 2 ≤ window.after ∧ overflow = .multiply) ∨
      (window.after < Count.limit / 2 ∧ Count.limit ≤ window.before + 2 * window.after ∧
        overflow = .add)) ∧
    (∀ bound : Nat, window.longest = .ok bound ↔
      window.before + 2 * window.after < Count.limit ∧
        (bound : Int) = max 0 ((window.before : Int) + 2 * window.after - 2)) ∧
    (∀ bound, window.longest = .ok bound → ∃ total, window.width = .ok total) ∧
    ∀ (text : Option String) (cursor : Int),
      (∀ known, text = some known → known.utf8ByteSize < Count.limit) →
      window.excerpt? text cursor = some (window.excerpt text cursor) := by
  refine ⟨?_, ?_, ?_, ?_, ?_, ?_⟩
  · intro overflow
    exact Count.add_eq_error_iff
  · intro total
    rw [width, Count.add_eq_ok_iff]
    omega
  · intro overflow
    have twice : Count.limit ≤ 2 * window.after ↔ Count.limit / 2 ≤ window.after := by
      simp only [Count.limit]
      omega
    rw [longest_eq_error_iff, ← Nat.not_le, twice, Nat.not_le]
  · intro bound
    rw [longest_eq_ok_iff]
    omega
  · intro bound sizes
    obtain ⟨fits, _⟩ := longest_eq_ok_iff.mp sizes
    exact ⟨window.before + window.after, Count.add_eq_ok_iff.mpr ⟨rfl, by omega⟩⟩
  · intro text cursor counted
    cases text with
    | none => rfl
    | some known => exact window.excerptOf?_eq_some (counted known rfl) cursor

/-- A window whose width is a count and whose longest excerpt is not. -/
def lopsided : Window := ⟨0, Count.limit / 2⟩

/-- A window of which neither is a count. -/
def boundless : Window := ⟨Count.limit - 1, Count.limit / 2⟩

/-- A window with both sizes, one with the width alone, and one with neither, in which the
multiplication overflows before the addition can. The last two have an excerpt all the same. -/
theorem sizes_overflow_iff_boundless :
    standard.longest = .ok 48 ∧ (∃ total, standard.width = .ok total) ∧
      lopsided.width = .ok (Count.limit / 2) ∧ lopsided.longest = .error .multiply ∧
      boundless.width = .error .add ∧ boundless.longest = .error .multiply ∧
      " ab".utf8ByteSize < Count.limit ∧
      lopsided.excerpt? (some " ab") 1 = some "a" ∧
      boundless.excerpt? (some " ab") Offset.greatest = some "a" := by
  have longest : standard.longest = .ok 48 := rfl
  have bytes : " ab".utf8ByteSize < Count.limit := by decide
  have counted : ∀ known, some " ab" = some known → known.utf8ByteSize < Count.limit := by
    rintro _ ⟨⟩
    exact bytes
  have shown : lopsided.excerpt (some " ab") 1 = "a" :=
    (Excerpt.ofSpan_eq_shown (lopsided.span 3 1) " ab").trans (by decide)
  have shown' : boundless.excerpt (some " ab") Offset.greatest = "a" :=
    (Excerpt.ofSpan_eq_shown (boundless.span 3 Offset.greatest) " ab").trans (by decide)
  obtain ⟨_, _, _, _, nested, _⟩ := standard.sizes_overflow_iff
  obtain ⟨_, width, longer, _, _, excerpts⟩ := lopsided.sizes_overflow_iff
  obtain ⟨wide, _, longer', _, _, excerpts'⟩ := boundless.sizes_overflow_iff
  refine ⟨longest, nested 48 longest, (width _).mpr (by decide), ?_, ?_, ?_, bytes, ?_, ?_⟩
  · exact (longer .multiply).mpr (Or.inl ⟨by decide, rfl⟩)
  · exact (wide .add).mpr ⟨by decide, rfl⟩
  · exact (longer' .multiply).mpr (Or.inl ⟨by decide, rfl⟩)
  · rw [excerpts (some " ab") 1 counted, shown]
  · rw [excerpts' (some " ab") Offset.greatest counted, shown']

end Window

end FaultReport
