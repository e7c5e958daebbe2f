import FaultReport.Failure.Form
import FaultReport.Proofs.Report.ReadBack

/-!
# Messages that are formatted at once

A failure at a cursor of a text can be raised with its message as it is, or with the excerpt and
the cursor worked into the message. Both ways go through a draft, and they differ in nothing but
that message and in what the event says about it. The excerpt in the message is the one that the
failure shows by itself as long as it is not changed, and the cursor is its offset.

The message may hold anything, and so may the excerpt, so neither can be read back. Two failures
can agree in the stored message and in neither of the two. The offset of the cursor is another
matter: it stands alone on the last line, since decimal digits and a sign hold no line break
(`lastLine_eagerText`), and from its digits and its sign it is read back (`read?_repr`).

The main statement says both, how the two ways agree and that equal messages tell equal offsets
(`inTextFormatted_agrees`).
-/

set_option autoImplicit false

namespace FaultReport

/-! ## The last line of a formatted message -/

namespace Offset

/-- The integer that decimal digits write, with a sign in front of them if it is negative. -/
def read? (characters : List Char) : Option Int :=
  if characters.head? = some '-' then
    (Ordinal.readNumber? characters.tail).map fun number : Nat => -(number : Int)
  else
    (Ordinal.readNumber? characters).map fun number : Nat => (number : Int)

/-- **A shown integer is read back.** -/
theorem read?_repr (offset : Int) : read? (Int.repr offset).toList = some offset := by
  rw [Int.repr_eq_if]
  by_cases nonneg : 0 ≤ offset
  · have signless : (Nat.repr offset.toNat).toList.head? ≠ some '-' := by
      intro sign
      exact absurd (Ordinal.isDigit_of_mem_repr (List.mem_of_head? sign)) (by decide)
    rw [if_pos nonneg, read?, if_neg signless, Ordinal.readNumber?_repr, Option.map_some,
      Int.toNat_of_nonneg nonneg]
  · have positive : 0 ≤ -offset := by omega
    have sign : ("-" ++ Nat.repr (-offset).toNat).toList =
        '-' :: (Nat.repr (-offset).toNat).toList := String.toList_append
    rw [if_neg nonneg, sign, read?, if_pos List.head?_cons, List.tail_cons,
      Ordinal.readNumber?_repr, Option.map_some, Int.toNat_of_nonneg positive, Int.neg_neg]

theorem unbroken_repr (offset : Int) : '\n' ∉ (Int.repr offset).toList := by
  rw [Int.repr_eq_if]
  by_cases nonneg : 0 ≤ offset
  · rw [if_pos nonneg]
    exact Ordinal.unbroken_render (some offset.toNat)
  · have digits := Ordinal.unbroken_render (some (-offset).toNat)
    rw [if_neg nonneg, String.toList_append, List.mem_append, not_or]
    exact ⟨by decide, digits⟩

end Offset

namespace Draft

/-- The line of a formatted message that shows the offset of the cursor. -/
def cursorLine (offset : Int) : String := "[Position: " ++ Int.repr offset ++ "]"

theorem unbroken_cursorLine (offset : Int) : '\n' ∉ (cursorLine offset).toList := by
  rw [cursorLine, String.toList_append, String.toList_append, List.mem_append, List.mem_append,
    not_or, not_or]
  exact ⟨⟨by decide, Offset.unbroken_repr offset⟩, by decide⟩

theorem cursorLine_inj {first second : Int} (same : cursorLine first = cursorLine second) :
    first = second := by
  rw [cursorLine, cursorLine, String.append_left_inj, String.append_right_inj] at same
  have reads := Offset.read?_repr first
  rw [same, Offset.read?_repr] at reads
  exact (Option.some.inj reads).symm

/-- What a formatted message holds before its last line. -/
def eagerFront (statement excerpt : String) : String :=
  "Failed to compile:\n[Error: " ++ statement ++ "]\n[Near: \x7b ... " ++ excerpt ++ " ... \x7d ]"

theorem eagerText_eq_front_append (statement excerpt : String) (offset : Int) :
    eagerText statement excerpt offset =
      eagerFront statement excerpt ++ ("\n" ++ cursorLine offset) := by
  have seam : " ... \x7d ]\n[Position: " = " ... \x7d ]" ++ ("\n" ++ "[Position: ") := by decide
  unfold eagerText eagerFront cursorLine
  rw [seam]
  simp only [String.append_assoc]

/-- **The last line of a formatted message shows the cursor**, whatever is worked into the
message before it. -/
theorem lastLine_eagerText (statement excerpt : String) (offset : Int) :
    Text.lastLine (eagerText statement excerpt offset).toList = (cursorLine offset).toList := by
  rw [eagerText_eq_front_append, String.toList_append, String.toList_append]
  exact Text.lastLine_concat_break _ (unbroken_cursorLine offset)

theorem eq_of_eagerText_eq {statement statement' excerpt excerpt' : String} {offset offset' : Int}
    (same : eagerText statement excerpt offset = eagerText statement' excerpt' offset') :
    offset = offset' := by
  have line := lastLine_eagerText statement excerpt offset
  rw [same, lastLine_eagerText, String.toList_inj] at line
  exact (cursorLine_inj line).symm

/-- **The message that a draft formats tells the offset of the failure raised.** Where its
message, its text and its cause come from does not matter. -/
theorem cursorOffset_eq_of_message_eq {draft other : Draft} (eager : draft.eager = true)
    (eager' : other.eager = true)
    (same : draft.raise.value.report.message = other.raise.value.report.message) :
    draft.raise.value.report.cursorOffset = other.raise.value.report.cursorOffset := by
  rw [message_raise_of_eager eager, message_raise_of_eager eager'] at same
  exact eq_of_eagerText_eq same

end Draft

/-! ## Two ways to raise a failure at a cursor -/

namespace Failure

/-- A failure at a cursor of a text, perhaps with a cause, that keeps its message as it is. -/
def inTextPlain (message text : String) (cursor : Nat) : Option Cause → Traced Failure
  | none => inText message text cursor
  | some cause => inTextOver message text cursor cause

section Ways

variable (message text : String) (cursor : Nat) (cause : Option Cause)

theorem inTextFormatted_false :
    inTextFormatted message text cursor false cause = inTextPlain message text cursor cause := by
  cases cause <;> rfl

/-- The message of a failure that was formatted at once holds what the failure shows. -/
theorem message_inTextFormatted_true :
    (inTextFormatted message text cursor true cause).value.report.message =
      Draft.eagerText message
        (inTextFormatted message text cursor true cause).value.report.excerpt
        (inTextFormatted message text cursor true cause).value.report.cursorOffset :=
  rfl

/-- Formatting changes the message and nothing else of the failure. -/
theorem value_inTextFormatted_true :
    (inTextFormatted message text cursor true cause).value =
      { (inTextPlain message text cursor cause).value with
        report :=
          { (inTextPlain message text cursor cause).value.report with
            message :=
              (inTextFormatted message text cursor true cause).value.report.message } } := by
  cases cause <;> rfl

/-- **Formatting a message changes the message alone.** A failure whose message is not formatted
is the one raised with the same cause or without one, and so is its event. If the message is
formatted, only the message differs, and in the event only the mark that says so. The formatted
message holds the message given, the excerpt that the new failure shows and the offset of its
cursor. Formatted messages that are equal have equal offsets in them, whatever else they hold, and
so have those of any two drafts that format their messages. -/
theorem inTextFormatted_agrees :
    inTextFormatted message text cursor false cause = inTextPlain message text cursor cause ∧
    (inTextFormatted message text cursor true cause).value =
      { (inTextPlain message text cursor cause).value with
        report :=
          { (inTextPlain message text cursor cause).value.report with
            message := "Failed to compile:\n[Error: " ++ message ++ "]\n[Near: \x7b ... " ++
              (inTextFormatted message text cursor true cause).value.report.excerpt ++
              " ... \x7d ]\n[Position: " ++
              Int.repr (inTextFormatted message text cursor true cause).value.report.cursorOffset ++
              "]" } } ∧
    (∀ eager, (inTextFormatted message text cursor eager cause).events =
      [.raised (inTextFormatted message text cursor eager cause).value.report.cursorOffset true
        cause.isSome eager]) ∧
    (∀ message' text' cursor' cause',
      (inTextFormatted message text cursor true cause).value.report.message =
        (inTextFormatted message' text' cursor' true cause').value.report.message →
      (inTextFormatted message text cursor true cause).value.report.cursorOffset =
        (inTextFormatted message' text' cursor' true cause').value.report.cursorOffset) ∧
    ∀ draft other : Draft, draft.eager = true → other.eager = true →
      draft.raise.value.report.message = other.raise.value.report.message →
      draft.raise.value.report.cursorOffset = other.raise.value.report.cursorOffset := by
  refine ⟨inTextFormatted_false message text cursor cause,
    value_inTextFormatted_true message text cursor cause, fun _ => rfl, ?_, ?_⟩
  · intro message' text' cursor' cause' same
    exact Draft.cursorOffset_eq_of_message_eq rfl rfl same
  · intro draft other eager eager' same
    exact Draft.cursorOffset_eq_of_message_eq eager eager' same

end Ways

/-- A draft that is formatted and has a message of its own. -/
def ownWords : Draft :=
  { Draft.blank with message := some "p", cursor := some 3, eager := true }

/-- A draft that is formatted and has only the text of its cause. -/
def causeWords : Draft :=
  { Draft.blank with cause := some (.plain "p"), cursor := some 3, eager := true }

/-- Two formatted messages that are equal, although neither the messages given nor the excerpts
are: the line of the excerpt is imitated once in the text and once in the message. Both cursors
stand at the beginning. Two drafts without a text that say the same, one of them through its
cause, agree as well. -/
theorem inTextFormatted_agrees_imitated :
    (inTextFormatted "x" "q]\n[Near: \x7b ... yz" 0 true none).value.report.excerpt =
        "q]\n[Near: \x7b ... y" ∧
      (inTextFormatted "x]\n[Near: \x7b ... q" "yz" 0 true
        (some (.plain "p"))).value.report.excerpt = "y" ∧
      (inTextFormatted "x" "q]\n[Near: \x7b ... yz" 0 true none).value.report.message =
        (inTextFormatted "x]\n[Near: \x7b ... q" "yz" 0 true
          (some (.plain "p"))).value.report.message ∧
      (inTextFormatted "x" "q]\n[Near: \x7b ... yz" 0 true none).value.report.cursorOffset =
        (inTextFormatted "x]\n[Near: \x7b ... q" "yz" 0 true
          (some (.plain "p"))).value.report.cursorOffset ∧
      ownWords.eager = true ∧ causeWords.eager = true ∧
      ownWords.raise.value.report.message = causeWords.raise.value.report.message ∧
      ownWords.raise.value.report.cursorOffset = causeWords.raise.value.report.cursorOffset := by
  have inText : (inTextFormatted "x" "q]\n[Near: \x7b ... yz" 0 true none).value.report.excerpt =
      "q]\n[Near: \x7b ... y" :=
    (Excerpt.ofSpan_eq_shown (Window.standard.span 18 0) "q]\n[Near: \x7b ... yz").trans (by decide)
  have inMessage : (inTextFormatted "x]\n[Near: \x7b ... q" "yz" 0 true
      (some (.plain "p"))).value.report.excerpt = "y" :=
    (Excerpt.ofSpan_eq_shown (Window.standard.span 2 0) "yz").trans (by decide)
  have same : (inTextFormatted "x" "q]\n[Near: \x7b ... yz" 0 true none).value.report.message =
      (inTextFormatted "x]\n[Near: \x7b ... q" "yz" 0 true
        (some (.plain "p"))).value.report.message := by
    rw [message_inTextFormatted_true, message_inTextFormatted_true, inText, inMessage]
    decide
  have said : ownWords.raise.value.report.message = causeWords.raise.value.report.message := rfl
  obtain ⟨_, _, _, offsets, drafts⟩ := inTextFormatted_agrees "x" "q]\n[Near: \x7b ... yz" 0 none
  exact ⟨inText, inMessage, same, offsets _ _ _ _ same, rfl, rfl, said, drafts _ _ rfl rfl said⟩

end Failure

end FaultReport
