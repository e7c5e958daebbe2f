import FaultReport.Failure.Form

/-!
# Failures around failures

A failure that repeats the text of its cause can be the cause of another failure like it, and so
on. Its message is the whole text of the failure inside, and its own text puts one more pair of
brackets around that message. It names neither a text nor a cursor, so the excerpt in it is
always the one for an unknown text.

`Cause.wrapped` wraps a cause some number of times, and `Failure.around` is the failure that
wraps it once more. Message, text and chain of that failure depend on those of the failure
inside. What becomes of them after any number of wraps is said by induction on that number: the
text is that of the cause between as many opening and as many closing parts as there are
failures around it (`render_wrapped`), and the chain lists these failures from the outside
inwards before it goes on with the cause and its chain (`getElem?_chain_around`,
`drop_chain_around`). The main statement puts these together (`around_repeats`).
-/

set_option autoImplicit false

namespace FaultReport

/-! ## Wrapping a cause -/

/-- A cause wrapped some number of times, each time by a failure that repeats the text of what
it wraps. -/
def Cause.wrapped (cause : Cause) : Nat → Cause
  | 0 => cause
  | count + 1 => (Failure.ofCause (cause.wrapped count)).value.asCause

/-- The failure that repeats the text of a cause wrapped `inner` times, which makes one wrap
more. -/
def Failure.around (cause : Cause) (inner : Nat) : Failure :=
  (Failure.ofCause (cause.wrapped inner)).value

/-- A text between as many opening and closing parts as there are failures around it. -/
def Report.wrappedText (text : String) (count : Nat) : String :=
  String.join (List.replicate count "[Error: ") ++ text ++
    String.join (List.replicate count "]\n[Near : \x7b... Unknown ....\x7d]")

theorem Report.wrappedText_succ (text : String) (count : Nat) :
    wrappedText text (count + 1) =
      "[Error: " ++ wrappedText text count ++ "]\n[Near : \x7b... Unknown ....\x7d]" := by
  have opening : String.join (List.replicate (count + 1) "[Error: ") =
      "[Error: " ++ String.join (List.replicate count "[Error: ") := by
    rw [List.replicate_succ, String.join_cons]
  have closing (part : String) : String.join (List.replicate (count + 1) part) =
      String.join (List.replicate count part) ++ part := by
    rw [List.replicate_succ', String.join_append, String.join_cons, String.join_nil,
      String.append_empty]
  simp only [wrappedText, opening, closing, String.append_assoc]

/-! ## One wrap -/

section One

variable (cause : Cause)

/-- A failure that repeats the text of its cause has nothing but that text. -/
theorem Failure.report_ofCause :
    (Failure.ofCause cause).value.report = { Report.blank with message := cause.render } :=
  rfl

theorem Failure.chain_ofCause : (Failure.ofCause cause).value.chain = cause.chain :=
  rfl

theorem Failure.render_ofCause :
    (Failure.ofCause cause).value.report.render =
      "[Error: " ++ cause.render ++ "]\n[Near : \x7b... Unknown ....\x7d]" := by
  have near : "]\n[Near : \x7b... " ++ (Excerpt.unknown ++ " ....\x7d]") =
      "]\n[Near : \x7b... Unknown ....\x7d]" := by
    decide
  have unlocated : (Failure.ofCause cause).value.report.positionText = "" := rfl
  have hidden : (Failure.ofCause cause).value.report.excerpt = Excerpt.unknown := rfl
  rw [Report.render, unlocated, hidden, String.append_empty, String.append_assoc,
    String.append_assoc, near]
  rfl

end One

/-! ## Any number of wraps -/

section Any

variable (cause : Cause)

/-- **Each wrap puts one more pair of brackets around the text of the cause.** -/
theorem Cause.render_wrapped (count : Nat) :
    (cause.wrapped count).render = Report.wrappedText cause.render count := by
  induction count with
  | zero =>
      rw [wrapped, Report.wrappedText, List.replicate_zero, List.replicate_zero, String.join_nil,
        String.empty_append, String.append_empty]
  | succ count ih =>
      have outermost : (cause.wrapped (count + 1)).render =
          (Failure.ofCause (cause.wrapped count)).value.report.render := rfl
      rw [outermost, Failure.render_ofCause, ih, Report.wrappedText_succ]

/-- One more wrap puts the failure inside at the front of the chain. -/
theorem Failure.chain_around_succ (inner : Nat) :
    (around cause (inner + 1)).chain =
      .failure (around cause inner).report :: (around cause inner).chain := by
  have wrapped : cause.wrapped (inner + 1) = (around cause inner).asCause := rfl
  rw [around, chain_ofCause, wrapped, chain_asCause]

/-- **The chain lists the failures inside**, the outermost of them first. -/
theorem Failure.getElem?_chain_around {outer inner count : Nat}
    (total : outer + 1 + inner = count) :
    (around cause count).chain[outer]? = some (.failure (around cause inner).report) := by
  induction outer generalizing count with
  | zero =>
      have one : count = inner + 1 := by omega
      rw [one, chain_around_succ, List.getElem?_cons_zero]
  | succ outer ih =>
      obtain ⟨below, rfl⟩ : ∃ below, count = below + 1 := ⟨outer + 1 + inner, by omega⟩
      rw [chain_around_succ, List.getElem?_cons_succ]
      exact ih (by omega)

/-- **Below the failures inside lie the cause and its own chain.** -/
theorem Failure.drop_chain_around (count : Nat) :
    (around cause count).chain.drop count = cause.chain := by
  induction count with
  | zero => exact chain_ofCause cause
  | succ count ih => rw [chain_around_succ, List.drop_succ_cons, ih]

/-- **A cause that is wrapped over and over is repeated at every depth.** Whatever the cause is,
the failure around it after some wraps has neither a text nor a cursor, and its message is the
text of what it wraps. Its own text is that of the cause between one opening and one closing part
for every wrap. Its chain begins with the failures inside, each with the text that it has by
itself, and goes on with the cause and the chain of that. -/
theorem Failure.around_repeats (count : Nat) :
    (around cause count).report =
      { Report.blank with message := (cause.wrapped count).render } ∧
    (around cause 0).report.message = cause.render ∧
    (around cause (count + 1)).report.message = (around cause count).report.render ∧
    (around cause count).report.render =
      String.join (List.replicate (count + 1) "[Error: ") ++ cause.render ++
        String.join (List.replicate (count + 1) "]\n[Near : \x7b... Unknown ....\x7d]") ∧
    (∀ outer inner, outer + 1 + inner = count →
      (around cause count).chain[outer]? = some (.failure (around cause inner).report) ∧
      Link.render (.failure (around cause inner).report) =
        Report.wrappedText cause.render (inner + 1)) ∧
    (around cause count).chain.drop count = cause.direct :: cause.earlier := by
  refine ⟨Failure.report_ofCause _, rfl, rfl, cause.render_wrapped (count + 1), ?_,
    Failure.drop_chain_around cause count⟩
  intro outer inner total
  exact ⟨Failure.getElem?_chain_around cause total, cause.render_wrapped (inner + 1)⟩

end Any

/-- A plain problem over another one, wrapped three times: the middle one of the three failures
is the first link, and the two problems come after the inner one. -/
theorem Failure.around_repeats_plain :
    0 + 1 + 1 = 2 ∧
      (around (.plainOver "p" (.plain "q")) 2).report.render =
        "[Error: [Error: [Error: p]\n[Near : \x7b... Unknown ....\x7d]]\n" ++
          "[Near : \x7b... Unknown ....\x7d]]\n[Near : \x7b... Unknown ....\x7d]" ∧
      (around (.plainOver "p" (.plain "q")) 2).chain[0]? =
        some (.failure (around (.plainOver "p" (.plain "q")) 1).report) ∧
      (around (.plainOver "p" (.plain "q")) 2).chain.drop 2 = [.plain "p", .plain "q"] := by
  obtain ⟨_, _, _, text, inside, below⟩ := around_repeats (.plainOver "p" (.plain "q")) 2
  exact ⟨rfl, text.trans (by decide), (inside 0 1 rfl).1, below⟩

end FaultReport
