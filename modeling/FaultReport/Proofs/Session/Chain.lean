import FaultReport.Proofs.Failure.Form
import FaultReport.Session

/-!
# Chains of causes in a session

A failure that becomes a cause is copied as it is, together with the chain of its own causes.
The chain of the new failure begins with that copy and never changes again: updates leave it
alone, and so does whatever is stored later in the slot that the cause came from.

`CauseName.links` says which chain a cause stands for, given the slots at that step. It is read
off the slots alone, one link for each plain problem and one for the failure at the bottom. The
chain of a failure is that of the cause that its form names (`chain_build`).

`Wrapped` follows a failure through a session after it became a cause: into the failures that it
caused, through updates of the outermost one, and past steps that do not touch it. What was
wrapped some number of times lies as many links deep, and below it lies its own chain
(`Wrapped.chain`). Both are as they were at the first wrap.
-/

set_option autoImplicit false

namespace FaultReport.Session

/-! ## What a cause stands for -/

namespace CauseName

/-- The chain that a cause stands for: the plain problems on top, and below them the failure in
a slot with its own chain, if there is one. -/
def links (slots : Slots) : CauseName → List Link
  | .slot name => .failure (slots.get name).report :: (slots.get name).chain
  | .plain text => [.plain text]
  | .plainOver text source => .plain text :: source.links slots

/-- The slot of the failure at the bottom, if there is one. -/
def bottom? : CauseName → Option String
  | .slot name => some name
  | .plain _ => none
  | .plainOver _ source => source.bottom?

/-- The plain problems on top of the failure at the bottom. -/
def onTop : CauseName → List Link
  | .slot _ => []
  | .plain _ => []
  | .plainOver text source => .plain text :: source.onTop

theorem chain_resolve (slots : Slots) (cause : CauseName) :
    (cause.resolve slots).chain = cause.links slots := by
  induction cause with
  | slot name => rfl
  | plain text => rfl
  | plainOver text source ih => exact congrArg (List.cons (Link.plain text)) ih

theorem links_of_bottom {cause : CauseName} {name : String} (bottom : cause.bottom? = some name)
    (slots : Slots) :
    cause.links slots =
      cause.onTop ++ .failure (slots.get name).report :: (slots.get name).chain := by
  induction cause with
  | slot other =>
      cases bottom
      rfl
  | plain text => cases bottom
  | plainOver text source ih => exact congrArg (List.cons (Link.plain text)) (ih bottom)

end CauseName

/-! ## One step -/

section Step

variable (slots : Slots) (steps : List Step)

/-- **The chain of a new failure is that of its cause**, and empty without one. -/
theorem chain_build (slot : String) (form : Failure.Form CauseName) :
    ((after slots (steps ++ [.build slot form])).get slot).chain =
      match form.cause? with
      | none => []
      | some cause => cause.links (after slots steps) := by
  have made := get_after_concat slots steps (.build slot form)
  refine (congrArg Failure.chain made).trans ?_
  rw [Step.outcome, Failure.chain, Failure.Form.cause_build, Failure.Form.cause?_map]
  cases form.cause? with
  | none => rfl
  | some cause => exact cause.chain_resolve _

theorem chain_build_of_cause {slot : String} {form : Failure.Form CauseName} {cause : CauseName}
    (named : form.cause? = some cause) :
    ((after slots (steps ++ [.build slot form])).get slot).chain =
      cause.links (after slots steps) := by
  rw [chain_build, named]

/-- **Updates leave the chain alone.** -/
theorem chain_update (source slot : String) (change : Report.Update) :
    ((after slots (steps ++ [.update source slot change])).get slot).chain =
      ((after slots steps).get source).chain := by
  have changed := congrArg Failure.chain
    (get_after_concat slots steps (.update source slot change))
  exact changed

end Step

/-! ## Wrapping a failure -/

/-- After some steps, a slot holds a failure that was caused, through a number of problems, by
the failure that was in slot `origin` before them. Only the outermost failure may be updated,
and a plain problem between two failures counts like a failure. -/
inductive Wrapped (origin : String) : List Step → String → Nat → Prop where
  /-- The failure becomes a cause. -/
  | first {slot : String} {form : Failure.Form CauseName} {cause : CauseName}
      (named : form.cause? = some cause) (bottom : cause.bottom? = some origin) :
      Wrapped origin [.build slot form] slot (cause.onTop.length + 1)
  /-- The outermost failure becomes a cause in turn. -/
  | again {steps : List Step} {holder slot : String} {count : Nat}
      {form : Failure.Form CauseName} {cause : CauseName}
      (wrapped : Wrapped origin steps holder count)
      (named : form.cause? = some cause) (bottom : cause.bottom? = some holder) :
      Wrapped origin (steps ++ [.build slot form]) slot (cause.onTop.length + 1 + count)
  /-- The outermost failure is changed. -/
  | updated {steps : List Step} {holder slot : String} {count : Nat} {change : Report.Update}
      (wrapped : Wrapped origin steps holder count) :
      Wrapped origin (steps ++ [.update holder slot change]) slot count
  /-- A step stores something elsewhere. -/
  | aside {steps : List Step} {holder : String} {count : Nat} {step : Step}
      (wrapped : Wrapped origin steps holder count) (elsewhere : holder ≠ step.slot) :
      Wrapped origin (steps ++ [step]) holder count

/-- **A failure that was wrapped some number of times lies as many links deep**, as it was when
it was first wrapped, and its own chain lies below it. -/
theorem Wrapped.chain {origin : String} {steps : List Step} {holder : String} {count : Nat}
    (wrapped : Wrapped origin steps holder count) (slots : Slots) :
    ∃ outer, outer.length + 1 = count ∧
      ((after slots steps).get holder).chain =
        outer ++ .failure (slots.get origin).report :: (slots.get origin).chain := by
  induction wrapped with
  | @first slot form cause named bottom =>
      refine ⟨cause.onTop, rfl, ?_⟩
      have made : ((after slots [.build slot form]).get slot).chain = cause.links slots :=
        chain_build_of_cause slots [] named
      rw [made, CauseName.links_of_bottom bottom]
  | @again steps holder slot count form cause _ named bottom ih =>
      obtain ⟨outer, deep, chain⟩ := ih
      -- The failure that was outermost so far becomes a link above the ones over the origin.
      refine ⟨cause.onTop ++ .failure ((after slots steps).get holder).report :: outer, ?_, ?_⟩
      · rw [List.length_append, List.length_cons]
        omega
      · rw [chain_build_of_cause slots steps named, CauseName.links_of_bottom bottom, chain,
          List.append_assoc]
        rfl
  | updated _ ih =>
      obtain ⟨outer, deep, chain⟩ := ih
      exact ⟨outer, deep, (chain_update slots _ _ _ _).trans chain⟩
  | aside _ elsewhere ih =>
      obtain ⟨outer, deep, chain⟩ := ih
      refine ⟨outer, deep, ?_⟩
      rw [get_after_concat_of_ne slots _ _ elsewhere, chain]

/-- **Causes are kept as they were.** In every session, the chain of a failure begins with its
cause as it is at that step, followed by the chain of that cause, and is empty if there is no
cause. An update leaves the chain as it is. So after any steps that wrap a failure some number
of times, update the outermost failure in between and store anything elsewhere, the failure is
found as many links deep, as it was at the first wrap, and followed by its own chain. -/
theorem chain_keeps_causes (slots : Slots) (earlier : List Step) :
    (∀ slot form, ((after slots (earlier ++ [.build slot form])).get slot).chain =
      match form.cause? with
      | none => []
      | some cause => cause.links (after slots earlier)) ∧
    (∀ source slot change,
      ((after slots (earlier ++ [.update source slot change])).get slot).chain =
        ((after slots earlier).get source).chain) ∧
    ∀ origin later holder count, Wrapped origin later holder count →
      ∃ outer, outer.length + 1 = count ∧
        ((after slots (earlier ++ later)).get holder).chain =
          outer ++ .failure ((after slots earlier).get origin).report ::
            ((after slots earlier).get origin).chain := by
  refine ⟨chain_build slots earlier, chain_update slots earlier, ?_⟩
  intro origin later holder count wrapped
  rw [after_append]
  exact wrapped.chain (after slots earlier)

/-- Steps that raise a failure over another. -/
def raising : List Step :=
  [.build "io" (.ofMessage "m"), .build "a" (.inTextOver "n" "xy" 1 (.slot "io"))]

/-- Steps that wrap the failure in slot `a`, the first time into the same slot, the second time
below a plain problem, and in the end store something else in the slots that were wrapped. -/
def wrapping : List Step :=
  [.build "a" (.ofMessageOver "outer" (.slot "a")), .update "a" "b" (.setLine 7),
    .build "c" (.drafted [.setCause (some (.plainOver "plain" (.slot "b")))]),
    .build "b" .blank, .build "a" .blank]

/-- A failure that was wrapped three times is found three links deep, with its own cause below
it, although its slot and that of the failure around it hold something else by then. -/
theorem chain_keeps_causes_wrapping :
    Wrapped "a" wrapping "c" 3 ∧
      ∃ outer, outer.length + 1 = 3 ∧
        ((after Slots.blank (raising ++ wrapping)).get "c").chain =
          outer ++ .failure ((after Slots.blank raising).get "a").report ::
            ((after Slots.blank raising).get "a").chain := by
  have itself : (CauseName.slot "a").bottom? = some "a" := rfl
  have below : (CauseName.plainOver "plain" (.slot "b")).bottom? = some "b" := rfl
  have once : Wrapped "a" (wrapping.take 1) "a" 1 := .first rfl itself
  have changed : Wrapped "a" (wrapping.take 2) "b" 1 := once.updated
  have thrice : Wrapped "a" (wrapping.take 3) "c" 3 := changed.again rfl below
  have stored : Wrapped "a" (wrapping.take 4) "c" 3 := thrice.aside (by decide)
  have wrapped : Wrapped "a" wrapping "c" 3 := stored.aside (by decide)
  obtain ⟨_, _, found⟩ := chain_keeps_causes Slots.blank raising
  exact ⟨wrapped, found "a" wrapping "c" 3 wrapped⟩

end FaultReport.Session
