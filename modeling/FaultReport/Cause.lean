import FaultReport.Report

/-!
# Causes

A failure may be caused by an earlier problem, which may have a cause of its own.
A cause is the chain of these problems, the direct one first.  Each link of the
chain is a plain problem, of which only the text is known, or the report of a
failure as it was when it became a cause.
-/

set_option autoImplicit false

namespace FaultReport

/-- One problem in a chain of causes. -/
inductive Link where
  | plain (text : String)
  | failure (report : Report)
  deriving DecidableEq, Repr

/-- The text of a problem. -/
def Link.render : Link → String
  | .plain text => text
  | .failure report => report.render

/-- A direct cause, and the chain of what caused it. -/
structure Cause where
  direct : Link
  earlier : List Link
  deriving DecidableEq, Repr

namespace Cause

/-- All problems of a cause, the direct one first. -/
def chain (cause : Cause) : List Link := cause.direct :: cause.earlier

/-- The text of the direct cause. -/
def render (cause : Cause) : String := cause.direct.render

/-- A plain problem without a cause of its own. -/
def plain (text : String) : Cause := ⟨.plain text, []⟩

/-- A plain problem that has a cause. -/
def plainOver (text : String) (source : Cause) : Cause := ⟨.plain text, source.chain⟩

/-- The chain of a cause that may be absent. -/
def chainOf : Option Cause → List Link
  | none => []
  | some cause => cause.chain

end Cause

end FaultReport
