import FaultReport.Excerpt

/-!
# Excerpts with every operation checked

Excerpts are made of saturating offsets, which cannot fail, and of a few operations that can. The
place of the last character is one less than the length, and it is where a window that is pulled
left ends. The size of a span is the difference of its ends. A character ends as many bytes after
its beginning as its encoding has, and a part of a text is cut out of it.

`Window.excerpt?` goes through the steps of `Window.excerpt` and looks at what they compute. If one
of these results is out of range, or the cut is refused, then there is no excerpt.
-/

set_option autoImplicit false

namespace FaultReport

namespace Window

/-- The excerpt of a text around a cursor, if every operation that makes it succeeds. -/
def excerptOf? (window : Window) (text : String) (cursor : Int) : Option String :=
  let stop := (window.edges (Offset.ofCount text.length) cursor).2
  let span := window.span text.length cursor
  let characters := Excerpt.visible span text
  if (Offset.least ≤ stop ∧ stop ≤ Offset.greatest) ∧ span.start ≤ span.stop ∧
      characters.all fun placed => placed.stop < Count.limit then
    Excerpt.cutOut? text characters
  else
    none

/-- The excerpt around a cursor of a text that may be unknown, if every operation that makes it
succeeds. -/
def excerpt? (window : Window) (text : Option String) (cursor : Int) : Option String :=
  match text with
  | none => some Excerpt.unknown
  | some text => window.excerptOf? text cursor

end Window

end FaultReport
