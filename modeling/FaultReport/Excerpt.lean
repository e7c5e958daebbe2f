import FaultReport.Text.Placed
import FaultReport.Window

/-!
# Excerpts

An excerpt shows the characters that a window covers, less the blanks that lead
them.  Blanks inside and at the end are kept, and line breaks are blanks like any
other, so an excerpt may run over several lines.

The characters are found by counting and cut out as bytes: `byteRange?` gives the
bytes that a run of placed characters spans, and `cutOut?` takes the part of the text
between them.  A failure that names no text has a fixed excerpt instead.
-/

set_option autoImplicit false

namespace FaultReport

namespace Excerpt

/-- What is shown in place of a text that is not known. -/
def unknown : String := "Unknown"

/-- The characters of a text in a span, in their places, from the first that is
not blank. -/
def visible (span : Span) (text : String) : List Text.Placed :=
  (((Text.placed text).drop span.start).take (span.stop - span.start)).dropWhile
    fun placed => Text.isBlank placed.character

/-- The bytes that placed characters span, or nothing if there are none. -/
def byteRange? : List Text.Placed → Option (Nat × Nat)
  | [] => none
  | first :: rest => some (first.byte, (rest.getLast?.getD first).stop)

/-- The part of a text that some of its placed characters span, unless the cut is
refused. -/
def cutOut? (text : String) (characters : List Text.Placed) : Option String :=
  match byteRange? characters with
  | none => some ""
  | some (first, stop) => Text.cut? text first stop

/-- The excerpt of a text in a span. -/
def ofSpan (span : Span) (text : String) : String :=
  (cutOut? text (visible span text)).getD ""

end Excerpt

/-- The excerpt of a text around a cursor. -/
def Window.excerptOf (window : Window) (text : String) (cursor : Int) : String :=
  Excerpt.ofSpan (window.span text.length cursor) text

/-- The excerpt around a cursor of a text that may be unknown. -/
def Window.excerpt (window : Window) (text : Option String) (cursor : Int) : String :=
  match text with
  | none => Excerpt.unknown
  | some text => window.excerptOf text cursor

/-- The excerpt that the standard window shows. -/
def excerpt (text : Option String) (cursor : Int) : String :=
  Window.standard.excerpt text cursor

end FaultReport
