/-
# Diagnostics

A diagnostic names the template, the location and the error, and shows the source
line with the wrong part underlined. The underlining ends with the line, and has
at least one mark. A blank line is not shown.
-/

import Stencil.LineTable
import Stencil.TemplateError
import Stencil.Text.Blank
import Stencil.Text.Pieces

namespace Stencil.Diagnostic

/-- How far the excerpt is indented. -/
def indent : String := "    "

/-- A character some number of times. -/
def repeated (count : Nat) (c : Char) : String :=
  String.ofList (List.replicate count c)

/-- The diagnostic of a message about a span. -/
def render (message : String) (span : Span) (source name : String) :
    Except PlaceFault String := do
  let table := LineTable.ofText source
  let location ← table.locate span.start
  let header := s!"{name}:{location.describe}: error: {message}"
  let line ← table.lineText location.line
  if (Text.trim line.toList).isEmpty then return header
  let width ← span.width
  let before := (location.column - 1).toNat
  let marks := max 1 (min width (line.toList.length - before))
  let marker := repeated before ' ' ++ repeated marks '^'
  return Text.joinLines [header, indent ++ line, indent ++ marker]

/-- The diagnostic of an error of a template. -/
def ofError (error : TemplateError) (source name : String) : Except PlaceFault String :=
  render error.message error.span source name

end Stencil.Diagnostic
