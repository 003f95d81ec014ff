/-
# Reports

A report says how the compilation of a template went: the instructions, each with
its span and location, or the error. It is a document with a fixed order of
fields, and fields that do not apply are there with nothing in them.
-/

import Stencil.Document
import Stencil.LineTable
import Stencil.Program

namespace Stencil.Report

/-- The version of the form of reports. -/
def formatVersion : Int := 1

/-- The version of the tool. -/
def toolVersion : String := "0.1.0"

/-- A mapping with text keys. -/
def fields (entries : List (String × Document)) : Document :=
  .map (entries.map fun (name, value) => (.text name, value))

/-- A text, or nothing. -/
def optionalText : Option String → Document
  | some text => .text text
  | none => .null

/-- A span with the location of its start. -/
def ofSpan (table : LineTable) (span : Span) : Except PlaceFault Document := do
  let location ← table.locate span.start
  return fields
    [("start", .int span.start), ("end", .int span.stop), ("line", .int location.line),
      ("column", .int location.column)]

/-- An instruction; the fields of other kinds of instruction are empty. -/
def ofInstruction (table : LineTable) (instruction : Instruction) :
    Except PlaceFault Document := do
  let span ← ofSpan table instruction.span
  let entry (op : String) (text code escape escaper : Option String) : Document :=
    fields
      [("op", .text op), ("span", span), ("text", optionalText text),
        ("code", optionalText code), ("escape", optionalText escape),
        ("escaper", optionalText escaper)]
  match instruction with
  | .literal text _ => return entry "literal" (some text) none none none
  | .expression code escaping _ escaper =>
    return entry "expression" none (some code) (some escaping.word) escaper
  | .raw code _ => return entry "raw" none (some code) none none

/-- A report with the fields in their order. -/
def assemble (version template : String) (ok : Bool) (sink : String) (debug : Bool)
    (instructions : List Document) (error : Document) : Document :=
  fields
    [("formatVersion", .int formatVersion), ("toolVersion", .text version),
      ("template", .text template), ("ok", .bool ok), ("sink", .text sink),
      ("debug", .bool debug), ("instructions", .list instructions), ("error", error)]

/-- The report of a compiled template. -/
def ofProgram (program : Program) (source : String) (version : String := toolVersion) :
    Except PlaceFault Document := do
  let instructions ← program.instructions.mapM (ofInstruction (LineTable.ofText source))
  return assemble version program.name true program.sink program.debug instructions .null

/-- The report of an error of a template. It says nothing of the sink and the
debug flag that were chosen. -/
def ofError (name : String) (error : TemplateError) (source : String)
    (version : String := toolVersion) : Except PlaceFault Document := do
  let span ← ofSpan (LineTable.ofText source) error.span
  let entry := fields
    [("kind", .text error.kind), ("message", .text error.message), ("span", span)]
  return assemble version name false "_out" false [] entry

end Stencil.Report
