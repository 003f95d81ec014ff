/-
# Lines and columns

A line table knows at which offsets the lines of a source start. Lines end at
line feeds only, and lines and columns are counted from one. The table turns
offsets into locations and gives back the text of a line.
-/

import Stencil.Span

namespace Stencil

/-- A line and a column, both counted from one where they come from a source. -/
structure Location where
  line : Int
  column : Int
  deriving DecidableEq

/-- The location as it is shown in messages. -/
def Location.describe (location : Location) : String :=
  s!"{location.line}:{location.column}"

/-- A source together with the offsets at which its lines start. -/
structure LineTable where
  source : List Char
  starts : List Nat

namespace LineTable

/-- The offsets right after the line feeds of a text that stands at `offset`. -/
def startsAfter (offset : Nat) : List Char → List Nat
  | [] => []
  | c :: cs =>
    if c = '\n' then (offset + 1) :: startsAfter (offset + 1) cs
    else startsAfter (offset + 1) cs

/-- The line table of a source. The first line starts at zero, also in an empty source. -/
def ofText (source : String) : LineTable :=
  ⟨source.toList, 0 :: startsAfter 0 source.toList⟩

/-- The number of lines; a source that ends in a line feed has an empty last line. -/
def lineCount (table : LineTable) : Nat :=
  table.starts.length

/-- The location of an offset. The end of the source has a location too. -/
def locate (table : LineTable) (offset : Int) : Except PlaceFault Location :=
  if 0 ≤ offset ∧ offset ≤ table.source.length then
    let reached := table.starts.takeWhile fun start => start ≤ offset.toNat
    .ok ⟨reached.length, offset - reached.getLastD 0 + 1⟩
  else .error (.outside offset table.source.length)

/-- The start at an index; a negative index counts back from the end of the table. -/
def startAt (table : LineTable) (index : Int) : Except PlaceFault Nat :=
  let position := if index < 0 then index + table.starts.length else index
  if position < 0 then .error .noSuchLine
  else
    match table.starts[position.toNat]? with
    | some start => .ok start
    | none => .error .noSuchLine

/-- Drop the line end, and any carriage returns before it. -/
def dropLineEnd (cs : List Char) : List Char :=
  (cs.reverse.dropWhile fun c => c == '\r' || c == '\n').reverse

/-- The text of a line without its line end. Line numbers below one count back
from the last line, as indices of the table do. -/
def lineText (table : LineTable) (line : Int) : Except PlaceFault String := do
  let start ← table.startAt (line - 1)
  let stop ← if line < table.starts.length then table.startAt line
    else pure table.source.length
  return String.ofList (dropLineEnd ((table.source.take stop).drop start))

end LineTable

end Stencil
