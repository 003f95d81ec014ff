/-
# Listings of compiled templates

A listing shows the instructions as statements, one below the other. With the
source at hand, each statement is followed by a comment that names the template
and the location.
-/

import Stencil.LineTable
import Stencil.Program
import Stencil.Text.Pieces

namespace Stencil.View

/-- An instruction with the comment that locates it. -/
def locatedStatement (program : Program) (table : LineTable) (instruction : Instruction) :
    Except PlaceFault String := do
  let location ← table.locate instruction.span.start
  return s!"{instruction.statement program.sink}  # {program.name}:{location.describe}"

/-- The listing with locations. -/
def locatedListing (program : Program) (source : String) : Except PlaceFault String :=
  (program.instructions.mapM (locatedStatement program (LineTable.ofText source))).map
    Text.joinLines

/-- The listing without locations. -/
def listing (program : Program) : String :=
  Text.joinLines (program.instructions.map (·.statement program.sink))

end Stencil.View
