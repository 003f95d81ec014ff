/-
# Compiling a template

Compiling parses a source, cleans the white space and turns the nodes into
instructions. The result keeps the name of the template, the sink and the debug
flag. A failure of any step is a failure of the whole.
-/

import Stencil.Instruction
import Stencil.Node.Clean
import Stencil.Parse

namespace Stencil

/-- A compiled template. -/
structure Program where
  name : String
  instructions : List Instruction
  sink : String := "_out"
  debug : Bool := false
  deriving DecidableEq

/-- Why a source has no program. -/
inductive CompileFailure
  | parse (failure : ParseFailure)
  | place (fault : PlaceFault)
  | generate (fault : GenerateFault)
  deriving DecidableEq

/-- The nodes of a source after cleaning. -/
def cleanNodes (options : Options) (source : String) : Except CompileFailure (List Node) := do
  let nodes ← (Parse.ofText options source).result.mapError .parse
  (Node.clean nodes).mapError .place

/-- The name of a template that was given none. -/
def defaultName : String := "<template>"

/-- Compile a source. -/
def compile (options : Options) (source : String) (name : String := defaultName) :
    Except CompileFailure Program := do
  let nodes ← cleanNodes options source
  let instructions ← (Instruction.ofNodes nodes).mapError .generate
  return ⟨name, instructions, options.sink, options.debug⟩

end Stencil
