/-
# The context of a node

Segments become nodes one by one. The context of a node are the modes in force
and the blocks that are open. A directive changes the modes for what follows, and
a code fragment opens, continues or closes a block. A segment that does not fit
its context leaves it as it is.
-/

import Stencil.Modes
import Stencil.Node
import Stencil.Segment

namespace Stencil

/-- The modes in force and the open blocks, the innermost first. -/
structure Context where
  modes : Modes
  openBlocks : List Block := []
  deriving DecidableEq

namespace Context

/-- The context at the start of a template. -/
def initial (options : Options) : Context :=
  ⟨Modes.initial options, []⟩

/-- The context with another depth and other open blocks. -/
def nest (context : Context) (depth : Int) (openBlocks : List Block) : Context :=
  ⟨{ context.modes with depth }, openBlocks⟩

/-- Whether a closing keyword suits the keyword of a block; where one is absent it
does. -/
def suits : Option String → Option String → Bool
  | some closing, some opening => closing == opening
  | _, _ => true

/-- Place a fragment of code of the given shape. -/
def placeShape (context : Context) (span : Span) (code : String) (shape : Shape) :
    Except TemplateError (Block × Context) :=
  let depth := context.modes.depth
  let block (depth : Int) (keyword : Option String) : Block :=
    ⟨span, code, shape.role, depth, keyword, context.modes.cleaning⟩
  match shape.role, context.openBlocks with
  | .opens, openBlocks =>
    let opened := block depth shape.keyword
    .ok (opened, context.nest (depth + 1) (opened :: openBlocks))
  | .continues, [] => .error (.unbalanced span (.strayContinuation code))
  | .continues, _ :: _ => .ok (block (depth - 1) shape.keyword, context)
  | .closes, [] => .error (.unbalanced span (.strayClose code))
  | .closes, innermost :: outer =>
    if suits shape.keyword innermost.keyword then
      .ok (block (depth - 1) innermost.keyword, context.nest (depth - 1) outer)
    else .error (.unbalanced innermost.span (.mismatch innermost.code code))
  | .statement, _ => .ok (block depth none, context)

/-- The node of a segment, and the context after it. -/
def place (style : BlockStyle) (context : Context) :
    Segment → Except TemplateError (Node × Context)
  | .text span value => .ok (.literal span value, context)
  | .expression span code =>
    .ok (.expression span (Text.trimmed code) context.modes.escaping
      context.modes.activeEscaper, context)
  | .block span code =>
    let code := Text.trimmed code
    (context.placeShape span code (Shape.classify style code)).map fun (block, next) =>
      (.block block, next)
  | .directive span name args =>
    match context.modes.direct name args with
    | (.error fault, _) => .error (.ofDirectiveFault name args span fault)
    | (.ok _, modes) => .ok (.directive span name args modes.cleaning, { context with modes })

end Context

end Stencil
