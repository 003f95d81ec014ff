/-
# Nodes of a template

A parsed template is a flat list of nodes in source order. Nesting is expressed by
the roles and depths of blocks, not by nested lists. Each node carries the span it
came from and the modes that were in force where it stands, so later directives
cannot change it.
-/

import Stencil.Shape
import Stencil.Span

namespace Stencil

/-- A fragment of code and its place among the blocks. An opening fragment and the
fragment that closes it have the same depth. -/
structure Block where
  span : Span
  code : String
  role : Role := .statement
  depth : Int := 0
  keyword : Option String := none
  cleaning : Cleaning := .none
  deriving DecidableEq

/-- A node of a template. -/
inductive Node
  /-- Text that is written as it is. The span covers doubled delimiters too. -/
  | literal (span : Span) (text : String)
  /-- An expression whose value is written. -/
  | expression (span : Span) (code : String) (escaping : Escaping) (escaper : Option String)
  /-- A fragment of code. -/
  | block (block : Block)
  /-- A directive, whose effect is already in the nodes after it. -/
  | directive (span : Span) (name : String) (args : List String) (cleaning : Cleaning)
  /-- A place in the source without content. Parsing makes none. -/
  | placeholder (span : Span)
  deriving DecidableEq

namespace Node

/-- The span of a node. -/
def span : Node → Span
  | .literal span _ => span
  | .expression span _ _ _ => span
  | .block placed => placed.span
  | .directive span _ _ _ => span
  | .placeholder span => span

/-- Whether a node is an expression. -/
def isExpression : Node → Bool
  | .expression .. => true
  | _ => false

/-- Whether white space next to a node is removed: blocks and directives have it
removed where the cleaning mode says so. -/
def cleansBeside : Node → Bool
  | .block placed => placed.cleaning = .block
  | .directive _ _ _ cleaning => cleaning = .block
  | _ => false

end Node

end Stencil
