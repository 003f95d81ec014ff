/-
# Views of nodes

Three views of a list of nodes, one line per node where the node has a line. The
tree view indents by block depth, the parts view gives the location of each node,
and the content view strings together texts and expressions.
-/

import Stencil.LineTable
import Stencil.Node
import Stencil.Text.Pieces
import Stencil.Text.Quoted

namespace Stencil.View

/-- A directive as it is written: name and arguments, separated by spaces. -/
def directiveText (name : String) (args : List String) : String :=
  String.intercalate " " (name :: args)

/-- The texts and expressions of the nodes, strung together. -/
def content (nodes : List Node) : String :=
  String.join (nodes.map fun
    | .literal _ text => text
    | .expression _ code _ _ => code
    | _ => "")

/-- The most characters of a text that the tree view shows. -/
def previewLength : Nat := 50

/-- The start of a text, marked where it is cut. -/
def preview (text : String) : String :=
  let cs := text.toList
  if cs.length > previewLength then String.ofList (cs.take previewLength) ++ "..." else text

/-- Two spaces per unit of depth; none for a depth below zero. -/
def indentation (depth : Int) : String :=
  String.ofList (List.replicate (2 * depth.toNat) ' ')

/-- A node without its indentation. -/
def treeLabel : Node → String
  | .literal _ text => s!"Literal({Text.quoted (preview text)})"
  | .expression _ code escaping _ => s!"Expression({Text.quoted code}, {escaping.word})"
  | .block block => s!"Block[{block.role.word}]({Text.quoted block.code})"
  | .directive _ name args _ => s!"Directive({directiveText name args})"
  | .placeholder _ => "TemplateNode"

/-- The depth at which a node is shown, given the depth after the node before. -/
def shownDepth (depth : Int) : Node → Int
  | .block block => if block.role = .closes ∨ block.role = .continues then block.depth else depth
  | _ => depth

/-- The depth after a node. -/
def depthAfter (depth : Int) (node : Node) : Int :=
  match node with
  | .block block =>
    if block.role = .opens ∨ block.role = .continues then block.depth + 1
    else shownDepth depth node
  | _ => depth

/-- The lines of the tree view from a given depth on. -/
def treeLines (depth : Int) : List Node → List String
  | [] => []
  | node :: rest =>
    (indentation (shownDepth depth node) ++ treeLabel node) :: treeLines (depthAfter depth node) rest

/-- The tree view: a line per node, indented by block depth. -/
def tree (nodes : List Node) : String :=
  Text.joinLines (treeLines 0 nodes)

/-- A node without its location; a placeholder has no line. -/
def partLabel : Node → Option String
  | .literal _ text => some s!"Text:{Text.quoted text}"
  | .expression _ code escaping escaper =>
    let mode := match escaper with
      | none | some "" => escaping.word
      | some function => s!"{escaping.word}:{function}"
    some s!"Expr[{mode}]:{code}"
  | .block block => some s!"Code[{block.role.word}@{block.depth}]:{block.code}"
  | .directive _ name args _ => some s!"Dir:{directiveText name args}"
  | .placeholder _ => none

/-- The lines of the parts view. Every node must lie in the source. -/
def partLines (table : LineTable) : List Node → Except PlaceFault (List String)
  | [] => .ok []
  | node :: rest => do
    let location ← table.locate node.span.start
    let others ← partLines table rest
    let line := (partLabel node).map fun label => s!"{location.describe} {label}"
    return line.toList ++ others

/-- The parts view: a line per node with its location. -/
def parts (nodes : List Node) (source : String) : Except PlaceFault String :=
  (partLines (LineTable.ofText source) nodes).map Text.joinLines

end Stencil.View
