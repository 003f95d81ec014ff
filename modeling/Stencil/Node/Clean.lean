/-
# Cleaning white space

Literal text next to a block or a directive loses the blanks on that side, where
the neighbour was met with cleaning on. Text next to an expression is never
touched, whatever stands on its other side. The neighbours are those of the list
as it was given, so the result does not depend on the order of the work.
-/

import Stencil.Node
import Stencil.Text.Blank

namespace Stencil.Node

/-- The literal without the blanks on the chosen sides, if any text is left. The
span shrinks with the text; a span too short for that is refused. -/
def trimLiteral (span : Span) (text : String) (leading trailing : Bool) :
    Except PlaceFault (Option Node) :=
  let whole := text.toList
  let front := if leading then Text.trimStart whole else whole
  let kept := if trailing then Text.trimEnd front else front
  if kept = whole then .ok (some (.literal span text))
  else if kept.isEmpty then .ok none
  else do
    let start : Int := span.start + (whole.length - front.length : Nat)
    let stop : Int := span.stop - (front.length - kept.length : Nat)
    let trimmed ← Span.ofInts start stop
    return some (.literal trimmed (String.ofList kept))

/-- A node after cleaning, between its neighbours. -/
def cleanBetween (previous : Option Node) (node : Node) (next : Option Node) :
    Except PlaceFault (Option Node) :=
  match node with
  | .literal span text =>
    if previous.any isExpression || next.any isExpression then .ok (some node)
    else trimLiteral span text (previous.any cleansBeside) (next.any cleansBeside)
  | _ => .ok (some node)

/-- Clean the nodes that follow a node. -/
def cleanAfter (previous : Option Node) : List Node → Except PlaceFault (List Node)
  | [] => .ok []
  | node :: rest => do
    let cleaned ← cleanBetween previous node rest.head?
    let others ← cleanAfter (some node) rest
    return cleaned.toList ++ others

/-- Cleaning takes a node between its neighbours, and then the nodes after it. -/
theorem cleanAfter_cons_eq_ok {previous : Option Node} {node : Node} {rest cleaned : List Node} :
    cleanAfter previous (node :: rest) = .ok cleaned ↔
      ∃ first others, cleanBetween previous node rest.head? = .ok first ∧
        cleanAfter (some node) rest = .ok others ∧ cleaned = first.toList ++ others := by
  rw [cleanAfter]
  cases cleanBetween previous node rest.head? with
  | error fault => simp [bind, Except.bind]
  | ok first =>
      cases cleanAfter (some node) rest with
      | error fault => simp [bind, Except.bind]
      | ok others => simp [bind, Except.bind, pure, Except.pure, eq_comm]

/-- Clean a list of nodes. -/
def clean (nodes : List Node) : Except PlaceFault (List Node) :=
  cleanAfter none nodes

end Stencil.Node
