/-
# Output instructions

A compiled template is a sequence of three kinds of instruction: write a text,
write the value of an expression, or run a fragment of code. Directives and empty
pieces leave no instruction. An instruction can be shown as a statement over a
named sink.
-/

import Stencil.Node
import Stencil.Text.Quoted

namespace Stencil

/-- A step of a compiled template. -/
inductive Instruction
  /-- Write a text as it is. -/
  | literal (text : String) (span : Span)
  /-- Write the value of an expression. -/
  | expression (code : String) (escaping : Escaping) (span : Span) (escaper : Option String)
  /-- Run code. -/
  | raw (code : String) (span : Span)
  deriving DecidableEq

/-- A node that has no instruction. -/
inductive GenerateFault
  | placeholder (span : Span)
  deriving DecidableEq

/-- The report of a node that has no instruction. -/
def GenerateFault.message : GenerateFault → String
  | .placeholder _ => "Unsupported node type: TemplateNode"

namespace Instruction

/-- The span an instruction came from. -/
def span : Instruction → Span
  | .literal _ span => span
  | .expression _ _ span _ => span
  | .raw _ span => span

/-- The instruction of a node, if it has any effect. -/
def ofNode : Node → Except GenerateFault (Option Instruction)
  | .literal span text => .ok (if text = "" then none else some (.literal text span))
  | .expression span code escaping escaper =>
    .ok (if code = "" then none
      else some (.expression code escaping span (if escaping = .auto then escaper else none)))
  | .block block => .ok (if block.code = "" then none else some (.raw block.code block.span))
  | .directive .. => .ok none
  | .placeholder span => .error (.placeholder span)

/-- The instructions of a list of nodes. -/
def ofNodes : List Node → Except GenerateFault (List Instruction)
  | [] => .ok []
  | node :: rest => do
    let instruction ← ofNode node
    let others ← ofNodes rest
    return instruction.toList ++ others

/-- Instructions are made of the first node and of the nodes after it. -/
theorem ofNodes_cons_eq_ok {node : Node} {rest : List Node} {instructions : List Instruction} :
    ofNodes (node :: rest) = .ok instructions ↔
      ∃ first others, ofNode node = .ok first ∧ ofNodes rest = .ok others ∧
        instructions = first.toList ++ others := by
  rw [ofNodes]
  cases ofNode node with
  | error fault => simp [bind, Except.bind]
  | ok first =>
      cases ofNodes rest with
      | error fault => simp [bind, Except.bind]
      | ok others => simp [bind, Except.bind, pure, Except.pure, eq_comm]

/-- The instruction as a statement over a sink. An empty function name counts as
none. -/
def statement (sink : String) : Instruction → String
  | .literal text _ => s!"{sink}.write({Text.quoted text})"
  | .expression code .raw _ _ => s!"{sink}.write({code})"
  | .expression code .auto _ escaper =>
    match escaper with
    | none | some "" => s!"{sink}.write_escaped({code})"
    | some function => s!"{sink}.write({function}({code}))"
  | .raw code _ => code

end Instruction

end Stencil
