/-
# Errors of a template

What can be wrong with a template is one of four things: a construct is not
closed, blocks do not balance, a directive is unknown, or its arguments do not
suit it. Every error carries the span to point at. The first error from the left
is the one that is reported.
-/

import Stencil.Directive
import Stencil.Span

namespace Stencil

/-- How blocks can fail to balance. The texts are codes of blocks. -/
inductive Imbalance
  /-- A fragment continues a block where none is open. -/
  | strayContinuation (code : String)
  /-- A fragment closes a block where none is open. -/
  | strayClose (code : String)
  /-- A block is closed by a fragment for another keyword. -/
  | mismatch (opening closing : String)
  /-- A block is open at the end. -/
  | unclosed (code : String)
  deriving DecidableEq

/-- The report of an imbalance. -/
def Imbalance.message : Imbalance → String
  | .strayContinuation code => s!"'{code}' outside of any block"
  | .strayClose code => s!"'{code}' closes nothing"
  | .mismatch opening closing => s!"Block '{opening}' is closed by mismatched '{closing}'"
  | .unclosed code => s!"Unclosed block '{code}'"

/-- A report with the offset it is about. -/
def reportAt (message : String) (span : Span) : String :=
  s!"{message} at offset {span.start}"

/-- What is wrong with a template, and where. -/
inductive TemplateError
  | unterminated (span : Span) (delimiter closer : String)
  | unbalanced (span : Span) (imbalance : Imbalance)
  | unknownDirective (span : Span) (name : String)
  | unsuitableArguments (span : Span) (name : String) (args : List String)
      (reason : Directive.Reason)
  deriving DecidableEq

namespace TemplateError

/-- The span to point at. -/
def span : TemplateError → Span
  | .unterminated span _ _ => span
  | .unbalanced span _ => span
  | .unknownDirective span _ => span
  | .unsuitableArguments span _ _ _ => span

/-- The kind of error, as reports name it. -/
def kind : TemplateError → String
  | .unterminated .. => "UnterminatedDelimiter"
  | .unbalanced .. => "UnbalancedBlock"
  | .unknownDirective .. => "UnknownDirective"
  | .unsuitableArguments .. => "InvalidDirectiveArgs"

/-- The report without its place. -/
def message : TemplateError → String
  | .unterminated _ delimiter closer =>
    s!"Unterminated delimiter '{delimiter}' (expected '{closer}')"
  | .unbalanced _ imbalance => imbalance.message
  | .unknownDirective _ name =>
    let shown := if name = "" then "<empty>" else name
    s!"Unknown directive '{shown}'"
  | .unsuitableArguments _ name _ reason =>
    s!"Invalid arguments for directive '{name}': {reason.message}"

/-- The report with its place. -/
def describe (error : TemplateError) : String :=
  reportAt error.message error.span

/-- The error of a name with arguments that has no meaning. -/
def ofDirectiveFault (name : String) (args : List String) (span : Span) :
    Directive.Fault → TemplateError
  | .unknownName => .unknownDirective span name
  | .unsuitable reason => .unsuitableArguments span name args reason

end TemplateError

end Stencil
