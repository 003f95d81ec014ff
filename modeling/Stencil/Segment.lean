/-
# Segments of a token sequence

Tokens form segments: a text, a directive, or an opener with its code and closer.
Where they do not, the token that does not fit is the one to report, or the lack of
a token where they end within a segment.
-/

import Stencil.TemplateError
import Stencil.Token

namespace Stencil

/-- A unit of the token grammar. -/
inductive Segment
  | text (span : Span) (value : String)
  | expression (span : Span) (code : String)
  | block (span : Span) (code : String)
  | directive (span : Span) (name : String) (args : List String)
  deriving DecidableEq

/-- Why tokens do not form a template. -/
inductive ParseFailure
  /-- The template itself is wrong. -/
  | template (error : TemplateError)
  /-- No segment starts with this token. -/
  | unexpected (token : Token)
  /-- Another kind of token has to follow. -/
  | expected (kind : TokenKind) (found : Token)
  /-- The tokens end within a segment. -/
  | exhausted (kind : TokenKind)
  deriving DecidableEq

/-- The report of a failure to parse. -/
def ParseFailure.message : ParseFailure → String
  | .template error => error.describe
  | .unexpected token =>
    s!"Unexpected token at top level: {token.kind.name} at {token.span.describe} " ++
      s!"(token: {token.kind.name})"
  | .expected kind found =>
    s!"Expected {kind.name} at {found.span.describe} (token: {found.kind.name})"
  | .exhausted kind => s!"Token stream ended while expecting {kind.name}"

end Stencil
