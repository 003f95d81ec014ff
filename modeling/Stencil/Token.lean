/-
# Tokens

A template is cut into a flat sequence of tokens. Literal text is one token; an
expression or a code block is an opener, the code and a closer; a directive is a
single token with its name and arguments. The end of input is a token of its own.
-/

import Stencil.Span
import Stencil.Text.Quoted

namespace Stencil

/-- The kinds of token. -/
inductive TokenKind
  | text
  | expressionOpen
  | expressionClose
  | blockOpen
  | blockClose
  | code
  | directive
  | endOfInput
  deriving DecidableEq

/-- The name of a kind in messages. -/
def TokenKind.name : TokenKind → String
  | .text => "TEXT"
  | .expressionOpen => "EXPR_OPEN"
  | .expressionClose => "EXPR_CLOSE"
  | .blockOpen => "BLOCK_OPEN"
  | .blockClose => "BLOCK_CLOSE"
  | .code => "CODE"
  | .directive => "DIRECTIVE"
  | .endOfInput => "EOF"

/-- All kinds, in the order in which they are listed. -/
def TokenKind.all : List TokenKind :=
  [.text, .expressionOpen, .expressionClose, .blockOpen, .blockClose, .code, .directive,
    .endOfInput]

/-- A token. The value of a directive is its name; only a directive has arguments. -/
structure Token where
  kind : TokenKind
  value : String
  span : Span
  args : List String := []
  deriving DecidableEq

/-- A list of quoted texts in brackets. -/
def quotedList (texts : List String) : String :=
  "[" ++ String.intercalate ", " (texts.map Text.quoted) ++ "]"

/-- The token as it is shown in messages. -/
def Token.describe (token : Token) : String :=
  let args := if token.kind = .directive then s!", args={quotedList token.args}" else ""
  s!"Token({token.kind.name}, {Text.quoted token.value}{args}, {token.span.describe})"

end Stencil
