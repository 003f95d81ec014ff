/-
# Readers for the records of a template

Spans, locations, nodes, instructions and modes can be read from documents too,
under the names of their fields. A span is a mapping with its two ends.
-/

import Stencil.Config
import Stencil.Instruction
import Stencil.LineTable
import Stencil.Modes

namespace Stencil

/-- The ways of writing an expression by their words. -/
def Escaping.choice : Choice Escaping :=
  .ofWords "EscapeMode" [("auto", .auto), ("raw", .raw)]

/-- The escape policies by their words. -/
def EscapePolicy.choice : Choice EscapePolicy :=
  .ofWords "EscapeState" [("auto", .auto), ("raw", .raw), ("disabled", .disabled)]

/-- The roles by their words. -/
def Role.choice : Choice Role :=
  .ofWords "BlockRole"
    [("open", .opens), ("close", .closes), ("continue", .continues), ("statement", .statement)]

/-- The kinds of token; their words are their names. -/
def TokenKind.choice : Choice TokenKind :=
  .ofWords "TokenType" (TokenKind.all.map fun kind => (kind.name, kind))

/-- A span by its ends. -/
def Span.reader : Reader Span :=
  Reader.record "Span" ["start", "end"] fun fields => do
    let start ← fields.get "start" Reader.int
    let stop ← fields.get "end" Reader.int
    match Span.ofInts start stop with
    | .ok span => return span
    | .error fault => fields.reject fault.message

/-- A location by line and column. -/
def Location.reader : Reader Location :=
  Reader.record "SourceLocation" ["line", "column"] fun fields => do
    let line ← fields.get "line" Reader.int
    let column ← fields.get "column" Reader.int
    return ⟨line, column⟩

namespace Instruction

/-- An instruction that writes a text. -/
def literalReader : Reader Instruction :=
  Reader.record "EmitLiteral" ["text", "span"] fun fields => do
    let text ← fields.get "text" Reader.text
    let span ← fields.get "span" Span.reader
    return .literal text span

/-- An instruction that writes a value. -/
def expressionReader : Reader Instruction :=
  Reader.record "EmitExpression" ["code", "escape", "span", "escaper"] fun fields => do
    let code ← fields.get "code" Reader.text
    let escaping ← fields.get "escape" (Reader.choice Escaping.choice)
    let span ← fields.get "span" Span.reader
    let escaper ← fields.getD "escaper" (Reader.optional Reader.text) none
    return .expression code escaping span escaper

/-- An instruction that runs code. -/
def rawReader : Reader Instruction :=
  Reader.record "EmitRaw" ["code", "span"] fun fields => do
    let code ← fields.get "code" Reader.text
    let span ← fields.get "span" Span.reader
    return .raw code span

end Instruction

/-- A block. -/
def Block.reader : Reader Block :=
  Reader.record "BlockNode" ["span", "code", "role", "depth", "keyword", "cleanws"]
    fun fields => do
      let span ← fields.get "span" Span.reader
      let code ← fields.get "code" Reader.text
      let role ← fields.getD "role" (Reader.choice Role.choice) .statement
      let depth ← fields.getD "depth" Reader.int 0
      let keyword ← fields.getD "keyword" (Reader.optional Reader.text) none
      let cleaning ← fields.getD "cleanws" (Reader.choice Cleaning.choice) .none
      return ⟨span, code, role, depth, keyword, cleaning⟩

/-- A directive node. Its arguments cannot be read. -/
def Node.directiveReader : Reader Node :=
  Reader.record "DirectiveNode" ["span", "name", "args", "cleanws"] fun fields => do
    let span ← fields.get "span" Span.reader
    let name ← fields.get "name" Reader.text
    let args ← fields.getD "args" (Reader.unsupported "typing.Tuple[str, ...]") []
    let cleaning ← fields.getD "cleanws" (Reader.choice Cleaning.choice) .none
    return .directive span name args cleaning

/-- Modes, all with defaults. -/
def Modes.reader : Reader Modes :=
  Reader.record "ParseState" ["cleanws", "escape", "escaper", "depth"] fun fields => do
    let cleaning ← fields.getD "cleanws" (Reader.choice Cleaning.choice) .none
    let policy ← fields.getD "escape" (Reader.choice EscapePolicy.choice) .auto
    let escaper ← fields.getD "escaper" (Reader.optional Reader.text) none
    let depth ← fields.getD "depth" Reader.int 0
    return ⟨cleaning, policy, escaper, depth⟩

/-- A directive that sets the escape policy. -/
def Directive.escapeReader : Reader Directive :=
  Reader.record "EscapeDirective" ["state", "escaper"] fun fields => do
    let policy ← fields.get "state" (Reader.choice EscapePolicy.choice)
    let escaper ← fields.getD "escaper" (Reader.optional Reader.text) none
    return .escape policy escaper

end Stencil
