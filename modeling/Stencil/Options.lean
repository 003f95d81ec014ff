/-
# Options of a compilation

The options choose the delimiters, how blocks are recognised, the modes in force
at the start of a template, and the name of the output sink. What makes a choice
usable is part of the types: no delimiter is empty, the two marks and the two
delimiters can be told apart, and the sink is an identifier. `Delimiters.ofTexts`
and `Options.withSink` are the only ways in for texts from outside, and they say
what is wrong with a text they refuse.
-/

import Stencil.Text.Identifier
import Stencil.Text.Quoted

namespace Stencil

/-- Whether white space round blocks and directives is removed. -/
inductive Cleaning
  | block
  | none
  deriving DecidableEq

/-- The word for a cleaning mode. -/
def Cleaning.word : Cleaning → String
  | .block => "block"
  | .none => "none"

/-- How the value of one expression is written. -/
inductive Escaping
  | auto
  | raw
  deriving DecidableEq

/-- The word for a way of writing. -/
def Escaping.word : Escaping → String
  | .auto => "auto"
  | .raw => "raw"

/-- How fragments of code are recognised as parts of a block. -/
inductive BlockStyle
  | keyword
  | brace
  deriving DecidableEq

/-- The word for a block style. -/
def BlockStyle.word : BlockStyle → String
  | .keyword => "keyword"
  | .brace => "brace"

/-- Why a text from outside is no usable option. -/
inductive OptionFault
  | emptyDelimiter (name : String)
  | sameDelimiters
  | sameMarks
  | sinkNotIdentifier (sink : String)
  deriving DecidableEq

/-- The report of an unusable option. -/
def OptionFault.message : OptionFault → String
  | .emptyDelimiter name => s!"delimiter '{name}' must not be empty"
  | .sameDelimiters => "open and close delimiters must differ"
  | .sameMarks => "expression and directive markers must differ"
  | .sinkNotIdentifier sink => "sink must be an identifier, got " ++ Text.quoted sink

/-- The texts that start and end constructs. An expression starts with the opener
and the expression mark, an explicit directive with the opener and the directive
mark, and a code block with the opener alone. -/
structure Delimiters where
  opener : String := "<#"
  closer : String := "#>"
  expressionMark : String := "="
  directiveMark : String := "@"
  opener_ne : opener ≠ "" := by decide
  closer_ne : closer ≠ "" := by decide
  expressionMark_ne : expressionMark ≠ "" := by decide
  directiveMark_ne : directiveMark ≠ "" := by decide
  delimiters_differ : opener ≠ closer := by decide
  marks_differ : expressionMark ≠ directiveMark := by decide
  deriving DecidableEq

namespace Delimiters

/-- The delimiters where no others are chosen. -/
def standard : Delimiters := {}

/-- Build delimiters from texts. Empty texts are refused first, in the order of
the fields, then equal delimiters, then equal marks. -/
def ofTexts (opener closer expressionMark directiveMark : String) :
    Except OptionFault Delimiters :=
  if opener_ne : opener = "" then .error (.emptyDelimiter "open")
  else if closer_ne : closer = "" then .error (.emptyDelimiter "close")
  else if expressionMark_ne : expressionMark = "" then .error (.emptyDelimiter "expression")
  else if directiveMark_ne : directiveMark = "" then .error (.emptyDelimiter "directive")
  else if delimiters_differ : opener = closer then .error .sameDelimiters
  else if marks_differ : expressionMark = directiveMark then .error .sameMarks
  else
    .ok { opener, closer, expressionMark, directiveMark, opener_ne, closer_ne,
          expressionMark_ne, directiveMark_ne, delimiters_differ, marks_differ }

/-- An opener has at least one character. -/
theorem opener_toList_ne (delimiters : Delimiters) : delimiters.opener.toList ≠ [] := by
  rw [ne_eq, String.toList_eq_nil_iff]
  exact delimiters.opener_ne

/-- A closer has at least one character. -/
theorem closer_toList_ne (delimiters : Delimiters) : delimiters.closer.toList ≠ [] := by
  rw [ne_eq, String.toList_eq_nil_iff]
  exact delimiters.closer_ne

/-- What an expression starts with. -/
def expressionOpener (delimiters : Delimiters) : String :=
  delimiters.opener ++ delimiters.expressionMark

/-- What an explicit directive starts with. -/
def directiveOpener (delimiters : Delimiters) : String :=
  delimiters.opener ++ delimiters.directiveMark

end Delimiters

/-- The options of one compilation. -/
structure Options where
  delimiters : Delimiters := .standard
  blockStyle : BlockStyle := .keyword
  /-- Whether expressions are escaped until a directive says otherwise. -/
  autoescape : Bool := true
  /-- The cleaning mode until a directive says otherwise. -/
  cleaning : Cleaning := .none
  /-- The name of the output sink in the statements. -/
  sink : String := "_out"
  /-- Passed through to the compiled program. -/
  debug : Bool := false
  /-- Whether a doubled delimiter stands for the delimiter itself. -/
  doubling : Bool := true
  /-- Whether a block that reads as a directive is one. -/
  bareDirectives : Bool := true
  sink_identifier : Text.isIdentifier sink = true := by decide
  deriving DecidableEq

/-- The options where nothing is chosen. -/
def Options.standard : Options := {}

/-- The options with another sink, if it is an identifier. -/
def Options.withSink (options : Options) (sink : String) : Except OptionFault Options :=
  if sink_identifier : Text.isIdentifier sink = true then
    .ok { options with sink, sink_identifier }
  else .error (.sinkNotIdentifier sink)

end Stencil
