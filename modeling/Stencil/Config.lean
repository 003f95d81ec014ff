/-
# Options from documents

The fields of the options and of the delimiters, under the names they have in
configuration files. Unknown fields are refused, and so are values of another kind
than the field asks for: a number is no truth value, and a truth value no text.
-/

import Stencil.Options
import Stencil.Reader

namespace Stencil

/-- The block styles by their words. -/
def BlockStyle.choice : Choice BlockStyle :=
  .ofWords "BlockStyle" [("keyword", .keyword), ("brace", .brace)]

/-- The cleaning modes by their words. -/
def Cleaning.choice : Choice Cleaning :=
  .ofWords "WhitespaceMode" [("block", .block), ("none", .none)]

/-- The delimiters, all with defaults. -/
def Delimiters.reader : Reader Delimiters :=
  Reader.record "Delimiters" ["open", "close", "expression", "directive"] fun fields => do
    let standard := Delimiters.standard
    let opener ← fields.getD "open" Reader.text standard.opener
    let closer ← fields.getD "close" Reader.text standard.closer
    let expressionMark ← fields.getD "expression" Reader.text standard.expressionMark
    let directiveMark ← fields.getD "directive" Reader.text standard.directiveMark
    match Delimiters.ofTexts opener closer expressionMark directiveMark with
    | .ok delimiters => return delimiters
    | .error fault => fields.reject fault.message

/-- The names of the options. -/
def Options.fieldNames : List String :=
  ["delimiters", "block_style", "autoescape", "cleanws", "sink", "debug", "doubled_delimiters",
    "bare_directives"]

/-- The options, all with defaults. -/
def Options.reader : Reader Options :=
  Reader.record "CompilerOptions" Options.fieldNames fun fields => do
    let standard := Options.standard
    let delimiters ← fields.getD "delimiters" Delimiters.reader standard.delimiters
    let blockStyle ←
      fields.getD "block_style" (Reader.choice BlockStyle.choice) standard.blockStyle
    let autoescape ← fields.getD "autoescape" Reader.bool standard.autoescape
    let cleaning ← fields.getD "cleanws" (Reader.choice Cleaning.choice) standard.cleaning
    let sink ← fields.getD "sink" Reader.text standard.sink
    let debug ← fields.getD "debug" Reader.bool standard.debug
    let doubling ← fields.getD "doubled_delimiters" Reader.bool standard.doubling
    let bareDirectives ← fields.getD "bare_directives" Reader.bool standard.bareDirectives
    let options : Options :=
      { standard with
        delimiters, blockStyle, autoescape, cleaning, debug, doubling, bareDirectives }
    match options.withSink sink with
    | .ok options => return options
    | .error fault => fields.reject fault.message

/-- The options in a document. -/
def Options.ofDocument (document : Document) : Except ConfigError Options :=
  Options.reader.run document

end Stencil
