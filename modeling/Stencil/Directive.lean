/-
# Directives

A directive changes the modes of the rest of a template and writes nothing. There
are two: `cleanws` turns the cleaning of white space on or off, and `escape` turns
escaping on or off or names the function that does it. A directive is given by its
name and its arguments; `Directive.interpret` finds its meaning or says why it has
none.
-/

import Stencil.Argument
import Stencil.Options
import Stencil.Text.Case
import Stencil.Text.Pieces

namespace Stencil

/-- Whether expressions are escaped at a point of a template. -/
inductive EscapePolicy
  | auto
  /-- Turned off by a directive. -/
  | raw
  /-- Turned off by the options. -/
  | disabled
  deriving DecidableEq

/-- The word for an escape policy. -/
def EscapePolicy.word : EscapePolicy → String
  | .auto => "auto"
  | .raw => "raw"
  | .disabled => "disabled"

/-- What a directive asks for. -/
inductive Directive
  | clean (mode : Cleaning)
  | escape (policy : EscapePolicy) (escaper : Option String)
  deriving DecidableEq

namespace Directive

/-- Why arguments do not suit a directive. -/
inductive Reason
  | moreThanOne
  | notExactlyOne
  | unsupportedMode (argument : String)
  | unsupportedValue (argument : String)
  | badFunctionName (name : String)
  /-- The text after the name is no list of arguments. -/
  | malformed (fault : Argument.Fault)
  deriving DecidableEq

/-- The report of unsuitable arguments. -/
def Reason.message : Reason → String
  | .moreThanOne => "expected at most one argument"
  | .notExactlyOne => "expected exactly one argument"
  | .unsupportedMode argument => "unsupported mode " ++ Text.quoted argument
  | .unsupportedValue argument => "unsupported value " ++ Text.quoted argument
  | .badFunctionName name => "invalid function name " ++ Text.quoted name
  | .malformed fault => fault.message

/-- Why a name with arguments is no directive. -/
inductive Fault
  | unknownName
  | unsuitable (reason : Reason)
  deriving DecidableEq

/-- The name of the directive that sets the cleaning mode. -/
def cleanName : String := "cleanws"

/-- The name of the directive that sets the escape policy. -/
def escapeName : String := "escape"

/-- Whether a name is one of the two directive names. -/
def isName (name : String) : Bool :=
  name == cleanName || name == escapeName

/-- The words that turn a mode on. -/
def enablingWords : List String := ["on", "true", "yes", "enable", "enabled"]

/-- The words that turn a mode off. -/
def disablingWords : List String := ["off", "false", "no", "disable", "disabled"]

/-- The meaning of the arguments of a cleaning directive. -/
def interpretClean : List String → Except Reason Directive
  | [] => .ok (.clean .block)
  | [argument] =>
    let word := Text.lower argument
    if word = Cleaning.block.word ∨ word ∈ enablingWords then .ok (.clean .block)
    else if word = Cleaning.none.word ∨ word ∈ disablingWords then .ok (.clean .none)
    else .error (.unsupportedMode argument)
  | _ => .error .moreThanOne

/-- What stands before the name of an escape function. -/
def functionKey : String := "function="

/-- Whether the parts of a name between its dots are identifiers. -/
def isFunctionName (name : String) : Bool :=
  (Text.pieces '.' name.toList).all fun piece => Text.isIdentifier (String.ofList piece)

/-- The function name in an argument that gives one. -/
def functionOf? (argument : String) : Option String :=
  if functionKey.toList.isPrefixOf argument.toList then
    some (String.ofList (argument.toList.drop functionKey.toList.length))
  else none

/-- The meaning of the arguments of an escape directive. An empty function name
turns escaping off. -/
def interpretEscape : List String → Except Reason Directive
  | [argument] =>
    match functionOf? argument with
    | some name =>
      if name = "" then .ok (.escape .raw none)
      else if isFunctionName name then .ok (.escape .auto (some name))
      else .error (.badFunctionName name)
    | none =>
      let word := Text.lower argument
      if word = "auto" ∨ word ∈ enablingWords then .ok (.escape .auto none)
      else if word = "raw" ∨ word = "none" ∨ word ∈ disablingWords then .ok (.escape .raw none)
      else .error (.unsupportedValue argument)
  | _ => .error .notExactlyOne

/-- The meaning of a name with arguments. -/
def interpret (name : String) (args : List String) : Except Fault Directive :=
  if name = cleanName then (interpretClean args).mapError .unsuitable
  else if name = escapeName then (interpretEscape args).mapError .unsuitable
  else .error .unknownName

end Directive

end Stencil
