/-
# Command-line grammar

A command line has options, which start with a dash, and other arguments. A long
option may be cut short as long as it stays unambiguous, and may have its value
after an equals sign. After two dashes nothing is an option. Arguments that belong
to nothing are collected and reported by whoever asked for them.
-/

import Stencil.Text.Digit
import Stencil.Text.Quoted

namespace Stencil.Usage

/-- What an option does. -/
inductive Effect
  | help
  | version
  | flag
  | value
  deriving DecidableEq

/-- An option with its spellings. -/
structure Switch where
  names : List String
  effect : Effect
  deriving DecidableEq

/-- The option in messages. -/
def Switch.label (switch : Switch) : String :=
  String.intercalate "/" switch.names

/-- How many arguments that are no options are taken. -/
inductive Arity
  | one
  | oneOrMore
  /-- One, and all that follows it, options too. -/
  | command
  deriving DecidableEq

/-- The grammar of a command line. Options of a single letter take no value. -/
structure Grammar where
  program : String
  switches : List Switch
  /-- The name of the other arguments in messages. -/
  operand : String
  arity : Arity

/-- How reading a command line ends early. -/
inductive Stop
  | help (program : String)
  | version
  | wrong (program message : String)
  deriving DecidableEq

/-- What was found on a command line. -/
structure Found where
  operands : List String := []
  flags : List Switch := []
  values : List (Switch × String) := []
  extras : List String := []

/-- What an argument holds after the spelling of an option. -/
inductive Attachment
  | nothing
  /-- A value after an equals sign. -/
  | equals (value : String)
  /-- More letters, directly after a single dash and its letter. -/
  | letters (text : String)
  deriving DecidableEq

/-- An argument as the grammar sees it. -/
inductive Item
  | operand (text : String)
  /-- The two dashes. -/
  | separator
  /-- An option of the grammar, in its full spelling. -/
  | switch (switch : Switch) (spelling : String) (attached : Attachment) (text : String)
  /-- It looks like an option, but is none. -/
  | stranger (text : String)
  deriving DecidableEq

/-- The argument as it was written. -/
def Item.text : Item → String
  | .operand text => text
  | .separator => "--"
  | .switch _ _ _ text => text
  | .stranger text => text

namespace Grammar

variable (grammar : Grammar)

/-- Stop with a message. -/
def wrong {α : Type} (message : String) : Except Stop α :=
  .error (.wrong grammar.program message)

/-- The spellings of all options. -/
def spellings : List (String × Switch) :=
  grammar.switches.flatMap fun switch => switch.names.map fun name => (name, switch)

/-- The option with a spelling. -/
def switch? (spelling : String) : Option Switch :=
  (grammar.spellings.find? fun (name, _) => name == spelling).map Prod.snd

/-- A text up to its first equals sign, and what follows that. -/
def splitEquals (text : String) : String × Attachment :=
  let cs := text.toList
  match cs.dropWhile (· != '=') with
  | [] => (text, .nothing)
  | _ :: value => (String.ofList (cs.takeWhile (· != '=')), .equals (String.ofList value))

/-- The options that an argument may mean: all those that a long one abbreviates,
or the letter after a single dash. -/
def completions (text : String) : List Item :=
  let cs := text.toList
  if cs.take 2 == ['-', '-'] then
    let (start, attached) := splitEquals text
    grammar.spellings.filterMap fun (name, switch) =>
      if start.toList.isPrefixOf name.toList then some (.switch switch name attached text)
      else none
  else
    grammar.spellings.filterMap fun (name, switch) =>
      if name == String.ofList (cs.take 2) then
        some (.switch switch name (.letters (String.ofList (cs.drop 2))) text)
      else if cs.isPrefixOf name.toList then some (.switch switch name .nothing text)
      else none

/-- Whether a text is a number without a sign. A line feed at its end does not
count. -/
def isNumber (cs : List Char) : Bool :=
  let cs := if cs.getLast? == some '\n' then cs.dropLast else cs
  match cs.dropWhile Text.isDecimalDigit with
  | [] => !cs.isEmpty
  | '.' :: fraction => !fraction.isEmpty && fraction.all Text.isDecimalDigit
  | _ => false

/-- What an argument with a dash is if it names no option in full: the only option
it may mean, or an operand if it is a number or has a space. -/
def classifyPartial (text : String) : Except Stop Item :=
  match grammar.completions text with
  | [item] => .ok item
  | [] =>
    let rest := text.toList.drop 1
    if rest.isEmpty || isNumber rest || rest.contains ' ' then .ok (.operand text)
    else .ok (.stranger text)
  | items =>
    let names := items.filterMap fun
      | .switch _ spelling _ _ => some spelling
      | _ => none
    let matching := String.intercalate ", " names
    grammar.wrong s!"ambiguous option: {text} could match {matching}"

/-- What an argument is. A single dash is an operand. -/
def classify (text : String) : Except Stop Item :=
  if text.toList.head? != some '-' || text = "-" then .ok (.operand text)
  else
    match grammar.switch? text with
    | some switch => .ok (.switch switch text .nothing text)
    | none =>
      let (start, attached) := splitEquals text
      match attached, grammar.switch? start with
      | .equals value, some switch => .ok (.switch switch start (.equals value) text)
      | _, _ => grammar.classifyPartial text

/-- What the arguments are. After two dashes they are no options. -/
def classifyAll : List String → Except Stop (List Item)
  | [] => .ok []
  | text :: rest =>
    if text = "--" then .ok (.separator :: rest.map .operand)
    else do
      let item ← grammar.classify text
      let items ← classifyAll rest
      return item :: items

/-- Whether an argument can be an operand. -/
def isOperand : Item → Bool
  | .operand _ => true
  | _ => false

/-- Whether an argument is an operand or the two dashes. -/
def isPlain : Item → Bool
  | .operand _ | .separator => true
  | _ => false

/-- The operands at the front of the arguments, and what follows them. -/
def takeOperands (items : List Item) : Option (List Item × List Item) :=
  let isSeparator (item : Item) : Bool := item == .separator
  let front := items.takeWhile isSeparator
  match items.dropWhile isSeparator with
  | item :: rest =>
    if isOperand item then
      match grammar.arity with
      | .one =>
        some (front ++ item :: rest.takeWhile isSeparator, rest.dropWhile isSeparator)
      | .oneOrMore => some (front ++ item :: rest.takeWhile isPlain, rest.dropWhile isPlain)
      | .command => some (items, [])
    else none
  | [] => none

/-- The texts of operands. The two dashes are dropped, but are kept for a command. -/
def operandTexts (items : List Item) : List String :=
  match grammar.arity with
  | .command => items.map Item.text
  | _ => (items.erase .separator).map Item.text

/-- The effects of options written together, in order. -/
def applyFlags (found : Found) : List Switch → Except Stop Found
  | [] => .ok found
  | switch :: rest =>
    match switch.effect with
    | .help => .error (.help grammar.program)
    | .version => .error .version
    | _ => applyFlags { found with flags := switch :: found.flags } rest

/-- The message about a value for an option that takes none. -/
def ignoredValue (switch : Switch) (value : String) : String :=
  s!"argument {switch.label}: ignored explicit argument {Text.quoted value}"

/-- Letters after a single dash, each an option: those options, and what is left
from the first letter that is none. -/
def cluster (switch : Switch) (before : List Switch) :
    List Char → Except Stop (List Switch × List String)
  | [] => .ok (before ++ [switch], [])
  | '=' :: cs => grammar.wrong (ignoredValue switch (String.ofList cs))
  | '-' :: cs => grammar.wrong (ignoredValue switch (String.ofList ('-' :: cs)))
  | c :: cs =>
    match grammar.switch? (String.ofList ['-', c]) with
    | some next => cluster next (before ++ [switch]) cs
    | none => .ok (before ++ [switch], [String.ofList ('-' :: c :: cs)])

/-- Take an option at the front, with a value from the arguments after it if it
needs one. -/
def takeSwitch (found : Found) (switch : Switch) (attached : Attachment)
    (rest : List Item) : Except Stop (Found × List Item) := do
  match switch.effect, attached with
  | .value, .nothing =>
    match rest with
    | .operand value :: after =>
      return ({ found with values := (switch, value) :: found.values }, after)
    | _ => grammar.wrong s!"argument {switch.label}: expected one argument"
  | .value, .equals value | .value, .letters value =>
    return ({ found with values := (switch, value) :: found.values }, rest)
  | _, .nothing => return (← grammar.applyFlags found [switch], rest)
  | _, .equals value => grammar.wrong (ignoredValue switch value)
  | _, .letters text =>
    let (switches, unknown) ← grammar.cluster switch [] text.toList
    let found ← grammar.applyFlags found switches
    return ({ found with extras := found.extras ++ unknown }, rest)

/-- Read the arguments from left to right. Operands are taken where they first
occur; others are extras. -/
def readItems : Nat → Bool → Found → List Item → Except Stop (Bool × Found)
  | 0, taken, found, _ => .ok (taken, found)
  | _ + 1, taken, found, [] => .ok (taken, found)
  | fuel + 1, taken, found, item :: rest =>
    match item with
    | .stranger text => readItems fuel taken { found with extras := found.extras ++ [text] } rest
    | .switch switch _ attached _ => do
      let (found, after) ← grammar.takeSwitch found switch attached rest
      readItems fuel taken found after
    | .operand _ | .separator =>
      match if taken then none else grammar.takeOperands (item :: rest) with
      | some (operands, after) =>
        readItems fuel true { found with operands := grammar.operandTexts operands } after
      | none => readItems fuel taken { found with extras := found.extras ++ [item.text] } rest

/-- Read a command line. The operands have to be there. -/
def read (arguments : List String) : Except Stop Found := do
  let items ← grammar.classifyAll arguments
  let (taken, found) ← grammar.readItems (items.length + 1) false {} items
  if taken then return found
  else grammar.wrong s!"the following arguments are required: {grammar.operand}"

end Grammar

/-- Whether a flag was given. -/
def Found.hasFlag (found : Found) (name : String) : Bool :=
  found.flags.any fun switch => switch.names.contains name

/-- The last value given for an option. -/
def Found.value? (found : Found) (name : String) : Option String :=
  (found.values.find? fun (switch, _) => switch.names.contains name).map Prod.snd

end Stencil.Usage
