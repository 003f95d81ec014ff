/-
# Commands

There are three commands. `compile` writes a report of the instructions or of the
first error, `check` looks at any number of templates, and `dump` shows the parts
or the instructions of a template. Each takes the options from a file that may be
named.
-/

import Stencil.Command.Usage

namespace Stencil

/-- What the command line asks for. -/
inductive Command
  | compile (template : String) (config : Option String) (debug pretty : Bool)
  | check (templates : List String) (config : Option String)
  | dump (template : String) (config : Option String) (listing : Bool)
  deriving DecidableEq

namespace Command

open Usage

/-- The name of the program. -/
def programName : String := "t4c"

/-- The option that shows the help. -/
def helpSwitch : Switch := ⟨["-h", "--help"], .help⟩

/-- The option that shows the version. -/
def versionSwitch : Switch := ⟨["-v", "--version"], .version⟩

/-- The option that names the options file. -/
def configSwitch : Switch := ⟨["--config"], .value⟩

/-- A flag. -/
def flagSwitch (name : String) : Switch := ⟨[name], .flag⟩

/-- The grammar before the command is known. -/
def topGrammar : Grammar :=
  ⟨programName, [helpSwitch, versionSwitch], "cmd", .command⟩

/-- The grammar of the `compile` command. -/
def compileGrammar : Grammar :=
  ⟨programName ++ " compile",
    [helpSwitch, configSwitch, flagSwitch "--debug", flagSwitch "--pretty"], "template", .one⟩

/-- The grammar of the `check` command. -/
def checkGrammar : Grammar :=
  ⟨programName ++ " check", [helpSwitch, configSwitch], "TEMPLATE", .oneOrMore⟩

/-- The grammar of the `dump` command. -/
def dumpGrammar : Grammar :=
  ⟨programName ++ " dump", [helpSwitch, configSwitch, flagSwitch "--listing"], "template", .one⟩

/-- The names of the commands. -/
def names : List String := ["compile", "check", "dump"]

/-- Read the arguments of a command; the command and the arguments it has no use
for. -/
def readNamed (name : String) (arguments : List String) :
    Except Stop (Command × List String) := do
  match name with
  | "compile" =>
    let found ← compileGrammar.read arguments
    return (.compile (found.operands.headD "") (found.value? "--config")
      (found.hasFlag "--debug") (found.hasFlag "--pretty"), found.extras)
  | "check" =>
    let found ← checkGrammar.read arguments
    return (.check found.operands (found.value? "--config"), found.extras)
  | "dump" =>
    let found ← dumpGrammar.read arguments
    return (.dump (found.operands.headD "") (found.value? "--config")
      (found.hasFlag "--listing"), found.extras)
  | _ =>
    let choices := String.intercalate ", " (names.map Text.quoted)
    topGrammar.wrong
      s!"argument cmd: invalid choice: {Text.quoted name} (choose from {choices})"

/-- Read a command line. Arguments without a use are reported after all else. -/
def read (arguments : List String) : Except Stop Command := do
  let found ← topGrammar.read arguments
  let (command, extras) ← readNamed (found.operands.headD "") (found.operands.drop 1)
  match found.extras ++ extras with
  | [] => return command
  | unused =>
    let listed := String.intercalate " " unused
    topGrammar.wrong s!"unrecognized arguments: {listed}"

end Command

end Stencil
