/-
# Running commands

A command is a function of the files and of the reader of documents: it writes to
two streams and ends with an exit code. A fault of a file that is no mistake of its
author aborts it, with what was written before kept. Every other fault of a file is
reported on the error stream.
-/

import Stencil.Command
import Stencil.Diagnostic
import Stencil.Document.Json
import Stencil.Load
import Stencil.Report
import Stencil.Text.Blank
import Stencil.View.Listing
import Stencil.View.Nodes

namespace Stencil.Command

/-- Why a command is aborted. -/
inductive Abort
  | file (fault : FileFault)
  | compile (failure : CompileFailure)
  | place (fault : PlaceFault)
  deriving DecidableEq

/-- What a cause of abortion says. -/
def Abort.message : Abort → String
  | .file fault => fault.message
  | .compile (.parse failure) => failure.message
  | .compile (.place fault) | .place fault => fault.message
  | .compile (.generate fault) => fault.message

/-- How a command ends. -/
inductive Ending
  | exit (code : Nat)
  | abort (cause : Abort)
  deriving DecidableEq

/-- What a command writes, and how it ends. -/
structure Transcript where
  stdout : String := ""
  stderr : String := ""
  ending : Ending
  deriving DecidableEq

/-- The exit code of a command that found something wrong. -/
def failureCode : Nat := 2

/-- A line for the error stream. -/
def errorLine (message : String) : String :=
  String.ofList (Text.trimEnd message.toList) ++ "\n"

/-- The transcript of a command that is aborted. -/
def aborted (cause : Abort) : Transcript :=
  { ending := .abort cause }

/-- The transcript of a command that meets a fault of a file. -/
def refused (fault : FileFault) : Transcript :=
  if fault.isMistake then { stderr := errorLine fault.message, ending := .exit failureCode }
  else aborted (.file fault)

/-- The transcript of a command that meets an error of a template: its diagnostic,
and the given output. -/
def reported (error : TemplateError) (source name : String) (stdout : String) : Transcript :=
  match Diagnostic.ofError error source name with
  | .error fault => aborted (.place fault)
  | .ok text => { stdout, stderr := text ++ "\n", ending := .exit failureCode }

/-- The transcript of a command that meets a failure to compile. -/
def failed (failure : CompileFailure) (source name : String)
    (stdout : TemplateError → Except PlaceFault String) : Transcript :=
  match failure with
  | .parse (.template error) =>
    match stdout error with
    | .error fault => aborted (.place fault)
    | .ok text => reported error source name text
  | other => aborted (.compile other)

/-- The transcript of a command that writes a text, if there is one. -/
def written (text : Except PlaceFault String) : Transcript :=
  match text with
  | .error fault => aborted (.place fault)
  | .ok stdout => { stdout, ending := .exit 0 }

/-- Compile a template and report. -/
def runCompile (read : DocumentReader) (disk : Disk) (template : String)
    (config : Option String) (debug pretty : Bool) : Transcript :=
  let path := Path.ofText template
  let name := path.describe
  match optionsFor read disk path config with
  | .error fault => refused fault
  | .ok options =>
    let options := if debug then { options with debug := true } else options
    match readTemplate disk path with
    | .error fault => refused fault
    | .ok source =>
      match Stencil.compile options source name with
      | .error failure =>
        failed failure source name fun error =>
          (Report.ofError name error source).map (·.json pretty)
      | .ok program => written ((Report.ofProgram program source).map (·.json pretty))

/-- Check one template. -/
def checkOne (read : DocumentReader) (disk : Disk) (config : Option String)
    (template : String) : Transcript :=
  let path := Path.ofText template
  let name := path.describe
  match readTemplate disk path with
  | .error fault => refused fault
  | .ok source =>
    match optionsFor read disk path config with
    | .error fault => refused fault
    | .ok options =>
      match Stencil.compile options source name with
      | .error failure => failed failure source name fun _ => .ok ""
      | .ok _ => written (.ok s!"{name}: ok\n")

/-- One transcript after the other. An abort ends both; the worse exit code stays. -/
def Transcript.followedBy (first second : Transcript) : Transcript :=
  match first.ending, second.ending with
  | .abort _, _ => first
  | .exit code, .exit other =>
    ⟨first.stdout ++ second.stdout, first.stderr ++ second.stderr, .exit (max code other)⟩
  | .exit _, .abort cause =>
    ⟨first.stdout ++ second.stdout, first.stderr ++ second.stderr, .abort cause⟩

/-- Check templates one after the other. -/
def runCheck (read : DocumentReader) (disk : Disk) (config : Option String) :
    List String → Transcript
  | [] => { ending := .exit 0 }
  | template :: rest =>
    (checkOne read disk config template).followedBy (runCheck read disk config rest)

/-- A text with a line end, unless it is empty. -/
def terminated (text : String) : String :=
  if text = "" then "" else text ++ "\n"

/-- Show the parts or the instructions of a template. -/
def runDump (read : DocumentReader) (disk : Disk) (template : String)
    (config : Option String) (listing : Bool) : Transcript :=
  let path := Path.ofText template
  let name := path.describe
  match readTemplate disk path with
  | .error fault => refused fault
  | .ok source =>
    match optionsFor read disk path config with
    | .error fault => refused fault
    | .ok options =>
      let text := if listing then
          (Stencil.compile options source name).map fun program =>
            View.locatedListing program source
        else (cleanNodes options source).map fun nodes => View.parts nodes source
      match text with
      | .error failure => failed failure source name fun _ => .ok ""
      | .ok text => written (text.map terminated)

/-- Run a command on the files there are. -/
def run (read : DocumentReader) (disk : Disk) : Command → Transcript
  | .compile template config debug pretty => runCompile read disk template config debug pretty
  | .check templates config => runCheck read disk config templates
  | .dump template config listing => runDump read disk template config listing

/-- The files that a command may read. -/
def paths (command : Command) : List Path :=
  let (templates, config) := match command with
    | .compile template config _ _ => ([template], config)
    | .check templates config => (templates, config)
    | .dump template config _ => ([template], config)
  let beside := templates.flatMap fun template =>
    let path := Path.ofText template
    [path, path.parent.child optionsFile]
  beside ++ config.toList.map Path.ofText

/-- The text that tells the version. -/
def versionText : String :=
  s!"{programName} {Report.toolVersion}\n"

/-- The text that tells how a program is used. -/
def usageText (program : String) : String :=
  s!"usage: {program} [-h] ...\n"

/-- The transcript of a command line that asks for no command. -/
def stopped : Usage.Stop → Transcript
  | .help program => { stdout := usageText program, ending := .exit 0 }
  | .version => { stdout := versionText, ending := .exit 0 }
  | .wrong program message =>
    { stderr := usageText program ++ s!"{program}: error: {message}\n"
      ending := .exit failureCode }

end Stencil.Command
