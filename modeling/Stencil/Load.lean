/-
# Loading options and templates

Options stand in a YAML file, by default one with a fixed name beside the
template. Which document a text holds is up to the reader that is given; all that
happens to the document after that is said here. A file that is not there leaves
all options at their defaults, and so does one whose document counts as empty.
Everything else has to be a mapping that reads as options. Most faults are mistakes
of the file and are reported to its author; a file that is no text, or that writes
down values that do not exist, is not read at all.
-/

import Stencil.Config
import Stencil.Files
import Stencil.Program
import Stencil.Yaml.Fault

namespace Stencil

/-- A reader of YAML texts. It decides which texts hold a document, and which one. -/
abbrev DocumentReader := String → Except Yaml.Fault Document

/-- What can go wrong with a file. -/
inductive FileFault
  /-- The bytes are not UTF-8. -/
  | notText (path : Path)
  | noTemplate (path : Path)
  | noConfig (path : Path)
  | notYaml (path : Path) (fault : Yaml.Fault)
  | notMapping (path : Path)
  | badOptions (path : Path) (error : ConfigError)
  /-- The file writes down a value that does not exist. -/
  | badValue (fault : Yaml.ValueFault)
  deriving DecidableEq

/-- The report of a fault. -/
def FileFault.message : FileFault → String
  | .notText path => s!"not UTF-8: {path.describe}"
  | .noTemplate path => s!"Template not found: {path.describe}"
  | .noConfig path => s!"Config file not found: {path.describe}"
  | .notYaml path fault => s!"invalid YAML in {path.describe}: {fault.message}"
  | .notMapping path => s!"YAML must be a mapping: {path.describe}"
  | .badOptions path error => s!"{path.describe}: {error.message}"
  | .badValue fault => fault.message

/-- Whether a fault is a mistake of a file that is reported to its author. -/
def FileFault.isMistake : FileFault → Bool
  | .notText _ | .badValue _ => false
  | _ => true

/-- The name of the options file beside a template. -/
def optionsFile : String := "t4c.yaml"

/-- The text in the bytes of a file. -/
def textOf (path : Path) (bytes : ByteArray) : Except FileFault String :=
  match Disk.decode bytes with
  | some text => .ok text
  | none => .error (.notText path)

/-- The fault of a file that does not hold a document. -/
def yamlFault (path : Path) : Yaml.Fault → FileFault
  | .value fault => .badValue fault
  | fault => .notYaml path fault

/-- The fault of a file whose document does not read as options. -/
def optionsFault (path : Path) (error : ConfigError) : FileFault :=
  if error.problem = .unshowable then .badValue .unshowable else .badOptions path error

/-- The options in a document from a file. A document that counts as empty leaves
all options at their defaults. -/
def optionsOf (path : Path) (document : Document) : Except FileFault Options :=
  let document := if document.isEmpty then .map [] else document
  match document with
  | .map _ => (Options.ofDocument document).mapError (optionsFault path)
  | _ => .error (.notMapping path)

/-- The options in a file, or the defaults if there is no such file. -/
def loadOptions (read : DocumentReader) (disk : Disk) (path : Path) :
    Except FileFault Options :=
  match disk path with
  | none => .ok .standard
  | some bytes => do
    let text ← textOf path bytes
    let document ← (read text).mapError (yamlFault path)
    optionsOf path document

/-- The options file in a directory, if there is one. -/
def findOptions (disk : Disk) (directory : Path) : Option Path :=
  let candidate := directory.child optionsFile
  if (disk candidate).isSome then some candidate else none

/-- The options for a template: from the file that is asked for, else from the
file beside the template, else the defaults. An empty name asks for none. -/
def optionsFor (read : DocumentReader) (disk : Disk) (template : Path)
    (config : Option String) : Except FileFault Options :=
  match config with
  | none | some "" =>
    match findOptions disk template.parent with
    | some path => loadOptions read disk path
    | none => .ok .standard
  | some name =>
    let path := Path.ofText name
    if (disk path).isSome then loadOptions read disk path else .error (.noConfig path)

/-- The text of a template. -/
def readTemplate (disk : Disk) (path : Path) : Except FileFault String :=
  match disk path with
  | some bytes => textOf path bytes
  | none => .error (.noTemplate path)

end Stencil
