/-
# Typed readers

A reader turns a document into a value of a type, or says what is wrong and at
which path. Readers for records check first that the document is a mapping
without foreign keys, and then read the fields in their order; a missing field
takes its default, if it has one. A program may also hand over a symbol, a member
of one of its own enumerations; only readers for choices and readers for anything
accept one.
-/

import Stencil.Document
import Stencil.Text.Case
import Stencil.Token

namespace Stencil

/-- What is wrong with a value. -/
inductive ConfigProblem
  | notMapping (record found : String)
  | unexpectedKeys (keys : List String)
  | missing
  | wrongKind (expected found : String)
  | notChoice (allowed : List String) (shown : String)
  /-- No alternative accepts the value; the reports of all of them. -/
  | noAlternative (reports : List String)
  | unsupported (shown : String)
  /-- The parts fit, but not together. -/
  | rejected (report : String)
  /-- The value is wrong, and has too many digits to be shown. -/
  | unshowable
  deriving DecidableEq

/-- The report of a problem, without its path. -/
def ConfigProblem.text : ConfigProblem → String
  | .notMapping record found => s!"expected mapping for {record}, got {found}"
  | .unexpectedKeys keys => "unexpected keys: " ++ quotedList keys
  | .missing => "required field missing"
  | .wrongKind expected found => s!"expected {expected}, got {found}"
  | .notChoice allowed shown =>
    "expected one of [" ++ Document.commaSeparated allowed ++ "], got " ++ shown
  | .noAlternative [] => "union alternatives exhausted"
  | .noAlternative reports => String.intercalate " | " reports
  | .unsupported shown => "unsupported field type " ++ shown
  | .rejected report => report
  | .unshowable => Document.unshowableReport

/-- What is wrong with a document, and at which path. -/
structure ConfigError where
  path : List String
  problem : ConfigProblem
  deriving DecidableEq

/-- The report of an error, with its path in front. -/
def ConfigError.message (error : ConfigError) : String :=
  if error.path.isEmpty then error.problem.text
  else String.intercalate "." error.path ++ ": " ++ error.problem.text

/-- A member of an enumeration, handed over as such. -/
structure Symbol where
  group : String
  name : String
  value : String
  deriving DecidableEq

/-- What a reader is given. -/
inductive Given
  | written (document : Document)
  | symbol (symbol : Symbol)

namespace Given

/-- The name of the kind of value, for messages. -/
def kind : Given → String
  | .written document => document.kind
  | .symbol member => member.group

/-- The value as messages show it. -/
def describe : Given → String
  | .written document => document.describe
  | .symbol member => s!"<{member.group}.{member.name}: {Text.quoted member.value}>"

/-- Whether the value can be shown. -/
def isShowable : Given → Bool
  | .written document => document.isShowable
  | .symbol _ => true

end Given

/-- An enumeration: its name, and for each member its name, its word and its
meaning. -/
structure Choice (α : Type) where
  group : String
  members : List (Symbol × α)

/-- An enumeration whose members are named by the upper-case forms of their words. -/
def Choice.ofWords {α : Type} (group : String) (members : List (String × α)) : Choice α :=
  ⟨group, members.map fun (word, meaning) => (⟨group, Text.upper word, word⟩, meaning)⟩

/-- A reader of values of a type. -/
abbrev Reader (α : Type) := List String → Given → Except ConfigError α

namespace Reader

variable {α β : Type}

/-- Fail with a problem at a path. -/
def fail (path : List String) (problem : ConfigProblem) : Except ConfigError α :=
  .error ⟨path, problem⟩

/-- Change what a reader gives. -/
def map (f : α → β) (reader : Reader α) : Reader β :=
  fun path given => (reader path given).map f

/-- Accept anything. -/
def any : Reader Given :=
  fun _ given => .ok given

/-- Accept nothing, since no value of this type can be read. -/
def unsupported (shown : String) : Reader α :=
  fun path _ => fail path (.unsupported shown)

/-- Accept a truth value. -/
def bool : Reader Bool
  | _, .written (.bool value) => .ok value
  | path, given => fail path (.wrongKind "bool" given.kind)

/-- Accept a text. -/
def text : Reader String
  | _, .written (.text value) => .ok value
  | path, given => fail path (.wrongKind "str" given.kind)

/-- Accept a whole number. -/
def int : Reader Int
  | _, .written (.int value) => .ok value
  | path, given => fail path (.wrongKind "int" given.kind)

/-- Accept a fractional number. -/
def float : Reader Float
  | _, .written (.float value) => .ok value
  | path, given => fail path (.wrongKind "float" given.kind)

/-- The member that a value stands for: given as such, by its word, or by its name
in any case. -/
def memberOf? (choice : Choice α) : Given → Option α
  | .symbol symbol => (choice.members.find? fun member => member.1 = symbol).map Prod.snd
  | .written (.text word) =>
    ((choice.members.find? fun member => member.1.value = word).or
      (choice.members.find? fun member => member.1.name = Text.upper word)).map Prod.snd
  | .written _ => none

/-- Accept a member of an enumeration. -/
def choice (choice : Choice α) : Reader α :=
  fun path given =>
    match memberOf? choice given with
    | some meaning => .ok meaning
    | none =>
      if given.isShowable then
        fail path (.notChoice (choice.members.map fun member => member.1.value) given.describe)
      else fail [] .unshowable

/-- The first of the alternatives that accepts a value, or the reports of all. -/
def firstOf (path : List String) (given : Given) :
    List (Reader α) → Except (List String) α
  | [] => .error []
  | reader :: rest =>
    match reader path given with
    | .ok value => .ok value
    | .error error => (firstOf path given rest).mapError (error.message :: ·)

/-- Accept what one of the alternatives accepts. Where there is a meaning for
nothing, it is tried first. -/
def union (nothing : Option α) (alternatives : List (Reader α)) : Reader α :=
  fun path given =>
    match given, nothing with
    | .written .null, some meaning => .ok meaning
    | _, _ => (firstOf path given alternatives).mapError fun reports =>
        ⟨path, .noAlternative reports⟩

/-- Accept nothing, or what the reader accepts. -/
def optional (reader : Reader α) : Reader (Option α) :=
  union (some none) [reader.map some]

/-- A mapping whose fields are being read. -/
structure Fields where
  path : List String
  entries : List (Document × Document)

namespace Fields

/-- A field that may be missing. -/
def get? (fields : Fields) (name : String) (reader : Reader α) :
    Except ConfigError (Option α) :=
  match Document.lookup? name fields.entries with
  | some value => (reader (fields.path ++ [name]) (.written value)).map some
  | none => .ok none

/-- A field with a default. -/
def getD (fields : Fields) (name : String) (reader : Reader α) (default : α) :
    Except ConfigError α :=
  (fields.get? name reader).map (·.getD default)

/-- A field that has to be there. -/
def get (fields : Fields) (name : String) (reader : Reader α) : Except ConfigError α := do
  match ← fields.get? name reader with
  | some value => return value
  | none => fail (fields.path ++ [name]) .missing

/-- Refuse the fields together. -/
def reject (fields : Fields) (report : String) : Except ConfigError α :=
  fail fields.path (.rejected report)

end Fields

/-- The keys of a mapping that are none of the names. -/
def foreignKeys (names : List String) (entries : List (Document × Document)) : List Document :=
  let isForeign : Document → Bool
    | .text key => !names.contains key
    | _ => true
  (entries.map Prod.fst).filter isForeign

/-- Keys as messages name them, in order. -/
def sortedTexts (keys : List Document) : List String :=
  (keys.map Document.keyText).mergeSort fun a b => !decide (b < a)

/-- Accept a mapping with the given field names and read its fields. -/
def record (label : String) (names : List String) (body : Fields → Except ConfigError α) :
    Reader α
  | path, .written (.map entries) =>
    match foreignKeys names entries with
    | [] => body ⟨path, entries⟩
    | keys =>
      if Document.areShowable keys then fail path (.unexpectedKeys (sortedTexts keys))
      else fail [] .unshowable
  | path, given => fail path (.notMapping label given.kind)

/-- Read a whole document. -/
def run (reader : Reader α) (document : Document) : Except ConfigError α :=
  reader [] (.written document)

end Reader

end Stencil
