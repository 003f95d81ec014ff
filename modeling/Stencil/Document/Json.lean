/-
# Documents as JSON

The compact form has no blanks outside of texts. The pretty form puts every item
and every entry on a line of its own, indented by two spaces per level, and a
space after the colon. Empty lists and mappings have no inside in either form.
Characters beyond ASCII stand for themselves.
-/

import Stencil.Document
import Stencil.Text.Quoted

namespace Stencil.Document

/-- A character inside a JSON text. -/
def jsonChar (c : Char) : List Char :=
  if c = Text.doubleQuote then ['\\', c]
  else if c = '\\' then ['\\', '\\']
  else if c = '\n' then ['\\', 'n']
  else if c = '\r' then ['\\', 'r']
  else if c = '\t' then ['\\', 't']
  else if c = '\x08' then ['\\', 'b']
  else if c = '\x0c' then ['\\', 'f']
  else if c.toNat < 0x20 then '\\' :: 'u' :: Text.hexDigits 4 c.toNat
  else [c]

/-- A text in JSON quotes. -/
def jsonText (s : String) : String :=
  String.ofList (Text.doubleQuote :: (s.toList.flatMap jsonChar ++ [Text.doubleQuote]))

/-- A fractional number in JSON. -/
def jsonFloat (x : Float) : String :=
  let shown := Decimal.ofFloat x
  if shown = "nan" then "NaN"
  else if shown = "inf" then "Infinity"
  else if shown = "-inf" then "-Infinity"
  else shown

/-- A key in JSON, always a text. -/
def jsonKey : Document → String
  | .null => "null"
  | .bool true => "true"
  | .bool false => "false"
  | .float x => jsonFloat x
  | key => keyText key

/-- A line break with the indentation of a level; nothing in the compact form. -/
def jsonBreak (pretty : Bool) (level : Nat) : String :=
  if pretty then "\n" ++ String.ofList (List.replicate (2 * level) ' ') else ""

/-- What stands between a key and its value. -/
def jsonColon (pretty : Bool) : String :=
  if pretty then ": " else ":"

/-- Parts between brackets, one level further in. -/
def jsonEnclosed (pretty : Bool) (level : Nat) (left right : String) (parts : List String) :
    String :=
  if parts.isEmpty then left ++ right
  else
    left ++ jsonBreak pretty (level + 1) ++
      String.intercalate ("," ++ jsonBreak pretty (level + 1)) parts ++
      jsonBreak pretty level ++ right

mutual

/-- A document in JSON, at a level of nesting. -/
def jsonAt (pretty : Bool) (level : Nat) : Document → String
  | .null => "null"
  | .bool true => "true"
  | .bool false => "false"
  | .int n => toString n
  | .float x => jsonFloat x
  | .text s => jsonText s
  | .time value => jsonText value.text
  | .foreign value => jsonText value.describe
  | .list items => jsonEnclosed pretty level "[" "]" (jsonItems pretty (level + 1) items)
  | .map entries =>
    jsonEnclosed pretty level "\x7b" "\x7d" (jsonEntries pretty (level + 1) entries)

/-- The items of a list in JSON. -/
def jsonItems (pretty : Bool) (level : Nat) : List Document → List String
  | [] => []
  | item :: rest => jsonAt pretty level item :: jsonItems pretty level rest

/-- The entries of a mapping in JSON. -/
def jsonEntries (pretty : Bool) (level : Nat) : List (Document × Document) → List String
  | [] => []
  | (key, value) :: rest =>
    (jsonText (jsonKey key) ++ jsonColon pretty ++ jsonAt pretty level value) ::
      jsonEntries pretty level rest

end

/-- A document in JSON. -/
def json (document : Document) (pretty : Bool := false) : String :=
  jsonAt pretty 0 document

end Stencil.Document
