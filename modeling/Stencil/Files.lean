/-
# Paths, files and their texts

A path is a sequence of names; empty names and single dots are left out, and two
dots are kept, since what they lead to depends on the directories there are. Files
are given by a function from paths to contents, so that all that reads files is a
function of them. A text file holds UTF-8 and its lines may end in any of the
three usual ways.
-/

import Stencil.Text.Pieces

namespace Stencil

/-- A path in a file system. -/
structure Path where
  /-- What stands before the first name: nothing in a relative path. -/
  root : String := ""
  names : List String
  deriving DecidableEq

namespace Path

/-- The slashes that make a path absolute; exactly two are kept as two. -/
def rootOf : List Char → String
  | '/' :: '/' :: '/' :: _ => "/"
  | '/' :: '/' :: _ => "//"
  | '/' :: _ => "/"
  | _ => ""

/-- The path that a text describes. -/
def ofText (text : String) : Path :=
  let names := (Text.pieces '/' text.toList).map String.ofList
  ⟨rootOf text.toList, names.filter fun name => name != "" && name != "."⟩

/-- The path as it is shown. -/
def describe (path : Path) : String :=
  let shown := path.root ++ String.intercalate "/" path.names
  if shown = "" then "." else shown

/-- The directory that holds the path. -/
def parent (path : Path) : Path :=
  { path with names := path.names.dropLast }

/-- A name in the directory. -/
def child (path : Path) (name : String) : Path :=
  { path with names := path.names ++ [name] }

end Path

/-- The contents of the files there are. A path without contents is no file. -/
abbrev Disk := Path → Option ByteArray

namespace Disk

/-- Every way to end a line becomes a line feed. -/
def unifyLineEnds : List Char → List Char
  | [] => []
  | '\r' :: '\n' :: cs => '\n' :: unifyLineEnds cs
  | '\r' :: cs => '\n' :: unifyLineEnds cs
  | c :: cs => c :: unifyLineEnds cs

/-- The text in a file, if its bytes are UTF-8. -/
def decode (bytes : ByteArray) : Option String :=
  (String.fromUTF8? bytes).map fun text => String.ofList (unifyLineEnds text.toList)

end Disk

end Stencil
