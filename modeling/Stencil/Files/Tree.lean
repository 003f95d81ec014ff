/-
# File trees

A file tree lists the files and directories below a working directory. A file
implies the directories on its way. Two dots lead out of a directory only if the
directory is there; nothing outside of the tree is.
-/

import Stencil.Files

namespace Stencil

/-- What a file tree holds at a path. -/
inductive Entry
  | directory
  | file (bytes : ByteArray)

/-- The files and directories below a working directory, by their names on the way. -/
structure FileTree where
  entries : List (List String × Entry)

namespace FileTree

/-- Whether the names lead to a directory. -/
def isDirectory (tree : FileTree) (names : List String) : Bool :=
  names.isEmpty || tree.entries.any fun (place, entry) =>
    match entry with
    | .directory => names.isPrefixOf place
    | .file _ => names.isPrefixOf place && names != place

/-- Follow names from a directory. -/
def follow (tree : FileTree) : List String → List String → Option (List String)
  | place, [] => some place
  | place, name :: rest =>
    if tree.isDirectory place then
      if name = ".." then
        if place.isEmpty then none else tree.follow place.dropLast rest
      else tree.follow (place ++ [name]) rest
    else none

/-- The contents of the file at a path. -/
def disk (tree : FileTree) : Disk := fun path =>
  if path.root = "" then do
    let place ← tree.follow [] path.names
    tree.entries.findSome? fun (names, entry) =>
      match entry with
      | .file bytes => if names = place then some bytes else none
      | .directory => none
  else none

end FileTree

end Stencil
