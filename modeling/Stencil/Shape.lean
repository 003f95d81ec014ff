/-
# Shapes of code fragments

Code is not parsed, but a fragment may open, continue or close a block. In the
keyword style the first word of the fragment decides; in the brace style a brace
at its end opens and a brace at its start closes. Any other fragment is a
statement.
-/

import Stencil.Options
import Stencil.Text.Blank
import Stencil.Text.Word

namespace Stencil

/-- The part that a code fragment plays in a block. -/
inductive Role
  | opens
  | closes
  | continues
  | statement
  deriving DecidableEq

/-- The word for a role. -/
def Role.word : Role → String
  | .opens => "open"
  | .closes => "close"
  | .continues => "continue"
  | .statement => "statement"

/-- A role, with the keyword that names the block where there is one. -/
structure Shape where
  role : Role
  keyword : Option String := none
  deriving DecidableEq

namespace Shape

/-- The keywords that open a block. -/
def openers : List String := ["if", "for", "while", "with", "try", "def", "class"]

/-- The keywords that continue a block. -/
def continuations : List String := ["else", "elif", "except", "finally"]

/-- The keywords that open a block after `async`. -/
def asyncOpeners : List String := ["for", "with", "def"]

/-- The keyword a fragment starts with, and what follows it. -/
def firstWord (cs : List Char) : Option (String × List Char) :=
  match Text.trimStart cs with
  | [] => none
  | c :: rest =>
    if Text.isNameStart c then
      some (String.ofList ((c :: rest).takeWhile Text.isWord), (c :: rest).dropWhile Text.isWord)
    else none

/-- The keyword that a closing word names: what follows `end` in it. -/
def closedKeyword? (word : String) : Option String :=
  if "end".toList.isPrefixOf word.toList then
    let keyword := String.ofList (word.toList.drop 3)
    if keyword ∈ openers then some keyword else none
  else none

/-- The shape of a fragment in the keyword style. -/
def ofKeywords (code : String) : Shape :=
  match firstWord code.toList with
  | none => ⟨.statement, none⟩
  | some (word, rest) =>
    if word = "async" then
      match firstWord rest with
      | some (second, _) =>
        if second ∈ asyncOpeners then ⟨.opens, some second⟩ else ⟨.statement, none⟩
      | none => ⟨.statement, none⟩
    else if word ∈ openers then ⟨.opens, some word⟩
    else if word ∈ continuations then ⟨.continues, some word⟩
    else if word = "end" then ⟨.closes, none⟩
    else
      match closedKeyword? word with
      | some keyword => ⟨.closes, some keyword⟩
      | none => ⟨.statement, none⟩

/-- The shape of a fragment in the brace style. -/
def ofBraces (code : String) : Shape :=
  let cs := Text.trim code.toList
  let closes := cs.head? == some '}'
  let opens := cs.getLast? == some '{'
  if closes && opens then ⟨.continues, none⟩
  else if opens then ⟨.opens, none⟩
  else if closes then ⟨.closes, none⟩
  else ⟨.statement, none⟩

/-- The shape of a fragment in the given style. -/
def classify : BlockStyle → String → Shape
  | .keyword => ofKeywords
  | .brace => ofBraces

end Shape

end Stencil
