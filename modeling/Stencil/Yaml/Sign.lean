/-
# Signs of a YAML text

A text is first cut into signs: scalars, brackets, and the starts and ends of
indented blocks. A key is recognised only by the colon after it, so its sign is
put in front of it afterwards; until then it is a pending key. A pending key that
starts at the indentation of its block has to become a key.

Signs are used up as soon as they are certain, that is up to the first pending
key. This shows in two places: where the text cannot be cut, the signs that are not
certain yet are never seen; and inside braces a colon right after a colon starts a
scalar only while the first colon is still uncertain.
-/

import Stencil.Yaml.Scalar

namespace Stencil.Yaml

/-- A sign of a text. -/
inductive Sign
  | documentStart
  | documentEnd
  /-- An indented list starts. -/
  | blockList
  /-- An indented mapping starts. -/
  | blockMap
  /-- An indented list or mapping ends. -/
  | blockEnd
  /-- A dash. -/
  | entry
  | key
  | value
  | listOpen
  | listClose
  | mapOpen
  | mapClose
  | comma
  | scalar (text : String) (plain : Bool)
  /-- The text cannot be cut from here on. -/
  | broken (fault : Fault)
  deriving DecidableEq

/-- The two kinds of bracket. -/
inductive Bracket
  | square
  | curly
  deriving DecidableEq

/-- A scalar or bracket that a colon would make a key. -/
structure PendingKey where
  /-- The bracket depth at which it stands. -/
  level : Nat
  /-- How many signs come before it. -/
  position : Nat
  required : Bool
  line : Nat
  column : Nat
  index : Nat

/-- How far a text has been cut. -/
structure Cutting where
  cursor : Cursor
  signs : List Sign := []
  /-- The open brackets, the innermost first. -/
  brackets : List Bracket := []
  /-- The columns of the open blocks, the innermost first. -/
  indents : List Nat := []
  pending : List PendingKey := []
  /-- Whether a key may start here. -/
  keyAllowed : Bool := true

namespace Cutting

variable (s : Cutting)

/-- Whether the place is inside brackets. -/
def inFlow : Bool :=
  !s.brackets.isEmpty

/-- The bracket depth. -/
def level : Nat :=
  s.brackets.length

/-- The column of the innermost block. -/
def indent : Int :=
  match s.indents with
  | [] => -1
  | column :: _ => column

/-- One more sign. -/
def push (sign : Sign) : Cutting :=
  { s with signs := s.signs ++ [sign] }

/-- Close the blocks that are indented further than a column. -/
def unwind (column : Int) : Cutting :=
  if s.inFlow then s
  else
    let closed := (s.indents.takeWhile fun (indent : Nat) => column < indent).length
    { s with
      indents := s.indents.drop closed
      signs := s.signs ++ List.replicate closed .blockEnd }

/-- Start a block at a column that is indented further, with a sign at a position. -/
def indentAt (column position : Nat) (sign : Sign) : Cutting :=
  if s.indent < column then
    { s with indents := column :: s.indents, signs := s.signs.insertIdx position sign }
  else s

/-- Give up the pending key at this bracket depth. -/
def dropKey : Except Fault Cutting :=
  if s.pending.any fun key => key.level == s.level && key.required then .error .missingColon
  else .ok { s with pending := s.pending.filter fun key => key.level != s.level }

/-- The farthest that a colon may be from the start of its key. -/
def longestKey : Nat := 1024

/-- Whether no colon can reach a pending key any more. -/
def isStale (key : PendingKey) : Bool :=
  key.line != s.cursor.line || s.cursor.index - key.index > longestKey

/-- Give up the pending keys that no colon can reach any more. -/
def dropStaleKeys : Except Fault Cutting :=
  if s.pending.any fun key => s.isStale key && key.required then .error .missingColon
  else .ok { s with pending := s.pending.filter fun key => !s.isStale key }

/-- How many signs are certain: those before the first pending key. -/
def certain : Nat :=
  let positions := (s.pending.filter fun key => !s.isStale key).map PendingKey.position
  positions.foldl min s.signs.length

/-- What starts here may become a key. -/
def saveKey : Except Fault Cutting :=
  if s.keyAllowed then do
    let s ← s.dropKey
    let key : PendingKey :=
      { level := s.level
        position := s.signs.length
        required := !s.inFlow && s.indent == s.cursor.column
        line := s.cursor.line
        column := s.cursor.column
        index := s.cursor.index }
    return { s with pending := key :: s.pending }
  else .ok s

/-- Go some characters further. -/
def advance (count : Nat) : Cutting :=
  { s with cursor := s.cursor.advance count }

/-- Skip spaces, comments and line breaks. A key may start on a new line. -/
def skipGaps : Nat → Cutting → Cutting
  | 0, s => s
  | fuel + 1, s =>
    let cursor := s.cursor.skipWhile fun c => c == ' ' || (s.inFlow && c == '\t')
    let cursor := if cursor.peek == '#' then cursor.skipWhile (!isLineEnd ·) else cursor
    match cursor.takeBreak? with
    | some (_, next) =>
      skipGaps fuel { s with cursor := next, keyAllowed := s.keyAllowed || !s.inFlow }
    | none => { s with cursor }

/-- A line that starts or ends a document. -/
def documentMark (sign : Sign) : Except Fault Cutting := do
  let s ← (s.unwind (-1)).dropKey
  return ({ s with keyAllowed := false }.push sign).advance 3

/-- An opening bracket. -/
def openBracket (bracket : Bracket) (sign : Sign) : Except Fault Cutting := do
  let s ← s.saveKey
  return ({ s with brackets := bracket :: s.brackets, keyAllowed := true }.push sign).advance 1

/-- A closing bracket. -/
def closeBracket (sign : Sign) : Except Fault Cutting := do
  let s ← s.dropKey
  return ({ s with brackets := s.brackets.drop 1, keyAllowed := false }.push sign).advance 1

/-- A comma. -/
def comma : Except Fault Cutting := do
  let s ← s.dropKey
  return ({ s with keyAllowed := true }.push .comma).advance 1

/-- A dash. -/
def entry : Except Fault Cutting := do
  if !s.inFlow && !s.keyAllowed then throw .misplacedEntry
  let s := if s.inFlow then s else s.indentAt s.cursor.column s.signs.length .blockList
  let s ← s.dropKey
  return ({ s with keyAllowed := true }.push .entry).advance 1

/-- A question mark before a key. -/
def explicitKey : Except Fault Cutting := do
  if !s.inFlow && !s.keyAllowed then throw .misplacedKey
  let s := if s.inFlow then s else s.indentAt s.cursor.column s.signs.length .blockMap
  let s ← s.dropKey
  return ({ s with keyAllowed := !s.inFlow }.push .key).advance 1

/-- A colon. -/
def colon : Except Fault Cutting := do
  match s.pending.find? fun key => key.level == s.level with
  | some key =>
    let s := { s with
      pending := s.pending.filter fun other => other.level != s.level
      signs := s.signs.insertIdx key.position .key }
    let s := if s.inFlow then s else s.indentAt key.column key.position .blockMap
    return ({ s with keyAllowed := false }.push .value).advance 1
  | none =>
    if !s.inFlow && !s.keyAllowed then throw .misplacedValue
    let s := if s.inFlow then s else s.indentAt s.cursor.column s.signs.length .blockMap
    let s ← s.dropKey
    return ({ s with keyAllowed := !s.inFlow }.push .value).advance 1

/-- A quoted scalar. -/
def quotedScalar (double : Bool) : Except Fault Cutting := do
  let s ← s.saveKey
  let text := s.cursor.rest.drop 1
  let (value, rest) ← readQuoted double (text.length + 1) text
  let s := { s with keyAllowed := false, cursor := s.cursor.advanceTo rest }
  return s.push (.scalar (String.ofList value) false)

/-- A block scalar. -/
def blockScalar (fold : Bool) : Except Fault Cutting := do
  let s ← s.dropKey
  let (value, cursor) ←
    readBlock fold s.indent (s.cursor.rest.length + 1) (s.cursor.advance 1)
  return { s with keyAllowed := true, cursor }.push (.scalar (String.ofList value) false)

/-- A plain scalar. -/
def plainScalar : Except Fault Cutting := do
  let s ← s.saveKey
  let plain := readPlain s.inFlow (s.indent + 1) (s.cursor.rest.length + 1) s.cursor
  return { s with keyAllowed := plain.broken, cursor := plain.cursor }.push
    (.scalar (String.ofList plain.text) true)

/-- Whether a colon here stands before a value. Inside brackets a colon that
touches the next character may belong to a scalar. -/
def isValueColon (afterUncertain : Bool) : Bool :=
  let free := isGap (s.cursor.peek 1)
  match s.brackets with
  | [] => free
  | .square :: _ => free
  | .curly :: _ => free || !(afterUncertain && s.signs.getLast? == some .value)

/-- The characters that mean something else at the start of a scalar. -/
def indicators : List Char :=
  ['-', '?', ':', ',', '[', ']', '\x7b', '\x7d', '#', '&', '*', '!', '|', '>', '\x27', '\x22',
    '%', '@', '\x60']

/-- Whether a plain scalar may start here. -/
def isPlainStart (c : Char) : Bool :=
  let next := s.cursor.peek 1
  if !isGap c && !indicators.contains c then true
  else if c == '-' then !isGap next
  else if c == ':' then if s.inFlow then !isSpaceOrTab next else !isGap next
  else c == '?' && !s.inFlow && !isGap next

/-- Cut the sign that starts with a character, after signs of which the last is
certain or not. -/
def cutSign (afterUncertain : Bool) (c : Char) : Except Fault Cutting :=
  let next := s.cursor.peek 1
  let atStart := s.cursor.column == 0
  if c == '%' && atStart then .error (.unsupportedFeature c)
  else if atStart && startsWithMarks '-' s.cursor.rest then s.documentMark .documentStart
  else if atStart && startsWithMarks '.' s.cursor.rest then s.documentMark .documentEnd
  else if c == '[' then s.openBracket .square .listOpen
  else if c == '\x7b' then s.openBracket .curly .mapOpen
  else if c == ']' then s.closeBracket .listClose
  else if c == '\x7d' then s.closeBracket .mapClose
  else if c == ',' then s.comma
  else if c == '-' && isGap next then s.entry
  else if c == '?' && (s.inFlow || isGap next) then s.explicitKey
  else if c == ':' && s.isValueColon afterUncertain then s.colon
  else if c == '*' || c == '&' || c == '!' then .error (.unsupportedFeature c)
  else if c == '|' && !s.inFlow then s.blockScalar false
  else if c == '>' && !s.inFlow then s.blockScalar true
  else if c == '\x27' then s.quotedScalar false
  else if c == '\x22' then s.quotedScalar true
  else if s.isPlainStart c then s.plainScalar
  else .error (.unexpectedCharacter c)

/-- Cut the next sign, or what is left to be said at the end of the text. -/
def cutNext : Except Fault (Cutting × Bool) := do
  let afterUncertain := s.certain < s.signs.length
  let s ← (skipGaps (s.cursor.rest.length + 1) s).dropStaleKeys
  let s := s.unwind s.cursor.column
  match s.cursor.rest with
  | [] => return (← (s.unwind (-1)).dropKey, true)
  | c :: _ => return (← s.cutSign afterUncertain c, false)

/-- Cut the rest of a text. Every sign takes at least one character. -/
def cutAll : Nat → Cutting → List Sign
  | 0, s => s.signs ++ [.broken .tooDeep]
  | fuel + 1, s =>
    match s.cutNext with
    | .error fault => s.signs.take s.certain ++ [.broken fault]
    | .ok (s, true) => s.signs
    | .ok (s, false) => cutAll fuel s

end Cutting

/-- The signs of a text. A byte order mark at its start is skipped. -/
def signsOf (text : String) : List Sign :=
  let cs := text.toList
  match cs.find? fun c => !isAllowed c with
  | some c => [.broken (.forbiddenCharacter c)]
  | none =>
    let cs := if cs.head? == some byteOrderMark then cs.drop 1 else cs
    Cutting.cutAll (cs.length + 1) { cursor := { rest := cs } }

end Stencil.Yaml
