/-
# A place in a YAML text

A cursor is the rest of a text and how far it is into the lines. The end of the
text is seen as the null character, which no readable text holds. Several
characters end a line of a scalar, but only a line feed or a carriage return
starts a new line by which columns are counted.
-/

import Stencil.Yaml.Fault

namespace Stencil.Yaml

/-- The character that stands for the end of a text. -/
def endMark : Char := '\x00'

/-- The character that separates lines. -/
def lineSeparator : Char := Char.ofNat 0x2028

/-- The character that separates paragraphs. -/
def paragraphSeparator : Char := Char.ofNat 0x2029

/-- Whether a character ends a line. -/
def isBreak (c : Char) : Bool :=
  c == '\n' || c == '\r' || c == '\x85' || c == lineSeparator || c == paragraphSeparator

/-- The line break at the front of a text and what follows it. A separator stands
for itself and any other break for a line feed; a carriage return and a line feed
are one break. -/
def takeBreak? : List Char → Option (Char × List Char)
  | '\r' :: '\n' :: rest => some ('\n', rest)
  | c :: rest =>
    if c == lineSeparator || c == paragraphSeparator then some (c, rest)
    else if isBreak c then some ('\n', rest)
    else none
  | [] => none

/-- Whether a character ends a line or the text. -/
def isLineEnd (c : Char) : Bool :=
  isBreak c || c == endMark

/-- Whether a character is a space or a tab, or ends a line or the text. -/
def isGap (c : Char) : Bool :=
  c == ' ' || c == '\t' || isLineEnd c

/-- Whether a YAML text may hold a character. -/
def isAllowed (c : Char) : Bool :=
  let n := c.toNat
  n == 9 || n == 10 || n == 13 || (0x20 ≤ n && n ≤ 0x7E) || n == 0x85 ||
    (0xA0 ≤ n && n ≤ 0xFFFD) || 0x10000 ≤ n

/-- The byte order mark, which takes no column. -/
def byteOrderMark : Char := Char.ofNat 0xFEFF

/-- The rest of a text and the place of its start. -/
structure Cursor where
  rest : List Char
  line : Nat := 0
  column : Nat := 0
  index : Nat := 0

namespace Cursor

/-- The character some places ahead. -/
def peek (cursor : Cursor) (ahead : Nat := 0) : Char :=
  (cursor.rest.drop ahead).headD endMark

/-- One character further. -/
def next (cursor : Cursor) : Cursor :=
  match cursor.rest with
  | [] => cursor
  | c :: rest =>
    if c == '\n' || (c == '\r' && rest.head? != some '\n') then
      ⟨rest, cursor.line + 1, 0, cursor.index + 1⟩
    else if c == byteOrderMark then ⟨rest, cursor.line, cursor.column, cursor.index + 1⟩
    else ⟨rest, cursor.line, cursor.column + 1, cursor.index + 1⟩

/-- Some characters further. -/
def advance (cursor : Cursor) : Nat → Cursor
  | 0 => cursor
  | count + 1 => cursor.next.advance count

/-- Up to where a shorter rest starts. -/
def advanceTo (cursor : Cursor) (rest : List Char) : Cursor :=
  cursor.advance (cursor.rest.length - rest.length)

/-- The line break at the cursor and the place after it. -/
def takeBreak? (cursor : Cursor) : Option (Char × Cursor) :=
  (Yaml.takeBreak? cursor.rest).map fun (found, rest) => (found, cursor.advanceTo rest)

/-- Past the characters of a class. -/
def skipWhile (cursor : Cursor) (p : Char → Bool) : Cursor :=
  cursor.advance (cursor.rest.takeWhile p).length

end Cursor

/-- Whether a line starts with three marks of a kind and a gap. -/
def startsWithMarks (mark : Char) (cs : List Char) : Bool :=
  match cs with
  | a :: b :: c :: rest => a == mark && b == mark && c == mark && isGap (rest.headD endMark)
  | _ => false

/-- Whether a line starts or ends a document. -/
def startsWithDocumentMark (cs : List Char) : Bool :=
  startsWithMarks '-' cs || startsWithMarks '.' cs

end Stencil.Yaml
