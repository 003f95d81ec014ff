/-
# Scalars in a YAML text

A scalar is written plainly, in single or double quotes, or as a block below its
indicator. The readers here give the text that a scalar stands for and what
follows it. A line feed inside a plain or quoted scalar stands for a space, unless
blank lines follow, and then for nothing; the breaks of blank lines are kept.
-/

import Stencil.Yaml.Cursor

namespace Stencil.Yaml

/-! ## Quoted scalars -/

/-- The text that a line break and the breaks of the blank lines after it stand for
inside a scalar. -/
def folded (first : Char) (more : List Char) : List Char :=
  if first != '\n' then first :: more
  else if more.isEmpty then [' ']
  else more

/-- Whether a character is a space or a tab. -/
def isSpaceOrTab (c : Char) : Bool :=
  c == ' ' || c == '\t'

/-- Skip blank lines after a line break inside a quoted scalar: their breaks, and
what follows. A document mark there leaves the quotation open. -/
def skipBlankLines : Nat → List Char → Except Fault (List Char × List Char)
  | 0, _ => .error .tooDeep
  | fuel + 1, cs =>
    if startsWithDocumentMark cs then .error .unclosedQuote
    else
      let line := cs.dropWhile isSpaceOrTab
      match takeBreak? line with
      | some (found, rest) => do
        let (breaks, after) ← skipBlankLines fuel rest
        return (found :: breaks, after)
      | none => .ok ([], line)

/-- The characters that single letters stand for after a backslash. -/
def simpleEscape? (c : Char) : Option Char :=
  match c with
  | '0' => some '\x00'
  | 'a' => some '\x07'
  | 'b' => some '\x08'
  | 't' => some '\t'
  | '\t' => some '\t'
  | 'n' => some '\n'
  | 'v' => some '\x0b'
  | 'f' => some '\x0c'
  | 'r' => some '\r'
  | 'e' => some '\x1b'
  | ' ' => some ' '
  | '\x22' => some '\x22'
  | '/' => some '/'
  | '\\' => some '\\'
  | 'N' => some '\x85'
  | '_' => some '\xa0'
  | 'L' => some (Char.ofNat 0x2028)
  | 'P' => some (Char.ofNat 0x2029)
  | _ => none

/-- The number of hexadecimal digits after a letter that announces a code point. -/
def escapeWidth? (c : Char) : Option Nat :=
  match c with
  | 'x' => some 2
  | 'u' => some 4
  | 'U' => some 8
  | _ => none

/-- The value of a hexadecimal digit. -/
def hexValue? (c : Char) : Option Nat :=
  if c.isDigit then some (c.toNat - 48)
  else if 'a' ≤ c ∧ c ≤ 'f' then some (c.toNat - 87)
  else if 'A' ≤ c ∧ c ≤ 'F' then some (c.toNat - 55)
  else none

/-- The number that digits of a base stand for. -/
def numberOf (base : Nat) (digits : List Nat) : Nat :=
  digits.foldl (fun n d => n * base + d) 0

/-- The character with the code point written in so many hexadecimal digits at the
front of a text. -/
def codePoint (width : Nat) (cs : List Char) : Except Fault Char :=
  let digits := cs.take width
  match digits.mapM hexValue? with
  | some values =>
    let n := numberOf 16 values
    if digits.length < width then .error .badEscape
    else if n.isValidChar then .ok (Char.ofNat n)
    else if n < 0x110000 then .error .badEscape
    else .error (.value (.codePoint n))
  | none => .error .badEscape

/-- Read a quoted scalar after its opening quote: its text, and what follows the
closing quote. -/
def readQuoted (double : Bool) : Nat → List Char → Except Fault (List Char × List Char)
  | 0, _ => .error .tooDeep
  | _ + 1, [] => .error .unclosedQuote
  | fuel + 1, c :: cs =>
    let keep (text : List Char) (rest : List Char) : Except Fault (List Char × List Char) := do
      let (value, after) ← readQuoted double fuel rest
      return (text ++ value, after)
    if c == '\x27' && !double then
      if cs.head? == some '\x27' then keep ['\x27'] (cs.drop 1) else .ok ([], cs)
    else if c == '\x22' && double then .ok ([], cs)
    else if c == '\\' && double then
      match cs with
      | [] => .error .badEscape
      | letter :: rest =>
        match simpleEscape? letter, escapeWidth? letter, takeBreak? cs with
        | some decoded, _, _ => keep [decoded] rest
        | none, some width, _ => do
          let decoded ← codePoint width rest
          keep [decoded] (rest.drop width)
        | none, none, some (_, after) => do
          let (breaks, after) ← skipBlankLines fuel after
          keep breaks after
        | none, none, none => .error .badEscape
    else if isSpaceOrTab c || isBreak c then
      let spaces := (c :: cs).takeWhile isSpaceOrTab
      let after := (c :: cs).dropWhile isSpaceOrTab
      match takeBreak? after with
      | some (found, rest) => do
        let (breaks, after) ← skipBlankLines fuel rest
        keep (folded found breaks) after
      | none => if after.isEmpty then .error .unclosedQuote else keep spaces after
    else keep [c] cs

/-! ## Plain scalars -/

/-- The number of characters of a plain scalar up to a gap or an indicator. -/
def plainLength (inFlow : Bool) : List Char → Nat
  | [] => 0
  | c :: cs =>
    if c == ':' && !isGap (cs.headD endMark) then plainLength inFlow cs + 1
    else if c == '?' then plainLength inFlow cs + 1
    else if isGap c || c == ':' then 0
    else if inFlow && (c == ',' || c == '[' || c == ']' || c == '\x7b' || c == '\x7d') then 0
    else plainLength inFlow cs + 1

/-- What separates two pieces of a plain scalar: the text it stands for, and
whether it has a line break. No text means that the scalar ends. -/
structure Separation where
  text : List Char
  cursor : Cursor
  broken : Bool

/-- Skip blank lines after a line break inside a plain scalar: their breaks, or none
if a document mark follows. -/
def skipPlainLines : Nat → Cursor → Option (List Char) × Cursor
  | 0, cursor => (none, cursor)
  | fuel + 1, cursor =>
    if startsWithDocumentMark cursor.rest then (none, cursor)
    else
      let inner := cursor.skipWhile (· == ' ')
      match inner.takeBreak? with
      | some (found, next) =>
        let (breaks, after) := skipPlainLines fuel next
        (breaks.map (found :: ·), after)
      | none => (some [], inner)

/-- What follows a piece of a plain scalar. -/
def separation (fuel : Nat) (cursor : Cursor) : Separation :=
  let spaces := cursor.rest.takeWhile (· == ' ')
  let after := cursor.skipWhile (· == ' ')
  match after.takeBreak? with
  | some (found, next) =>
    match skipPlainLines fuel next with
    | (some breaks, next) => ⟨folded found breaks, next, true⟩
    | (none, next) => ⟨[], next, true⟩
  | none => ⟨spaces, after, false⟩

/-- A plain scalar: its text, where it ends, and whether the end is after a line
break. -/
structure Plain where
  text : List Char
  cursor : Cursor
  broken : Bool

/-- Read a plain scalar whose further lines are indented at least to a column. -/
def readPlain (inFlow : Bool) (indent : Int) : Nat → Cursor → Plain
  | 0, cursor => ⟨[], cursor, false⟩
  | fuel + 1, cursor =>
    let length := if cursor.peek == '#' then 0 else plainLength inFlow cursor.rest
    if length = 0 then ⟨[], cursor, false⟩
    else
      let piece := cursor.rest.take length
      let gap := separation fuel (cursor.advance length)
      if gap.text.isEmpty || gap.cursor.peek == '#' || (!inFlow && gap.cursor.column < indent) then
        ⟨piece, gap.cursor, gap.broken⟩
      else
        let more := readPlain inFlow indent fuel gap.cursor
        if more.text.isEmpty then ⟨piece, more.cursor, gap.broken⟩
        else ⟨piece ++ gap.text ++ more.text, more.cursor, more.broken⟩

/-! ## Block scalars -/

/-- What is kept of the line breaks at the end of a block scalar. -/
inductive Chomping
  | strip
  | clip
  | keep
  deriving DecidableEq

/-- The chomping that a header character asks for. -/
def chomping? (c : Char) : Option Chomping :=
  if c == '+' then some .keep else if c == '-' then some .strip else none

/-- The indentation that a header character asks for. -/
def increment? (c : Char) : Option Nat :=
  if '1' ≤ c ∧ c ≤ '9' then some (c.toNat - 48) else none

/-- Read the header of a block scalar after its indicator, up to the end of its
line. -/
def readHeader (cursor : Cursor) : Except Fault (Chomping × Option Nat × Cursor) := do
  let first := cursor.peek
  let second := cursor.peek 1
  let (chomping, increment, used) :=
    match chomping? first, increment? first with
    | some chomping, _ =>
      match increment? second with
      | some n => (chomping, some n, 2)
      | none => (chomping, none, 1)
    | none, some n =>
      match chomping? second with
      | some chomping => (chomping, some n, 2)
      | none => (.clip, some n, 1)
    | none, none => (Chomping.clip, none, 0)
  let cursor := cursor.advance used
  unless cursor.peek == ' ' || isLineEnd cursor.peek do throw .badBlockHeader
  let cursor := cursor.skipWhile (· == ' ')
  let cursor := if cursor.peek == '#' then cursor.skipWhile (!isLineEnd ·) else cursor
  unless isLineEnd cursor.peek do throw .badBlockHeader
  return (chomping, increment, (cursor.takeBreak?.map Prod.snd).getD cursor)

/-- The blank lines before the first line of a block scalar. -/
structure Lead where
  breaks : List Char
  /-- Where the first blank line ends. -/
  first : Option Nat
  /-- The widest indentation seen. -/
  widest : Nat
  cursor : Cursor

/-- Skip blank lines before the first line of a block scalar. -/
def skipToContent : Nat → Option Nat → Nat → Cursor → Lead
  | 0, first, widest, cursor => ⟨[], first, widest, cursor⟩
  | fuel + 1, first, widest, cursor =>
    let inner := cursor.skipWhile (· == ' ')
    let widest := if cursor.peek == ' ' then max widest inner.column else widest
    match inner.takeBreak? with
    | some (found, next) =>
      let lead := skipToContent fuel (first.or (some inner.column)) widest next
      { lead with breaks := found :: lead.breaks }
    | none => ⟨[], first, widest, inner⟩

/-- Whether the first blank line is indented, but less than what follows. -/
def Lead.isBad (lead : Lead) : Bool :=
  lead.first.any fun first => 0 < first && first < lead.widest

/-- Skip the spaces of an indentation. -/
def skipIndent (indent : Nat) (cursor : Cursor) : Cursor :=
  cursor.advance ((cursor.rest.takeWhile (· == ' ')).take (indent - cursor.column)).length

/-- Skip blank lines of a block scalar and the indentation of the line that follows:
the breaks of the blank lines, and what follows. -/
def skipBlockLines (indent : Nat) : Nat → Cursor → List Char × Cursor
  | 0, cursor => ([], cursor)
  | fuel + 1, cursor =>
    let inner := skipIndent indent cursor
    match inner.takeBreak? with
    | some (found, next) =>
      let (breaks, after) := skipBlockLines indent fuel next
      (found :: breaks, after)
    | none => ([], inner)

/-- What is kept of the last line break of a block scalar and of the breaks of blank
lines after it. -/
def chomped (chomping : Chomping) (last breaks : List Char) : List Char :=
  match chomping with
  | .strip => []
  | .clip => last
  | .keep => last ++ breaks

/-- Read the lines of a block scalar from a line of content on. -/
def readLines (fold : Bool) (chomping : Chomping) (topLevel : Bool) (indent : Nat) :
    Nat → Cursor → List Char × Cursor
  | 0, cursor => ([], cursor)
  | fuel + 1, cursor =>
    let line := cursor.rest.takeWhile (!isLineEnd ·)
    let spaced := isSpaceOrTab cursor.peek
    let atEnd := cursor.skipWhile (!isLineEnd ·)
    let (last, next) := match atEnd.takeBreak? with
      | some (found, next) => ([found], next)
      | none => ([], atEnd)
    let (breaks, next) := skipBlockLines indent fuel next
    let goesOn := next.column == indent && next.peek != endMark &&
      !(topLevel && next.column == 0 && startsWithDocumentMark next.rest)
    if goesOn then
      let joint :=
        if fold && last == ['\n'] && !spaced && !isSpaceOrTab next.peek then
          if breaks.isEmpty then [' '] else []
        else last
      let (text, after) := readLines fold chomping topLevel indent fuel next
      (line ++ joint ++ breaks ++ text, after)
    else (line ++ chomped chomping last breaks, next)

/-- Read a block scalar after its indicator, inside a block at some column. -/
def readBlock (fold : Bool) (parent : Int) (fuel : Nat) (cursor : Cursor) :
    Except Fault (List Char × Cursor) := do
  let (chomping, increment, cursor) ← readHeader cursor
  let least := (parent + 1).toNat
  let (breaks, indent, cursor) ← match increment with
    | none => do
      let lead := skipToContent fuel none 0 cursor
      if lead.isBad then throw .badBlockIndent
      pure (lead.breaks, max least lead.widest, lead.cursor)
    | some n =>
      let indent := max least 1 + n - 1
      let (breaks, cursor) := skipBlockLines indent fuel cursor
      pure (breaks, indent, cursor)
  if cursor.column == indent && cursor.peek != endMark then
    let (text, cursor) := readLines fold chomping (least == 0) indent fuel cursor
    return (breaks ++ text, cursor)
  else return (chomped chomping [] breaks, cursor)

end Stencil.Yaml
