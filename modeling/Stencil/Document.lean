/-
# Documents

A document is what a configuration file or a report holds: nothing, a truth value,
a number, a text, a timestamp, a list, or a mapping. Whole and fractional numbers
are kept apart, the entries of a mapping keep their order, and the keys of a
mapping may be any documents. Messages show a list that is a key in round brackets.

Some formats have values of foreign kinds, such as bytes and sets. No field ever has
one, so all that there is to such a value is what can be told of it: its kind, how
messages show it, and whether it counts as empty.
-/

import Stencil.Decimal
import Stencil.Decimal.Exact
import Stencil.Timestamp

namespace Stencil

/-- A value of a foreign kind. -/
structure ForeignValue where
  kind : String
  /-- How messages show the value, unless it holds a number with too many digits. -/
  shown : Option String
  /-- Whether the value counts as empty. -/
  empty : Bool
  deriving DecidableEq

/-- A value of a foreign kind as messages show it. -/
def ForeignValue.describe (value : ForeignValue) : String :=
  value.shown.getD ""

/-- A value of a configuration file or a report. -/
inductive Document
  | null
  | bool (value : Bool)
  | int (value : Int)
  | float (value : Float)
  | text (value : String)
  | time (value : Timestamp)
  | foreign (value : ForeignValue)
  | list (items : List Document)
  | map (entries : List (Document × Document))

namespace Document

/-- The name of the kind of value, for messages. -/
def kind : Document → String
  | .null => "NoneType"
  | .bool _ => "bool"
  | .int _ => "int"
  | .float _ => "float"
  | .text _ => "str"
  | .time value => value.kind
  | .foreign value => value.kind
  | .list _ => "list"
  | .map _ => "dict"

/-- Texts separated by commas. -/
def commaSeparated (texts : List String) : String :=
  String.intercalate ", " texts

/-- Texts in round brackets; a comma tells a single one from a text in brackets. -/
def roundBracketed : List String → String
  | [single] => "(" ++ single ++ ",)"
  | texts => "(" ++ commaSeparated texts ++ ")"

mutual

/-- A document as messages show it. -/
def describe : Document → String
  | .null => "None"
  | .bool true => "True"
  | .bool false => "False"
  | .int n => toString n
  | .float x => Decimal.ofFloat x
  | .text s => Text.quoted s
  | .time value => value.describe
  | .foreign value => value.describe
  | .list items => "[" ++ commaSeparated (describeItems items) ++ "]"
  | .map entries => "\x7b" ++ commaSeparated (describeEntries entries) ++ "\x7d"

/-- The items of a list as messages show them. -/
def describeItems : List Document → List String
  | [] => []
  | item :: rest => describe item :: describeItems rest

/-- The entries of a mapping as messages show them. -/
def describeEntries : List (Document × Document) → List String
  | [] => []
  | (.list items, value) :: rest =>
    (roundBracketed (describeItems items) ++ ": " ++ describe value) :: describeEntries rest
  | (key, value) :: rest => s!"{describe key}: {describe value}" :: describeEntries rest

end

/-- A key as messages name it: a text without quotes, and a list in round
brackets. -/
def keyText : Document → String
  | .text s => s
  | .time value => value.text
  | .list items => roundBracketed (describeItems items)
  | key => describe key

/-- The largest number of digits with which a whole number is shown. -/
def largestShown : Nat := 4300

/-- How reports about a number with too many digits start. -/
def digitLimitText : String :=
  s!"Exceeds the limit ({largestShown} digits) for integer string conversion"

/-- How reports about a number with too many digits end. -/
def digitLimitAdvice : String :=
  "use sys.set_int_max_str_digits() to increase the limit"

/-- The report of a number that cannot be shown. -/
def unshowableReport : String :=
  s!"{digitLimitText}; {digitLimitAdvice}"

mutual

/-- Whether a document can be shown: no whole number in it has too many digits. -/
def isShowable : Document → Bool
  | .int n => n.natAbs < Nat.pow 10 largestShown
  | .foreign value => value.shown.isSome
  | .list items => areShowable items
  | .map entries => areShowableEntries entries
  | _ => true

/-- Whether all items can be shown. -/
def areShowable : List Document → Bool
  | [] => true
  | item :: rest => isShowable item && areShowable rest

/-- Whether all entries can be shown. -/
def areShowableEntries : List (Document × Document) → Bool
  | [] => true
  | (key, value) :: rest => isShowable key && isShowable value && areShowableEntries rest

end

/-- Whether a document counts as empty: nothing, false, zero, or without content. -/
def isEmpty : Document → Bool
  | .null => true
  | .bool value => !value
  | .int n => n == 0
  | .float x => x == 0.0
  | .text s => s == ""
  | .time _ => false
  | .foreign value => value.empty
  | .list items => items.isEmpty
  | .map entries => entries.isEmpty

/-- The whole number that a key stands for, if it is one. Truth values count as
zero and one. -/
def wholeKey? : Document → Option Int
  | .bool value => some (if value then 1 else 0)
  | .int n => some n
  | .float x => Decimal.whole? x
  | _ => none

mutual

/-- Whether two keys of a mapping are the same. Numbers are compared by their exact
values, and what is no number is the same as itself. -/
def sameKey : Document → Document → Bool
  | .null, .null => true
  | .text s, .text t => s == t
  | .time first, .time second => first.same second
  | .foreign first, .foreign second => first = second
  | .list items, .list others => sameKeys items others
  | .float x, .float y => x == y || (x.isNaN && y.isNaN)
  | key, other =>
    match wholeKey? key, wholeKey? other with
    | some m, some n => m == n
    | _, _ => false

/-- Whether two lists hold the same keys. -/
def sameKeys : List Document → List Document → Bool
  | [], [] => true
  | item :: rest, other :: others => sameKey item other && sameKeys rest others
  | _, _ => false

end

/-- The value at a text key. -/
def lookup? (name : String) : List (Document × Document) → Option Document
  | [] => none
  | (.text key, value) :: rest => if key = name then some value else lookup? name rest
  | _ :: rest => lookup? name rest

end Document

end Stencil
