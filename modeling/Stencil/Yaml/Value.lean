/-
# Values of plain scalars

A plain scalar may stand for nothing, a truth value, a number or a timestamp;
otherwise it is a text. Digits may be grouped by underscores, which leaves room for
numbers without any digits: these are numbers by their form and have no value.
Whole numbers may be written in base two, eight or sixteen with a mark in front. A
timestamp is a day, or a day and a time with an optional fraction of a second and
an optional offset.
-/

import Stencil.Yaml.Scalar

namespace Stencil.Yaml

/-- A sign in front of a number, and the rest. -/
def splitSign : List Char → Bool × List Char
  | '-' :: cs => (true, cs)
  | '+' :: cs => (false, cs)
  | cs => (false, cs)

/-- Whether a text is made of digits below a base and underscores. -/
def isGrouped (base : Nat) (cs : List Char) : Bool :=
  !cs.isEmpty && cs.all fun c => c == '_' || (hexValue? c).any (· < base)

/-- The digits of a number without what groups them. -/
def ungrouped (cs : List Char) : List Char :=
  cs.filter (· != '_')

/-- The number written in grouped digits. -/
def groupedNumber (base : Nat) (cs : List Char) : Nat :=
  numberOf base (cs.filterMap hexValue?)

/-- The whole number written in digits of a base. Decimal digits must not be too
many. -/
def natural (base : Nat) (cs : List Char) : Except ValueFault Nat :=
  let count := (ungrouped cs).length
  if count = 0 then .error (.noDigits base)
  else if base = 10 ∧ Document.largestShown < count then .error (.tooManyDigits count)
  else .ok (groupedNumber base cs)

/-- The base and the digits of a whole number without its sign. -/
def splitBase? (cs : List Char) : Option (Nat × List Char) :=
  let (base, digits) := match cs with
    | '0' :: 'b' :: digits => (2, digits)
    | '0' :: 'o' :: digits => (8, digits)
    | '0' :: 'x' :: digits => (16, digits)
    | digits => (10, digits)
  if isGrouped base digits then some (base, digits) else none

/-- Whether a number may start with this character. -/
def startsNumber (c : Char) : Bool :=
  c == '-' || c == '+' || c.isDigit

/-- The whole number that a scalar stands for, if it has the form of one. -/
def int? (cs : List Char) : Option (Except ValueFault Int) :=
  if cs.head?.any startsNumber then
    let (negative, unsigned) := splitSign cs
    (splitBase? unsigned).map fun (base, digits) =>
      (natural base digits).map fun n => if negative then -(n : Int) else n
  else none

/-- The exponent at the end of a number: none written, or its value. -/
def exponent? (signNeeded : Bool) : List Char → Option Int
  | [] => some 0
  | e :: cs =>
    let (negative, digits) := splitSign cs
    let signed := cs.head? == some '-' || cs.head? == some '+'
    if (e == 'e' || e == 'E') && (signed || !signNeeded) && !digits.isEmpty &&
        digits.all Char.isDigit then
      let n := groupedNumber 10 digits
      some (if negative then -(n : Int) else n)
    else none

/-- Whether a character is a digit or groups digits. -/
def isDigitOrGroup (c : Char) : Bool :=
  c.isDigit || c == '_'

/-- The fractional number with grouped digits before and after its point, and an
exponent. The text without its sign is reported if there are no digits. -/
def fractional (negative : Bool) (unsigned whole fraction : List Char) (exponent : Int) :
    Except ValueFault Float :=
  let digits := (whole ++ fraction).filterMap hexValue?
  if digits.isEmpty then
    .error (.noDecimal (String.ofList ((ungrouped unsigned).map Char.toLower)))
  else .ok (Decimal.toFloat negative digits (exponent - (ungrouped fraction).length))

/-- The words for what is larger than all numbers. -/
def infinityWords : List String := [".inf", ".Inf", ".INF"]

/-- The words for what is no number. -/
def nanWords : List String := [".nan", ".NaN", ".NAN"]

/-- The fractional number that a scalar stands for, if it has the form of one. -/
def float? (cs : List Char) : Option (Except ValueFault Float) :=
  let (negative, unsigned) := splitSign cs
  if String.ofList unsigned ∈ infinityWords then
    some (.ok (if negative then -(1.0 / 0.0) else 1.0 / 0.0))
  else if String.ofList cs ∈ nanWords then some (.ok (0.0 / 0.0))
  else
    let whole := unsigned.takeWhile isDigitOrGroup
    match unsigned.dropWhile isDigitOrGroup with
    | '.' :: rest =>
      let fraction := rest.takeWhile isDigitOrGroup
      let power := rest.dropWhile isDigitOrGroup
      let wellFormed := if whole.isEmpty then !fraction.isEmpty
        else whole.head?.any Char.isDigit
      if wellFormed then
        (exponent? whole.isEmpty power).map (fractional negative unsigned whole fraction)
      else none
    | power =>
      if whole.head?.any Char.isDigit && !power.isEmpty then
        (exponent? false power).map (fractional negative unsigned whole [])
      else none

/-! ## Timestamps -/

/-- A number of so many digits at the front, and what follows. -/
def digits? (least most : Nat) (cs : List Char) : Option (Nat × List Char) :=
  let digits := (cs.take most).takeWhile Char.isDigit
  if least ≤ digits.length then some (groupedNumber 10 digits, cs.drop digits.length) else none

/-- A number of so many digits after a mark. -/
def digitsAfter? (mark : Char) (least most : Nat) : List Char → Option (Nat × List Char)
  | c :: cs => if c == mark then digits? least most cs else none
  | [] => none

/-- The microseconds of a fraction of a second, from its first six digits and
rounded by the seventh. -/
def microseconds (fraction : List Char) : Nat :=
  let digits := fraction.map fun c => c.toNat - 48
  let six := digits.take 6
  let rounding := if (digits.drop 6).head?.any (4 < ·) then 1 else 0
  numberOf 10 (six ++ List.replicate (6 - six.length) 0) + rounding

/-- The offset at the end of a timestamp: none written, its name and seconds, or
not one. -/
def offset? (cs : List Char) : Option (Option (String × Int)) :=
  match cs.dropWhile isSpaceOrTab with
  | [] => if cs.isEmpty then some none else none
  | ['Z'] => some (some ("Z", 0))
  | sign :: rest =>
    if sign == '-' || sign == '+' then do
      let (hours, after) ← digits? 1 2 rest
      let (minutes, after) ← if after.isEmpty then some (0, after) else digitsAfter? ':' 2 2 after
      let seconds : Int := (hours * 60 + minutes) * 60
      if after.isEmpty then
        some (some (String.ofList (sign :: rest), if sign == '-' then -seconds else seconds))
      else none
    else none

/-- The moment with the given numbers. A fraction that rounds up to a whole second
leads to the next second. -/
def moment (year month day hour minute second fraction : Nat)
    (offset : Option (String × Int)) : Except TimeFault Timestamp := do
  let offset ← offset.mapM fun (name, seconds) => Offset.ofSeconds seconds name
  let date ← Date.ofNumbers year month day
  let clock ← Clock.ofNumbers hour minute second (fraction % 1000000)
  let stamp := .moment date clock offset
  if fraction < 1000000 then return stamp else stamp.secondLater

/-- What separates a day from a time: a letter, or blanks. -/
def afterSeparator? : List Char → Option (List Char)
  | c :: cs =>
    if c == 'T' || c == 't' then some cs
    else if isSpaceOrTab c then some (cs.dropWhile isSpaceOrTab)
    else none
  | [] => none

/-- The moment that a scalar stands for, if it has the form of one. -/
def moment? (cs : List Char) : Option (Except TimeFault Timestamp) := do
  let (year, rest) ← digits? 4 4 cs
  let (month, rest) ← digitsAfter? '-' 1 2 rest
  let (day, rest) ← digitsAfter? '-' 1 2 rest
  let rest ← afterSeparator? rest
  let (hour, rest) ← digits? 1 2 rest
  let (minute, rest) ← digitsAfter? ':' 2 2 rest
  let (second, rest) ← digitsAfter? ':' 2 2 rest
  let (fraction, rest) := match rest with
    | '.' :: after => (after.takeWhile Char.isDigit, after.dropWhile Char.isDigit)
    | rest => ([], rest)
  let offset ← offset? rest
  some (moment year month day hour minute second (microseconds fraction) offset)

/-- The day that a scalar stands for, if it has the form of one. -/
def day? (cs : List Char) : Option (Except TimeFault Timestamp) := do
  let (year, rest) ← digits? 4 4 cs
  let (month, rest) ← digitsAfter? '-' 2 2 rest
  let (day, rest) ← digitsAfter? '-' 2 2 rest
  if rest.isEmpty then some ((Date.ofNumbers year month day).map .day) else none

/-- The timestamp that a scalar stands for, if it has the form of one. -/
def timestamp? (cs : List Char) : Option (Except TimeFault Timestamp) :=
  (day? cs).or (moment? cs)

/-! ## Words -/

/-- The words that stand for nothing. -/
def nullWords : List String := ["", "~", "null", "Null", "NULL"]

/-- The words that stand for truth. -/
def trueWords : List String := ["true", "True", "TRUE"]

/-- The words that stand for falsehood. -/
def falseWords : List String := ["false", "False", "FALSE"]

/-- What a plain scalar stands for. -/
def plainValue (word : String) : Except ValueFault Document :=
  if word ∈ nullWords then .ok .null
  else if word ∈ trueWords then .ok (.bool true)
  else if word ∈ falseWords then .ok (.bool false)
  else
    let cs := word.toList
    match float? cs, int? cs, timestamp? cs with
    | some x, _, _ => x.map .float
    | none, some n, _ => n.map .int
    | none, none, some stamp => (stamp.map Document.time).mapError .time
    | none, none, none => .ok (.text word)

/-- The word that a mapping merges by, as a key. -/
def mergeWord : String := "<<"

/-- The word that stands for the value of a mapping, as a key. -/
def valueWord : String := "="

/-- The words that are reserved and stand for no value. -/
def reservedWords : List String := [valueWord, mergeWord]

end Stencil.Yaml
