/-
# Dates and times

A timestamp is a day of the calendar, or a moment of a day. The calendar has the
years one to 9999, with leap years by the rule of four, hundred and four hundred.
A moment may carry an offset from universal time, and the name under which the
offset was written. Two moments with offsets are the same if they are the same
instant; a moment without an offset is never the same as one with an offset.
-/

import Stencil.Text.Quoted

namespace Stencil

/-- Why numbers make no timestamp. -/
inductive TimeFault
  | year (year : Nat)
  | month
  | day
  | hour
  | minute
  | second
  /-- An offset of a day or more. -/
  | offset (seconds : Int)
  /-- After the last moment of the calendar. -/
  | tooLate
  deriving DecidableEq

/-- A time span as messages show it. -/
def describeSpan (seconds : Int) : String :=
  let days := seconds / 86400
  let rest := seconds % 86400
  let parts := (if days = 0 then [] else [s!"days={days}"]) ++
    (if rest = 0 then [] else [s!"seconds={rest}"])
  let shown := if parts.isEmpty then "0" else String.intercalate ", " parts
  s!"datetime.timedelta({shown})"

/-- The report of a fault. -/
def TimeFault.message : TimeFault → String
  | .year given => s!"year {given} is out of range"
  | .month => "month must be in 1..12"
  | .day => "day is out of range for month"
  | .hour => "hour must be in 0..23"
  | .minute => "minute must be in 0..59"
  | .second => "second must be in 0..59"
  | .offset seconds =>
    "offset must be a timedelta strictly between -timedelta(hours=24) and " ++
      s!"timedelta(hours=24), not {describeSpan seconds}."
  | .tooLate => "date value out of range"

/-- A day of the calendar. -/
structure Date where
  year : Nat
  month : Nat
  day : Nat
  deriving DecidableEq

/-- A time of day. -/
structure Clock where
  hour : Nat
  minute : Nat
  second : Nat
  microsecond : Nat
  deriving DecidableEq

/-- An offset from universal time. -/
structure Offset where
  seconds : Int
  name : String
  deriving DecidableEq

/-- A day, or a moment of a day. -/
inductive Timestamp
  | day (date : Date)
  | moment (date : Date) (clock : Clock) (offset : Option Offset)
  deriving DecidableEq

/-- A number with at least some digits. -/
def padded (width n : Nat) : String :=
  let digits := Nat.toDigits 10 n
  String.ofList (List.replicate (width - digits.length) '0' ++ digits)

namespace Date

/-- Whether a year has a leap day. -/
def isLeapYear (year : Nat) : Bool :=
  year % 4 == 0 && (year % 100 != 0 || year % 400 == 0)

/-- The number of days of a month. -/
def daysInMonth (year month : Nat) : Nat :=
  if month = 2 then if isLeapYear year then 29 else 28
  else if month ∈ [4, 6, 9, 11] then 30
  else 31

/-- The last year of the calendar. -/
def lastYear : Nat := 9999

/-- The day with the given numbers, if there is one. -/
def ofNumbers (year month day : Nat) : Except TimeFault Date :=
  if year = 0 ∨ lastYear < year then .error (.year year)
  else if month = 0 ∨ 12 < month then .error .month
  else if day = 0 ∨ daysInMonth year month < day then .error .day
  else .ok ⟨year, month, day⟩

/-- The day after, if the calendar has it. -/
def next? (date : Date) : Option Date :=
  if date.day < daysInMonth date.year date.month then some { date with day := date.day + 1 }
  else if date.month < 12 then some ⟨date.year, date.month + 1, 1⟩
  else if date.year < lastYear then some ⟨date.year + 1, 1, 1⟩
  else none

/-- The number of days from the start of the calendar. -/
def number (date : Date) : Nat :=
  let years := date.year - 1
  let months := (List.range (date.month - 1)).map fun before =>
    daysInMonth date.year (before + 1)
  years * 365 + years / 4 - years / 100 + years / 400 + months.foldl (· + ·) 0 + date.day

/-- A day with its year first. -/
def text (date : Date) : String :=
  s!"{padded 4 date.year}-{padded 2 date.month}-{padded 2 date.day}"

end Date

namespace Clock

/-- The time of day with the given numbers, if there is one. -/
def ofNumbers (hour minute second microsecond : Nat) : Except TimeFault Clock :=
  if 23 < hour then .error .hour
  else if 59 < minute then .error .minute
  else if 59 < second then .error .second
  else .ok ⟨hour, minute, second, microsecond⟩

/-- The number of microseconds from the start of the day. -/
def number (clock : Clock) : Nat :=
  ((clock.hour * 60 + clock.minute) * 60 + clock.second) * 1000000 + clock.microsecond

/-- A second later on the same day, if there is one. -/
def next? (clock : Clock) : Option Clock :=
  if clock.second < 59 then some { clock with second := clock.second + 1 }
  else if clock.minute < 59 then some { clock with minute := clock.minute + 1, second := 0 }
  else if clock.hour < 23 then some ⟨clock.hour + 1, 0, 0, clock.microsecond⟩
  else none

/-- A time of day with colons; microseconds only where there are any. -/
def text (clock : Clock) : String :=
  let fraction := if clock.microsecond = 0 then "" else "." ++ padded 6 clock.microsecond
  s!"{padded 2 clock.hour}:{padded 2 clock.minute}:{padded 2 clock.second}{fraction}"

end Clock

namespace Offset

/-- The offset of some seconds, if it is less than a day. -/
def ofSeconds (seconds : Int) (name : String) : Except TimeFault Offset :=
  if seconds.natAbs < 86400 then .ok ⟨seconds, name⟩ else .error (.offset seconds)

/-- An offset in hours and minutes. -/
def text (offset : Offset) : String :=
  let minutes := offset.seconds.natAbs / 60
  let sign := if offset.seconds < 0 then "-" else "+"
  s!"{sign}{padded 2 (minutes / 60)}:{padded 2 (minutes % 60)}"

/-- An offset as messages show it. -/
def describe (offset : Offset) : String :=
  s!"datetime.timezone({describeSpan offset.seconds}, {Text.quoted offset.name})"

end Offset

namespace Timestamp

/-- The name of the kind of timestamp, for messages. -/
def kind : Timestamp → String
  | .day _ => "date"
  | .moment _ _ _ => "datetime"

/-- The timestamp as a text. -/
def text : Timestamp → String
  | .day date => date.text
  | .moment date clock offset =>
    let shift := (offset.map Offset.text).getD ""
    s!"{date.text} {clock.text}{shift}"

/-- The timestamp as messages show it: seconds and microseconds only where they are
not zero at the end. -/
def describe : Timestamp → String
  | .day date => s!"datetime.date({date.year}, {date.month}, {date.day})"
  | .moment date clock offset =>
    let finer :=
      if clock.microsecond ≠ 0 then s!", {clock.second}, {clock.microsecond}"
      else if clock.second ≠ 0 then s!", {clock.second}"
      else ""
    let zone := (offset.map fun offset => s!", tzinfo={offset.describe}").getD ""
    s!"datetime.datetime({date.year}, {date.month}, {date.day}, {clock.hour}, " ++
      s!"{clock.minute}{finer}{zone})"

/-- The number of microseconds of a moment in universal time. -/
def instant (date : Date) (clock : Clock) (offset : Offset) : Int :=
  (date.number * 86400000000 + clock.number : Nat) - offset.seconds * 1000000

/-- Whether two timestamps are the same. -/
def same : Timestamp → Timestamp → Bool
  | .moment date clock (some offset), .moment date' clock' (some offset') =>
    instant date clock offset == instant date' clock' offset'
  | first, second => first == second

/-- A second later. A day has no seconds. -/
def secondLater : Timestamp → Except TimeFault Timestamp
  | .day date => .ok (.day date)
  | .moment date clock offset =>
    match clock.next?, date.next? with
    | some clock, _ => .ok (.moment date clock offset)
    | none, some date => .ok (.moment date ⟨0, 0, 0, clock.microsecond⟩ offset)
    | none, none => .error .tooLate

end Timestamp

end Stencil
