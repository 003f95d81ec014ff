/-
# Shortest decimals

A binary floating-point number is shown by the fewest decimal digits that read
back as the same number, and among those by the digits nearest to it. The search
is exact: the number is a whole multiple of a power of two, the numbers that read
back as it form an interval round it, and for one, two, and more digits the two
neighbours on the decimal grid are tested against the interval.

Numbers of a moderate size are shown with a decimal point among the digits, very
large and very small ones with an exponent of at least two digits.
-/

namespace Stencil.Decimal

/-- A fraction and the interval of fractions that read back as the same number,
all over one denominator. The ends belong to the interval where `closed` holds. -/
structure Rounding where
  low : Nat
  value : Nat
  high : Nat
  denominator : Nat
  closed : Bool

/-- The interval of a number given by significand and binary exponent. At a power
of two the numbers below are twice as dense, so the interval is shorter below. -/
def Rounding.of (significand : Nat) (exponent : Int) (powerOfTwo : Bool) : Rounding :=
  let below := if powerOfTwo then 1 else 2
  let scale := Nat.pow 2 (exponent - 2).toNat
  { low := (4 * significand - below) * scale
    value := 4 * significand * scale
    high := (4 * significand + 2) * scale
    denominator := Nat.pow 2 (2 - exponent).toNat
    closed := significand % 2 = 0 }

/-- The number of decimal digits of a number; zero has none. -/
def digitCount (n : Nat) : Nat :=
  if n = 0 then 0 else digitCount (n / 10) + 1
termination_by n
decreasing_by omega

/-- The power of ten just above a positive fraction: the least `p` with
`value < denominator * 10 ^ p`, found from the digits on both sides. -/
def magnitude (value denominator : Nat) : Int :=
  if denominator ≤ value then digitCount (value / denominator)
  else
    let guess := digitCount denominator - digitCount value
    if value * Nat.pow 10 guess < denominator then -guess
    else if value * Nat.pow 10 (guess - 1) < denominator then 1 - (guess : Int)
    else 2 - (guess : Int)

/-- Whether a fraction over the same denominator lies in the interval. -/
def Rounding.contains (rounding : Rounding) (numerator denominator : Nat) : Bool :=
  let low := rounding.low * denominator
  let high := rounding.high * denominator
  let point := numerator * rounding.denominator
  if rounding.closed then low ≤ point && point ≤ high else low < point && point < high

/-- The multiple of `10 ^ unit` that lies in the interval and is nearest to the
value, if the value has a neighbour in the interval on that grid. -/
def Rounding.nearest? (rounding : Rounding) (unit : Int) : Option Nat :=
  let up := Nat.pow 10 unit.toNat
  let down := Nat.pow 10 (-unit).toNat
  let divisor := rounding.denominator * up
  let scaled := rounding.value * down
  let floor := scaled / divisor
  let remainder := scaled % divisor
  let below := rounding.contains (floor * up) down
  let above := rounding.contains ((floor + 1) * up) down
  if below && above then
    if 2 * remainder < divisor then some floor
    else if divisor < 2 * remainder then some (floor + 1)
    else some (if floor % 2 = 0 then floor else floor + 1)
  else if below then some floor
  else if above then some (floor + 1)
  else none

/-- Search the grids from the coarsest on; the last one always has a hit. -/
def Rounding.search (rounding : Rounding) (size : Int) : Nat → Nat → Nat × Int
  | 0, _ => (rounding.value / rounding.denominator, 0)
  | fuel + 1, digits =>
    match rounding.nearest? (size - digits) with
    | some n => (n, size - digits)
    | none => rounding.search size fuel (digits + 1)

/-- The digits of a number, the most significant first. -/
def digitsOf (n : Nat) : List Char :=
  Nat.toDigits 10 n

/-- Drop the zeros at the end. -/
def dropZeros (digits : List Char) : List Char :=
  (digits.reverse.dropWhile (· == '0')).reverse

/-- The shortest digits of a positive number, and the place of the decimal point
counted from their front. -/
def shortest (significand : Nat) (exponent : Int) (powerOfTwo : Bool) : List Char × Int :=
  let rounding := Rounding.of significand exponent powerOfTwo
  let size := magnitude rounding.value rounding.denominator
  let (n, unit) := rounding.search size 17 1
  let digits := digitsOf n
  (dropZeros digits, digits.length + unit)

/-- A run of zeros. -/
def zeros (count : Nat) : List Char :=
  List.replicate count '0'

/-- Digits with a decimal point, or with an exponent where the point would lie far
outside of them. -/
def written (digits : List Char) (point : Int) : List Char :=
  if -4 < point ∧ point ≤ 16 then
    if point ≤ 0 then '0' :: '.' :: (zeros (-point).toNat ++ digits)
    else if digits.length ≤ point.toNat then
      digits ++ zeros (point.toNat - digits.length) ++ ['.', '0']
    else digits.take point.toNat ++ '.' :: digits.drop point.toNat
  else
    let exponent := point - 1
    let size := digitsOf exponent.natAbs
    let fraction := if digits.length > 1 then '.' :: digits.drop 1 else []
    digits.take 1 ++ fraction ++
      'e' :: (if exponent < 0 then '-' else '+') :: (zeros (2 - size.length) ++ size)

/-- The shortest decimal that reads back as the number. -/
def ofFloat (x : Float) : String :=
  let bits : Nat := x.toBits.toNat
  let negative := bits / Nat.pow 2 63 = 1
  let biased : Nat := bits / Nat.pow 2 52 % Nat.pow 2 11
  let fraction : Nat := bits % Nat.pow 2 52
  let sign := if negative then "-" else ""
  if biased = 2047 then
    if fraction = 0 then sign ++ "inf" else "nan"
  else if biased = 0 ∧ fraction = 0 then sign ++ "0.0"
  else
    let significand := if biased = 0 then fraction else fraction + Nat.pow 2 52
    let exponent : Int := if biased = 0 then -1074 else (biased : Int) - 1075
    let (digits, point) := shortest significand exponent (fraction = 0 ∧ 1 < biased)
    sign ++ String.ofList (written digits point)

end Stencil.Decimal
