/-
# Exact values of floating-point numbers

Between decimals and binary floating-point numbers stand exact fractions. A
decimal is read as the number nearest to it, and where two are equally near as the
one with an even significand. A number is whole if its exact value is.
-/

namespace Stencil.Decimal

/-- The parts of a finite number: whether it is negative, its significand and its
binary exponent. -/
structure Parts where
  negative : Bool
  significand : Nat
  exponent : Int

/-- The parts of a number, if it is finite. -/
def parts? (x : Float) : Option Parts :=
  let bits : Nat := x.toBits.toNat
  let negative := bits / Nat.pow 2 63 = 1
  let biased : Nat := bits / Nat.pow 2 52 % Nat.pow 2 11
  let fraction : Nat := bits % Nat.pow 2 52
  if biased = 2047 then none
  else if biased = 0 then some ⟨negative, fraction, -1074⟩
  else some ⟨negative, fraction + Nat.pow 2 52, (biased : Int) - 1075⟩

/-- The exact value of a number, if it is whole. -/
def whole? (x : Float) : Option Int := do
  let parts ← parts? x
  let up := Nat.pow 2 parts.exponent.toNat
  let down := Nat.pow 2 (-parts.exponent).toNat
  if parts.significand % down = 0 then
    let size : Nat := parts.significand * up / down
    some (if parts.negative then -(size : Int) else size)
  else none

/-- A fraction rounded to a whole number, a half to the even neighbour. -/
def roundedQuotient (numerator denominator : Nat) : Nat :=
  let floor := numerator / denominator
  let remainder := numerator % denominator
  if 2 * remainder < denominator then floor
  else if denominator < 2 * remainder then floor + 1
  else if floor % 2 = 0 then floor
  else floor + 1

/-- The bits of the number nearest to a fraction. The significand has 53 bits,
fewer only where the exponent is least. It is added to the exponent field, so that
a significand rounded up to 54 bits carries into the exponent. -/
def nearestBits (numerator denominator : Nat) : Nat :=
  if numerator = 0 then 0
  else
    let guess : Int := (numerator.log2 : Int) - denominator.log2
    let isBelow : Bool :=
      numerator * Nat.pow 2 (-guess).toNat < denominator * Nat.pow 2 guess.toNat
    let size := if isBelow then guess - 1 else guess
    let unit := max (size - 52) (-1074)
    let significand := roundedQuotient (numerator * Nat.pow 2 (-unit).toNat)
      (denominator * Nat.pow 2 unit.toNat)
    min ((unit + 1074).toNat * Nat.pow 2 52 + significand) (2047 * Nat.pow 2 52)

/-- No finite number has more decimal digits before its point, and none but zero
has more zeros after it. -/
def largestScale : Int := 400

/-- The number nearest to a decimal, given by its sign, its digits and a power of
ten. -/
def toFloat (negative : Bool) (digits : List Nat) (scale : Int) : Float :=
  let digits := digits.dropWhile (· == 0)
  let size := scale + digits.length
  let bits :=
    if digits.isEmpty || size < -largestScale then 0
    else if largestScale < size then 2047 * Nat.pow 2 52
    else
      let number := digits.foldl (fun n d => n * 10 + d) 0
      nearestBits (number * Nat.pow 10 scale.toNat) (Nat.pow 10 (-scale).toNat)
  Float.ofBits (UInt64.ofNat (if negative then bits + Nat.pow 2 63 else bits))

end Stencil.Decimal
