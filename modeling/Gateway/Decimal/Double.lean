/-
This file holds the finite doubles of 64 bits as a sign and a magnitude, where the magnitude
counts the doubles from zero upwards. Counted this way, order of magnitudes is order of counts,
and one rounding function, from a ratio of naturals to the nearest double with ties to even,
carries reading, products and quotients.
-/

namespace Gateway.Decimal

/-- The power of two with the exponent, or one where the exponent is negative. -/
def twoTo (exponent : Int) : Nat := Nat.pow 2 exponent.toNat

/-- The power of ten with the exponent, or one where the exponent is negative. -/
def tenTo (exponent : Int) : Nat := Nat.pow 10 exponent.toNat

/-- The count of the first magnitude that has all 53 bits of a significand. -/
def normalBound : Nat := 0x10000000000000

/-- The count of the first magnitude that is not finite. -/
def magnitudeBound : Nat := 2047 * normalBound

/-- A finite double: its sign and the count of its magnitude among the magnitudes. -/
structure Double where
  negative : Bool
  magnitude : Nat
  finite : magnitude < magnitudeBound
  deriving DecidableEq

namespace Double

/-- A double is zero when its magnitude is. -/
def isZero (double : Double) : Bool :=
  double.magnitude == 0

/-- The same number: equal doubles, or two zeros of either sign. -/
def sameNumber (first second : Double) : Bool :=
  first == second || (first.isZero && second.isZero)

/-- A magnitude as significand and binary exponent: it is worth significand · 2 ^ exponent. -/
def parts (magnitude : Nat) : Nat × Int :=
  if magnitude < normalBound then (magnitude, -1074)
  else (magnitude % normalBound + normalBound, (magnitude / normalBound : Nat) - 1075)

/-- The ratio of naturals that a significand and a binary exponent are worth. -/
def ratio (significand : Nat) (exponent : Int) : Nat × Nat :=
  (significand * twoTo exponent, twoTo (-exponent))

/-- The quotient rounded to the nearest natural, a tie to the even one. -/
def roundQuotient (numerator denominator : Nat) : Nat :=
  let quotient := numerator / denominator
  let twice := 2 * (numerator % denominator)
  if twice < denominator then quotient
  else if denominator < twice then quotient + 1
  else quotient + quotient % 2

/-- The quotient of the ratio by a power of two, rounded. -/
def roundAt (numerator denominator : Nat) (exponent : Int) : Nat :=
  roundQuotient (numerator * twoTo (-exponent)) (denominator * twoTo exponent)

/-- The binary exponent at which the ratio keeps 53 bits, or the least one there is. -/
def roundingExponent (numerator denominator : Nat) : Int :=
  let estimate := max ((numerator.log2 : Int) - (denominator.log2 : Int) - 53) (-1074)
  let whole := numerator * twoTo (-estimate) / (denominator * twoTo estimate)
  if whole < 2 * normalBound then estimate else estimate + 1

/-- The magnitude nearest to the ratio, finite or not; a tie goes to the even significand. -/
def roundRatio (numerator denominator : Nat) : Nat :=
  if numerator = 0 then 0
  else
    let exponent := roundingExponent numerator denominator
    (exponent + 1074).toNat * normalBound + roundAt numerator denominator exponent

/-- The product of two magnitudes, rounded. -/
def product (first second : Nat) : Nat :=
  let (significand, exponent) := parts first
  let (significand', exponent') := parts second
  let (numerator, denominator) := ratio (significand * significand') (exponent + exponent')
  roundRatio numerator denominator

/-- The quotient of two magnitudes, rounded. -/
def quotient (first second : Nat) : Nat :=
  let (significand, exponent) := parts first
  let (significand', exponent') := parts second
  let (numerator, denominator) := ratio significand (exponent - exponent')
  roundRatio numerator (denominator * significand')

/-- The double of a sign and a magnitude, when the magnitude is finite. -/
def ofMagnitude? (negative : Bool) (magnitude : Nat) : Option Double :=
  if finite : magnitude < magnitudeBound then some ⟨negative, magnitude, finite⟩ else none

end Double

end Gateway.Decimal
