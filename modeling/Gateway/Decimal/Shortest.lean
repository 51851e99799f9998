/-
This file finds the shortest decimal that reads back as a given magnitude. The reals that round
to the magnitude form an interval; the decimals with a fixed last place form a grid. The coarsest
grid with a point in the interval decides the number of digits, and of its two points around the
magnitude the nearer one is taken.
-/

import Gateway.Decimal.Double

namespace Gateway.Decimal

/-- A positive decimal: worth digits · 10 ^ exponent. -/
structure Scientific where
  digits : Nat
  exponent : Int
  deriving DecidableEq, Repr

/-- The reals that round to a magnitude, each bound as significand · 2 ^ exponent, and whether
the bounds themselves belong to them. -/
structure RoundingInterval where
  lower : Nat
  upper : Nat
  middle : Nat
  exponent : Int
  closed : Bool

/-- The interval of a magnitude. Below a power of two the gap is half as wide as above it. -/
def RoundingInterval.of (magnitude : Nat) : RoundingInterval :=
  let (significand, exponent) := Double.parts magnitude
  if significand = normalBound ∧ -1074 < exponent then
    ⟨4 * significand - 1, 4 * significand + 2, 4 * significand, exponent - 2, true⟩
  else
    ⟨2 * significand - 1, 2 * significand + 1, 2 * significand, exponent - 1,
      significand % 2 == 0⟩

/-- Both sides of a comparison between significand · 2 ^ exponent and count · 10 ^ place, as
naturals. -/
def comparable (significand : Nat) (exponent : Int) (count : Nat) (place : Int) : Nat × Nat :=
  (significand * twoTo exponent * tenTo (-place), count * tenTo place * twoTo (-exponent))

/-- Whether count · 10 ^ place rounds to the magnitude of the interval. -/
def RoundingInterval.holds (interval : RoundingInterval) (count : Nat) (place : Int) : Bool :=
  let (lower, value) := comparable interval.lower interval.exponent count place
  let (upper, value') := comparable interval.upper interval.exponent count place
  if interval.closed then lower ≤ value && value' ≤ upper else lower < value && value' < upper

/-- The point of the grid with the given last place that rounds to the magnitude, if there is one.
Of two the nearer is taken, and of two equally near the even one. -/
def RoundingInterval.pointAt (interval : RoundingInterval) (place : Int) : Option Scientific :=
  let numerator := interval.middle * twoTo interval.exponent * tenTo (-place)
  let denominator := tenTo place * twoTo (-interval.exponent)
  let below := numerator / denominator
  let nearest := Double.roundQuotient numerator denominator
  let other := if nearest = below then below + 1 else below
  if nearest ≠ 0 ∧ interval.holds nearest place then some ⟨nearest, place⟩
  else if other ≠ 0 ∧ interval.holds other place then some ⟨other, place⟩
  else none

/-- The places to try, from one above the leading digit down to one that is fine enough. -/
def RoundingInterval.places (interval : RoundingInterval) : List Int :=
  let whole := interval.middle * twoTo interval.exponent / twoTo (-interval.exponent)
  let leading : Nat := (Nat.toDigits 10 whole).length
  (List.range (leading + 345)).map fun (step : Nat) => (leading : Int) - step

/-- The shortest decimal that reads back as the magnitude, which must not be zero. -/
def shortest (magnitude : Nat) : Scientific :=
  let interval := RoundingInterval.of magnitude
  (interval.places.findSome? interval.pointAt).getD ⟨0, 0⟩

/-- A double of magnitude one half is written with one digit. -/
example : shortest (1022 * normalBound) = ⟨5, -1⟩ := by decide +kernel

end Gateway.Decimal
