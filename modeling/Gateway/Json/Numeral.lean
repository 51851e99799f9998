/-
This file gives a numeral its number. An integer that fits 64 bits, with a sign or without one, is
kept exactly; the negative zero and every other numeral become doubles. A numeral's digits are
gathered into a significand as long as it fits 64 bits, and the double is the rounded significand
scaled by a power of ten, in one step or, far below one, in two. A numeral beyond the finite
doubles has no number.
-/

import Gateway.Json.Basic

namespace Gateway

open Decimal (Double)

/-- A numeral of JSON text, by its parts. Every list holds decimal digits. -/
structure Numeral where
  negative : Bool
  whole : List Char
  /-- Empty when there is no decimal point. -/
  fraction : List Char
  /-- The sign and the digits behind the exponent mark, when there is one. -/
  exponent : Option (Bool × List Char)
  deriving DecidableEq, Repr

/-- The value of a decimal digit. -/
def digitValue (digit : Char) : Nat :=
  digit.toNat - '0'.toNat

/-- The value of a list of decimal digits. -/
def digitsValue (digits : List Char) : Nat :=
  digits.foldl (fun value digit => value * 10 + digitValue digit) 0

theorem digitsValue_eq_ofDigitChars (digits : List Char) :
    digitsValue digits = Nat.ofDigitChars 10 digits 0 := by
  simp only [digitsValue, digitValue, Nat.ofDigitChars_eq_foldl, Nat.mul_comm]

namespace Numeral

/-- The significand with the digits appended up to the first that does not fit 64 bits, and the
number of digits that were appended. -/
def absorb (significand : Nat) : List Char → Nat × Nat
  | [] => (significand, 0)
  | digit :: rest =>
    let larger := significand * 10 + digitValue digit
    if larger < 0x10000000000000000 then
      let (final, count) := absorb larger rest
      (final, count + 1)
    else (significand, 0)

/-- The magnitude of a power of ten. -/
def powerOfTen (exponent : Nat) : Nat :=
  Double.roundRatio (Decimal.tenTo exponent) 1

/-- The magnitude of significand · 10 ^ exponent. Above 10 ^ 308 only zero has one that is finite,
and below 10 ^ -616 every significand of 64 bits vanishes. -/
def scale (significand : Nat) (exponent : Int) : Nat :=
  let magnitude := Double.roundRatio significand 1
  if 308 < exponent then
    if significand = 0 then 0 else Decimal.magnitudeBound
  else if 0 ≤ exponent then Double.product magnitude (powerOfTen exponent.toNat)
  else if -308 ≤ exponent then Double.quotient magnitude (powerOfTen (-exponent).toNat)
  else if -616 ≤ exponent then
    Double.quotient (Double.quotient magnitude (powerOfTen 308))
      (powerOfTen (-exponent - 308).toNat)
  else 0

/-- The exponent that the numeral writes, zero when it writes none. -/
def writtenExponent (numeral : Numeral) : Int :=
  match numeral.exponent with
  | none => 0
  | some (negative, digits) => if negative then -(digitsValue digits : Int) else digitsValue digits

/-- The numeral as a double, when it is finite. -/
def real? (numeral : Numeral) : Option Number :=
  let (wholePart, wholeCount) := absorb 0 numeral.whole
  let (significand, fractionCount) := absorb wholePart numeral.fraction
  let dropped : Int := numeral.whole.length - wholeCount
  let exponent := dropped - fractionCount + numeral.writtenExponent
  (Double.ofMagnitude? numeral.negative (scale significand exponent)).map .real

/-- The numeral as an integer, when it has neither fraction nor exponent, fits 64 bits and is not
the negative zero. -/
def integer? (numeral : Numeral) : Option Number :=
  let magnitude := digitsValue numeral.whole
  let value : Int := if numeral.negative then -(magnitude : Int) else magnitude
  if numeral.fraction = [] ∧ numeral.exponent = none ∧ ¬(numeral.negative ∧ magnitude = 0) then
    if fits : -0x8000000000000000 ≤ value ∧ value < 0x10000000000000000 then
      some (.integer value fits)
    else none
  else none

/-- The number of the numeral, when it has one. -/
def number? (numeral : Numeral) : Option Number :=
  match numeral.integer? with
  | some number => some number
  | none => numeral.real?

end Numeral

end Gateway
