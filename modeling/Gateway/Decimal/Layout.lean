/-
This file writes a double as JSON text: the shortest digits, positional where the leading digit
stands between the fifth decimal place and the sixteenth whole one, and with an exponent elsewhere.
-/

import Gateway.Decimal.Shortest

namespace Gateway.Decimal

/-- The decimal digits of a natural. -/
def naturalText (value : Nat) : List Char :=
  Nat.toDigits 10 value

/-- The decimal digits of an integer, with a minus sign when it is negative. -/
def integerText (value : Int) : List Char :=
  if value < 0 then '-' :: naturalText value.natAbs else naturalText value.natAbs

/-- An exponent always carries its sign. -/
def exponentText (exponent : Int) : List Char :=
  (if exponent < 0 then '-' else '+') :: naturalText exponent.natAbs

/-- The digits, with the point put after the given number of them. -/
def positionalText (digits : List Char) (point : Int) : List Char :=
  if point ≤ 0 then
    '0' :: '.' :: (List.replicate (-point).toNat '0' ++ digits)
  else if digits.length ≤ point.toNat then
    digits ++ List.replicate (point.toNat - digits.length) '0' ++ ['.', '0']
  else
    digits.take point.toNat ++ '.' :: digits.drop point.toNat

/-- One digit, the others behind a point, and the exponent. -/
def scientificText (digits : List Char) (point : Int) : List Char :=
  let fraction := if digits.length ≤ 1 then [] else '.' :: digits.drop 1
  digits.take 1 ++ fraction ++ 'e' :: exponentText (point - 1)

/-- The text of a magnitude. Zero is written with one decimal place. -/
def magnitudeText (magnitude : Nat) : List Char :=
  if magnitude = 0 then ['0', '.', '0']
  else
    let decimal := shortest magnitude
    let digits := naturalText decimal.digits
    let point := (digits.length : Int) + decimal.exponent
    if -5 < point ∧ point ≤ 16 then positionalText digits point else scientificText digits point

/-- The text of a double. -/
def Double.text (double : Double) : List Char :=
  if double.negative then '-' :: magnitudeText double.magnitude else magnitudeText double.magnitude

end Gateway.Decimal
