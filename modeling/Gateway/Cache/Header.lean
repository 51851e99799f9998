/-
This file reads a cache policy from the text of a header. The text is scanned for words and not
taken apart: a word counts wherever it stands, also inside a longer one. A word for an age counts at
the leftmost place where a decimal digit of any script follows it, and all the digits there are its
age; an age that is not written in ASCII digits, or does not fit, counts as none, and no later place
is looked at instead.
-/

import Gateway.Cache.Policy
import Gateway.Json.Numeral
import Gateway.Unicode.DecimalDigit

namespace Gateway.CacheHeader

/-- The word that forbids caching. -/
def noCacheWord : List Char := "no-cache".toList

/-- The word before the age for every cache. -/
def maxAgeWord : List Char := "max-age=".toList

/-- The word before the age for shared caches. -/
def sharedMaxAgeWord : List Char := "s-maxage=".toList

/-- Whether the word stands anywhere in the text. -/
def occurs (word : List Char) : List Char → Bool
  | [] => word.isEmpty
  | character :: rest => word.isPrefixOf (character :: rest) || occurs word rest

/-- The digits at the front of the text. -/
def leadingDigits (text : List Char) : List Char :=
  text.takeWhile Unicode.isDecimalDigit

/-- The digits behind the leftmost place of the word that a digit follows. -/
def digitsBehind? (word : List Char) : List Char → Option (List Char)
  | [] => none
  | character :: rest =>
    let behind := leadingDigits ((character :: rest).drop word.length)
    if word.isPrefixOf (character :: rest) && !behind.isEmpty then some behind
    else digitsBehind? word rest

/-- The seconds that a run of digits writes. -/
def seconds? (digits : List Char) : Option Int64 :=
  if digits.all Char.isDigit && digitsValue digits < 0x8000000000000000 then
    some (Int64.ofNat (digitsValue digits))
  else none

/-- The age behind a word. -/
def age? (word text : List Char) : Option Int64 :=
  (digitsBehind? word text).bind seconds?

/-- The policy of a header's text, when the text says anything. -/
def policy? (header : String) : Option CachePolicy :=
  let text := header.toList
  if occurs noCacheWord text then some CachePolicy.forbidden
  else CachePolicy.ofAges? (age? maxAgeWord text) (age? sharedMaxAgeWord text)

end Gateway.CacheHeader
