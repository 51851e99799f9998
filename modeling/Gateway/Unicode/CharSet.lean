/-
This file defines sets of code points as ranges in ascending order with gaps between them. In this
form a look-up may stop at the first range that starts behind the code point, and the complement is
read off the gaps. Tables write a set as text: a code point or a range in hexadecimal digits, or a
range with a slash and a step, for every so many code points of it.
-/

namespace Gateway.Unicode

/-- The last code point. -/
def lastCodePoint : Nat := 0x10FFFF

/-- A set of code points, as inclusive ranges. -/
structure CharSet where
  ranges : List (Nat × Nat)
  deriving DecidableEq, Repr, Inhabited

namespace CharSet

/-- Whether one of the ranges, which ascend, holds the code point. -/
def inRanges (point : Nat) : List (Nat × Nat) → Bool
  | [] => false
  | (low, high) :: rest =>
    if point < low then false else if point ≤ high then true else inRanges point rest

/-- Whether the set holds the code point. -/
def holds (set : CharSet) (point : Nat) : Bool :=
  inRanges point set.ranges

/-- Whether the set holds the character. -/
def contains (set : CharSet) (character : Char) : Bool :=
  set.holds character.toNat

/-- The range from `low` to `high` and the ranges behind it, ordered by their starts, with those
joined that overlap or touch. -/
def joinFrom (low high : Nat) : List (Nat × Nat) → List (Nat × Nat)
  | [] => [(low, high)]
  | (nextLow, nextHigh) :: rest =>
    if nextLow ≤ high + 1 then joinFrom low (max high nextHigh) rest
    else (low, high) :: joinFrom nextLow nextHigh rest

/-- Joins ranges, ordered by their starts, that overlap or touch. -/
def join : List (Nat × Nat) → List (Nat × Nat)
  | [] => []
  | (low, high) :: rest => joinFrom low high rest

/-- The set of all code points in the ranges, which may come in any order and overlap. -/
def ofRanges (ranges : List (Nat × Nat)) : CharSet :=
  let sorted := ranges.mergeSort fun first second => first.1 ≤ second.1
  ⟨join (sorted.filter fun range => range.1 ≤ range.2)⟩

/-- The set without members. -/
def empty : CharSet := ⟨[]⟩

/-- The set of all code points. -/
def full : CharSet := ⟨[(0, lastCodePoint)]⟩

/-- The set of one character. -/
def singleton (character : Char) : CharSet :=
  ⟨[(character.toNat, character.toNat)]⟩

/-- The set of the code points from the first to the second. -/
def interval (low high : Nat) : CharSet :=
  ofRanges [(low, high)]

/-- The code point of the character behind the one of a code point: surrogates are no characters. -/
def pointAfter (point : Nat) : Nat :=
  if point = 0xD7FF then 0xE000 else point + 1

/-- The code point of the character before the one of a code point. -/
def pointBefore (point : Nat) : Nat :=
  if point = 0xE000 then 0xD7FF else point - 1

/-- The gaps between ascending ranges, from the given code point on. -/
def gaps (start : Nat) : List (Nat × Nat) → List (Nat × Nat)
  | [] => if start ≤ lastCodePoint then [(start, lastCodePoint)] else []
  | (low, high) :: rest =>
    if start < low then (start, pointBefore low) :: gaps (pointAfter high) rest
    else gaps (pointAfter high) rest

/-- The code points outside the set. -/
def complement (set : CharSet) : CharSet :=
  ⟨gaps 0 set.ranges⟩

/-- The ranges between each range and the next. Where two of them meet across the surrogates no
character lies between them, and the two characters on the sides stand for the gap. -/
def between : List (Nat × Nat) → List (Nat × Nat)
  | (_, high) :: (low, last) :: rest =>
    let first := pointAfter high
    let final := pointBefore low
    (min first final, max first final) :: between ((low, last) :: rest)
  | _ => []

/-- The set that a pattern means by the negation of a set: what lies before the first range,
between the ranges and behind the last one. It is the complement, apart from sets that hold the
characters on both sides of the surrogates in ranges of their own. -/
def negated (set : CharSet) : CharSet :=
  match set.ranges, set.ranges.getLast? with
  | (low, _) :: _, some (_, high) =>
    ⟨(if 0 < low then [(0, pointBefore low)] else []) ++ between set.ranges ++
      (if high < lastCodePoint then [(pointAfter high, lastCodePoint)] else [])⟩
  | _, _ => full

/-- The code points in either set. -/
def union (first second : CharSet) : CharSet :=
  ofRanges (first.ranges ++ second.ranges)

/-- The code points in one of the sets. -/
def unions (sets : List CharSet) : CharSet :=
  ofRanges (sets.flatMap ranges)

/-- The code points in both sets. -/
def inter (first second : CharSet) : CharSet :=
  ofRanges (first.ranges.flatMap fun range =>
    (second.ranges.filter fun other => range.1 ≤ other.2 ∧ other.1 ≤ range.2).map fun other =>
      (max range.1 other.1, min range.2 other.2))

/-- What ascending ranges leave over of the range from `low` to `high`. -/
def leftOver (low high : Nat) : List (Nat × Nat) → List (Nat × Nat)
  | [] => if low ≤ high then [(low, high)] else []
  | (first, last) :: rest =>
    if last < low then leftOver low high rest
    else if high < first then if low ≤ high then [(low, high)] else []
    else
      (if low < first then [(low, pointBefore first)] else []) ++
        leftOver (pointAfter last) high rest

/-- The code points in the first set and not in the second. -/
def difference (first second : CharSet) : CharSet :=
  ⟨first.ranges.flatMap fun range => leftOver range.1 range.2 second.ranges⟩

/-- The code points in exactly one of the sets. -/
def symmetricDifference (first second : CharSet) : CharSet :=
  (first.union second).difference (first.inter second)

/-! ### Tables -/

/-- The value of hexadecimal digits. -/
def hexValue (digits : List Char) : Nat :=
  digits.foldl
    (fun value digit =>
      value * 16 +
        (if digit.isDigit then digit.toNat - '0'.toNat else digit.toNat - 'A'.toNat + 10))
    0

/-- The ranges that one word of a table writes. -/
def wordRanges (word : String) : List (Nat × Nat) :=
  let characters := word.toList
  let low := characters.takeWhile fun character => character != '-'
  let rest := (characters.dropWhile fun character => character != '-').drop 1
  let high := rest.takeWhile fun character => character != '/'
  let first := hexValue low
  if rest.isEmpty then [(first, first)]
  else
    let last := hexValue high
    let step := hexValue ((rest.dropWhile fun character => character != '/').drop 1)
    if step = 0 then [(first, last)]
    else
      (List.range ((last - first) / step + 1)).map fun index =>
        (first + step * index, first + step * index)

/-- The set that the lines of a table write. -/
def ofTable (lines : List String) : CharSet :=
  ofRanges (lines.flatMap fun line => (line.splitOn " ").flatMap wordRanges)

end CharSet

end Gateway.Unicode
