/-
This file spells ranges of characters in UTF-8. A range is cut into pieces whose characters are
spelled by all combinations of octets from one range for each place: it is cut where the number of
octets changes, at the surrogates, and around blocks that begin or end within it.
-/

import Gateway.Unicode.CharSet

namespace Gateway

open Unicode (CharSet)

/-- An inclusive range of octets. -/
structure OctetRange where
  low : UInt8
  high : UInt8
  deriving DecidableEq

namespace OctetRange

/-- The last code points that are spelled with one, two and three octets, and the last one before
the surrogates. -/
def lastPoints : List Nat := [0x7F, 0x7FF, 0xD7FF, 0xFFFF]

/-- The range cut behind each of the given code points, which ascend. -/
def cutBehind (low high : Nat) : List Nat → List (Nat × Nat)
  | [] => [(low, high)]
  | point :: points =>
    if point < low ∨ high ≤ point then cutBehind low high points
    else (low, point) :: cutBehind (point + 1) high points

/-- The range without surrogates, cut where the number of octets changes. -/
def evenLengths (low high : Nat) : List (Nat × Nat) :=
  (cutBehind low high lastPoints).filterMap fun piece =>
    let first := if 0xD800 ≤ piece.1 ∧ piece.1 ≤ 0xDFFF then 0xE000 else piece.1
    if first ≤ piece.2 then some (first, piece.2) else none

/-- The sizes of the blocks of characters that differ only in their last octets. -/
def blockSizes : List Nat := [0x40, 0x1000, 0x40000]

/-- The range cut so that each piece lies within a block or consists of whole blocks, for blocks
of all the sizes, which ascend. -/
def cutBlocks (low high : Nat) : List Nat → List (Nat × Nat)
  | [] => [(low, high)]
  | block :: larger =>
    if low / block = high / block then [(low, high)]
    else
      let start := if low % block = 0 then low else (low / block + 1) * block
      let head := if low % block = 0 then [] else [(low, start - 1)]
      if start / block = high / block then head ++ [(start, high)]
      else
        let whole := high % block = block - 1
        let finish := if whole then high else high / block * block - 1
        let tail := if whole then [] else [(finish + 1, high)]
        head ++ cutBlocks start finish larger ++ tail

/-- The octets of all characters of a piece, place by place. -/
def ofPiece (piece : Nat × Nat) : List OctetRange :=
  List.zipWith OctetRange.mk (String.utf8EncodeChar (Char.ofNat piece.1))
    (String.utf8EncodeChar (Char.ofNat piece.2))

/-- The sequences of octet ranges that spell the characters of a range, in ascending order. What
is spelled with one octet needs no cut. -/
def sequences (low high : Nat) : List (List OctetRange) :=
  (evenLengths low high).flatMap fun piece =>
    let blocks := if piece.2 < 0x80 then [piece] else cutBlocks piece.1 piece.2 blockSizes
    blocks.map ofPiece

/-- The sequences of octet ranges that spell the characters of a set. -/
def ofSet (characters : CharSet) : List (List OctetRange) :=
  characters.ranges.flatMap fun range => sequences range.1 range.2

end OctetRange

end Gateway
