/-
This file says which octets and which characters count as blank. A body of blank octets
holds nothing, and a request line of blank characters is empty; the two notions differ, and
the reader of JSON knows a third one that is narrower than both.
-/

namespace Gateway.Text

/-- The octets that leave a body empty: space, tab, line feed, form feed and carriage return. -/
def isBlankOctet (octet : UInt8) : Bool :=
  octet == 0x20 || octet == 0x09 || octet == 0x0A || octet == 0x0C || octet == 0x0D

/-- The characters that JSON allows between its tokens. -/
def isJsonBlank (character : Char) : Bool :=
  character == ' ' || character == '\t' || character == '\n' || character == '\r'

/-- The characters with the White_Space property, as inclusive ranges of code points. -/
def whiteSpaceRanges : List (Nat × Nat) :=
  [(0x09, 0x0D), (0x20, 0x20), (0x85, 0x85), (0xA0, 0xA0), (0x1680, 0x1680), (0x2000, 0x200A),
    (0x2028, 0x2029), (0x202F, 0x202F), (0x205F, 0x205F), (0x3000, 0x3000)]

/-- Whether the character has the White_Space property. -/
def isWhiteSpace (character : Char) : Bool :=
  whiteSpaceRanges.any fun range =>
    range.1 ≤ character.toNat && character.toNat ≤ range.2

end Gateway.Text
