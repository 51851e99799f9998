/-
This file reads octets as UTF-8. Strict reading fails on the first octet that no character can
hold; forgiving reading puts U+FFFD in place of each longest broken piece and goes on. The
forgiving reader is a machine whose state says how many octets the open character still owes.
-/

namespace Gateway.Text

/-- The text that the octets spell, or none when they are not UTF-8. -/
def ofUtf8? (octets : List UInt8) : Option String :=
  String.fromUTF8? ⟨octets.toArray⟩

/-- The octets of the text. -/
def utf8 (text : String) : List UInt8 :=
  text.toUTF8.data.toList

theorem ofUtf8?_utf8 (text : String) : ofUtf8? (utf8 text) = some text := by
  have valid : text.toByteArray.IsValidUTF8 := text.isValidUTF8
  simp [ofUtf8?, utf8, String.fromUTF8?, String.toUTF8, valid]
  rfl

/-! ### Forgiving reading -/

/-- A character whose first octets were read: the octets it owes, the bounds of the next one,
and the bits gathered so far. -/
structure OpenCharacter where
  owed : Nat
  low : UInt8
  high : UInt8
  bits : Nat
  deriving DecidableEq, Repr

/-- The character that stands in for octets which spell none. -/
def replacement : Char := '\uFFFD'

/-- What an octet means at the start of a character: one whole character, or an open one. -/
def beginCharacter (octet : UInt8) : Char ⊕ OpenCharacter :=
  if octet < 0x80 then .inl (Char.ofNat octet.toNat)
  else if 0xC2 ≤ octet ∧ octet ≤ 0xDF then .inr ⟨1, 0x80, 0xBF, octet.toNat - 0xC0⟩
  else if octet = 0xE0 then .inr ⟨2, 0xA0, 0xBF, 0⟩
  else if octet = 0xED then .inr ⟨2, 0x80, 0x9F, 0xD⟩
  else if 0xE1 ≤ octet ∧ octet ≤ 0xEF then .inr ⟨2, 0x80, 0xBF, octet.toNat - 0xE0⟩
  else if octet = 0xF0 then .inr ⟨3, 0x90, 0xBF, 0⟩
  else if octet = 0xF4 then .inr ⟨3, 0x80, 0x8F, 4⟩
  else if 0xF1 ≤ octet ∧ octet ≤ 0xF3 then .inr ⟨3, 0x80, 0xBF, octet.toNat - 0xF0⟩
  else .inl replacement

/-- The characters that follow an open character, or none, over the remaining octets. An octet
outside the bounds closes the open character as broken and starts the next one. -/
def forgivingFrom : Option OpenCharacter → List UInt8 → List Char
  | none, [] => []
  | some _, [] => [replacement]
  | none, octet :: rest =>
    match beginCharacter octet with
    | .inl character => character :: forgivingFrom none rest
    | .inr opened => forgivingFrom (some opened) rest
  | some pending, octet :: rest =>
    if pending.low ≤ octet ∧ octet ≤ pending.high then
      let bits := pending.bits * 64 + (octet.toNat - 0x80)
      if pending.owed ≤ 1 then Char.ofNat bits :: forgivingFrom none rest
      else forgivingFrom (some ⟨pending.owed - 1, 0x80, 0xBF, bits⟩) rest
    else
      replacement ::
        match beginCharacter octet with
        | .inl character => character :: forgivingFrom none rest
        | .inr opened => forgivingFrom (some opened) rest

/-- The text of the octets, with U+FFFD for every broken piece. -/
def forgiving (octets : List UInt8) : String :=
  String.ofList (forgivingFrom none octets)

end Gateway.Text
