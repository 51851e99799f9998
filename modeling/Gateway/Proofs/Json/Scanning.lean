/-
This file proves that the smallest pieces of text scan back as what they were written from. A quoted
text scans as pieces that spell it, whichever style has quoted it, as long as the style escapes what
ends or opens an escape and gives every character an escape of its own. An integer scans as a
numeral that is worth it, where nothing behind it could belong to a numeral.
-/

import Gateway.Json.Printer
import Gateway.Json.Token

namespace Gateway

/-! ### Hexadecimal digits -/

namespace Text

theorem hexValue?_hexDigit : ∀ value < 16, hexValue? (hexDigit value) = some value := by
  decide

theorem printed_hexDigit : ∀ value < 16, 0x20 ≤ (hexDigit value).toNat := by
  decide

theorem printed_of_mem_hexFour {value : Nat} {digit : Char} (inside : digit ∈ hexFour value) :
    0x20 ≤ digit.toNat := by
  have printed (part : Nat) : 0x20 ≤ (hexDigit (part % 16)).toNat :=
    printed_hexDigit _ (Nat.mod_lt _ (by decide))
  simp only [hexFour, List.mem_cons, List.not_mem_nil, or_false] at inside
  rcases inside with rfl | rfl | rfl | rfl <;> exact printed _

end Text

theorem printed_of_escapedCharacter? {letter character : Char}
    (escaped : escapedCharacter? letter = some character) : 0x20 ≤ letter.toNat := by
  unfold escapedCharacter? at escaped
  split at escaped
  all_goals first
    | decide
    | cases escaped

/-! ### Quoted text -/

namespace TextUnit

/-- A code unit that is the number of a character spells it, whatever follows: no character is a
surrogate. -/
theorem spell_codeUnit_toNat (character : Char) (rest : List TextUnit) :
    spell (.codeUnit character.toNat :: rest) = (character :: ·) <$> spell rest := by
  have valid : character.toNat < 0xD800 ∨ 0xDFFF < character.toNat ∧ character.toNat < 0x110000 :=
    character.valid
  have alone : ¬ (0xD800 ≤ character.toNat ∧ character.toNat < 0xE000) := by omega
  have noHigh : ¬ (0xD800 ≤ character.toNat ∧ character.toNat < 0xDC00) := by omega
  have noLow : ¬ (0xDC00 ≤ character.toNat ∧ character.toNat < 0xE000) := by omega
  rcases rest with _ | ⟨_ | _, _⟩
  · simp only [spell, if_neg alone, Char.ofNat_toNat]
  · simp only [spell, if_neg alone, Char.ofNat_toNat]
  · simp only [spell, if_neg noHigh, if_neg noLow, Char.ofNat_toNat]

end TextUnit

namespace Text.QuotingStyle

/-- The piece that scanning finds in the place of a character. -/
def unit (style : QuotingStyle) (character : Char) : TextUnit :=
  match style.letter character with
  | some _ => .character character
  | none => if style.numbered character then .codeUnit character.toNat else .character character

/-- The pieces that scanning finds in a quoted text. -/
def units (style : QuotingStyle) (text : List Char) : List TextUnit :=
  text.map style.unit

/-- A reader can undo the style: its letters stand for their characters, four digits are enough for
the characters that it numbers, and what it leaves as it is may stand between quotes. -/
structure Legible (style : QuotingStyle) : Prop where
  letter {character letter : Char} (has : style.letter character = some letter) :
    escapedCharacter? letter = some character
  numbered {character : Char} (none : style.letter character = none)
    (isNumbered : style.numbered character = true) : character.toNat < 0x10000
  plain {character : Char} (none : style.letter character = none)
    (isPlain : style.numbered character = false) :
    0x20 ≤ character.toNat ∧ character ≠ '"' ∧ character ≠ '\\'

theorem legible_json : Legible json where
  letter {character letter} has := by
    simp only [json] at has
    split at has <;> cases has <;> rfl
  numbered {character} _ isNumbered := by
    simp only [json, decide_eq_true_eq] at isNumbered
    omega
  plain {character} none isPlain := by
    simp only [json, decide_eq_false_iff_not] at isPlain
    refine ⟨by omega, ?_, ?_⟩ <;> rintro rfl <;> cases none

theorem legible_log : Legible log where
  letter {character letter} has := by
    simp only [log] at has
    split at has <;> cases has <;> rfl
  numbered {character} _ isNumbered := by
    simp only [log, Bool.or_eq_true, Bool.and_eq_true, decide_eq_true_eq] at isNumbered
    omega
  plain {character} none isPlain := by
    simp only [log, Bool.or_eq_false_iff, decide_eq_false_iff_not] at isPlain
    refine ⟨by omega, ?_, ?_⟩ <;> rintro rfl <;> cases none

variable {style : QuotingStyle}

theorem spell_units (style : QuotingStyle) (text : List Char) :
    TextUnit.spell (style.units text) = some text := by
  induction text with
  | nil => rfl
  | cons character rest inductionHypothesis =>
    have head : TextUnit.spell (style.unit character :: style.units rest) =
        (character :: ·) <$> TextUnit.spell (style.units rest) := by
      unfold unit
      split
      · rfl
      · split
        · exact TextUnit.spell_codeUnit_toNat character _
        · rfl
    exact head.trans (by rw [inductionHypothesis]; rfl)

/-- No control character stands in the place of a character. -/
theorem printed_of_mem_escape (legible : style.Legible) {original piece : Char}
    (inside : piece ∈ style.escape original) : 0x20 ≤ piece.toNat := by
  rw [escape] at inside
  split at inside
  · next letter has =>
    rcases List.mem_cons.mp inside with rfl | isLetter
    · decide
    · exact List.mem_singleton.mp isLetter ▸ printed_of_escapedCharacter? (legible.letter has)
  · next none =>
    split at inside
    · rcases List.mem_cons.mp inside with rfl | inside
      · decide
      · rcases List.mem_cons.mp inside with rfl | isDigit
        · decide
        · exact printed_of_mem_hexFour isDigit
    · next isPlain =>
      obtain rfl := List.mem_singleton.mp inside
      exact (legible.plain none (Bool.eq_false_iff.mpr isPlain)).1

/-- No control character stands in a quoted text. -/
theorem printed_of_mem_quote (legible : style.Legible) {text : String} {character : Char}
    (inside : character ∈ style.quote text) : 0x20 ≤ character.toNat := by
  rw [quote, List.mem_cons, List.mem_append, List.mem_singleton] at inside
  rcases inside with rfl | inText | rfl
  · decide
  · obtain ⟨original, -, isPiece⟩ := List.mem_flatMap.mp inText
    exact printed_of_mem_escape legible isPiece
  · decide

end Text.QuotingStyle

section

open Text (QuotingStyle)

variable {style : QuotingStyle}

/-- Four digits are scanned as the code unit that they are the digits of. -/
theorem scanText_hexFour {value : Nat} (fits : value < 0x10000) (rest : List Char) :
    scanText ('\\' :: 'u' :: (Text.hexFour value ++ rest)) =
      (scanText rest).map fun result => (.codeUnit value :: result.1, result.2) := by
  have digit (part : Nat) : Text.hexValue? (Text.hexDigit (part % 16)) = some (part % 16) :=
    Text.hexValue?_hexDigit _ (Nat.mod_lt _ (by decide))
  have whole : ((value / 4096 % 16) * 16 + value / 256 % 16) * 256 +
      ((value / 16 % 16) * 16 + value % 16) = value := by omega
  simp only [Text.hexFour, List.cons_append, List.nil_append]
  rw [scanText]
  simp only [digit, Option.bind_eq_bind, Option.bind_some, Option.pure_def, whole]
  cases scanText rest <;> rfl

theorem scanText_letter {letter character : Char}
    (escaped : escapedCharacter? letter = some character) (rest : List Char) :
    scanText ('\\' :: letter :: rest) =
      (scanText rest).map fun result => (.character character :: result.1, result.2) := by
  have other : letter ≠ 'u' := by
    rintro rfl
    cases escaped
  rw [scanText]
  · simp only [escaped, Option.bind_eq_bind, Option.bind_some, Option.pure_def]
    cases scanText rest <;> rfl
  · exact fun _ _ _ _ _ same _ => other same

theorem scanText_plain {character : Char} (printed : 0x20 ≤ character.toNat)
    (noQuote : character ≠ '"') (noBackslash : character ≠ '\\') (rest : List Char) :
    scanText (character :: rest) =
      (scanText rest).map fun result => (.character character :: result.1, result.2) := by
  have stands : ¬ (character.toNat < 0x20 ∨ character = '\\') :=
    fun refused => refused.elim (Nat.not_lt.mpr printed) noBackslash
  rw [scanText]
  · rw [if_neg stands]
    cases scanText rest <;> rfl
  · exact noQuote
  · exact fun _ _ _ _ _ same _ => noBackslash same
  · exact fun _ _ same _ => noBackslash same

/-- A character scans as its piece. -/
theorem scanText_escape (legible : style.Legible) (character : Char) (rest : List Char) :
    scanText (style.escape character ++ rest) =
      (scanText rest).map fun result => (style.unit character :: result.1, result.2) := by
  cases has : style.letter character with
  | some letter =>
    simp only [QuotingStyle.escape, QuotingStyle.unit, has]
    exact scanText_letter (legible.letter has) rest
  | none =>
    cases numbered : style.numbered character with
    | true =>
      simp only [QuotingStyle.escape, QuotingStyle.unit, has, numbered, if_true]
      exact scanText_hexFour (legible.numbered has numbered) rest
    | false =>
      simp only [QuotingStyle.escape, QuotingStyle.unit, has, numbered, Bool.false_eq_true,
        if_false]
      obtain ⟨printed, noQuote, noBackslash⟩ := legible.plain has numbered
      exact scanText_plain printed noQuote noBackslash rest

/-- A quoted text scans as the pieces of its characters, up to its closing quote. -/
theorem scanText_escapeAll (legible : style.Legible) (text rest : List Char) :
    scanText (style.escapeAll text ++ '"' :: rest) = some (style.units text, rest) := by
  induction text with
  | nil => rw [QuotingStyle.escapeAll_nil, List.nil_append, scanText]; rfl
  | cons character remaining inductionHypothesis =>
    rw [QuotingStyle.escapeAll_cons, List.append_assoc, scanText_escape legible,
      inductionHypothesis]
    rfl

theorem tokens_quote (legible : style.Legible) (text : String) (rest : List Char) :
    tokens (style.quote text ++ rest) = .text (style.units text.toList) :: tokens rest := by
  have scanned := scanText_escapeAll legible text.toList rest
  rw [QuotingStyle.quote, List.cons_append, List.append_assoc, List.singleton_append, tokens]
  split
  · next failed => cases scanned.symm.trans failed
  · next units after found =>
    obtain ⟨rfl, rfl⟩ := Prod.mk.inj (Option.some.inj (scanned.symm.trans found))
    rfl

end

/-! ### Integers -/

/-- What follows cannot belong to a numeral. -/
def EndsNumeral (rest : List Char) : Prop :=
  ∀ character ∈ rest.head?, character.isDigit = false ∧ character ≠ '.' ∧ character ≠ 'e' ∧
    character ≠ 'E'

/-- What follows does not begin with a digit. -/
def EndsDigits (rest : List Char) : Prop :=
  ∀ character ∈ rest.head?, character.isDigit = false

theorem endsDigits_cons {character : Char} (other : character.isDigit = false)
    (rest : List Char) : EndsDigits (character :: rest) := by
  rintro _ ⟨⟩
  exact other

theorem EndsNumeral.digits {rest : List Char} (ends : EndsNumeral rest) : EndsDigits rest :=
  fun character first => (ends character first).1

theorem scanDigits_append {digits rest : List Char} (all : ∀ digit ∈ digits, digit.isDigit = true)
    (ends : EndsDigits rest) : scanDigits (digits ++ rest) = (digits, rest) := by
  induction digits with
  | nil =>
    cases rest with
    | nil => rfl
    | cons character further =>
      have other : ¬ character.isDigit = true := by simp [ends character rfl]
      exact if_neg other
  | cons digit further inductionHypothesis =>
    obtain ⟨here, others⟩ := List.forall_mem_cons.mp all
    rw [List.cons_append, scanDigits, if_pos here, inductionHypothesis others]

/-- Digits that start with a zero only where there is no other digit are a whole part. -/
theorem scanWhole_append {digits rest : List Char} (all : ∀ digit ∈ digits, digit.isDigit = true)
    (filled : digits ≠ []) (canonical : ∀ further, digits = '0' :: further → further = [])
    (ends : EndsDigits rest) : scanWhole (digits ++ rest) = some (digits, rest) := by
  rw [scanWhole, scanDigits_append all ends]
  split
  · next empty => exact absurd (congrArg Prod.fst empty) filled
  · next zero => cases canonical _ (congrArg Prod.fst zero)
  · next same => exact congrArg some same.symm

theorem scanFraction_of_ends {rest : List Char} (ends : EndsNumeral rest) :
    scanFraction rest = some ([], rest) := by
  unfold scanFraction
  split
  · exact absurd rfl (ends '.' rfl).2.1
  · rfl

theorem scanExponent_of_ends {rest : List Char} (ends : EndsNumeral rest) :
    scanExponent rest = some (none, rest) := by
  unfold scanExponent
  split
  all_goals first
    | exact absurd rfl (ends 'e' rfl).2.2.1
    | exact absurd rfl (ends 'E' rfl).2.2.2
    | rfl

namespace Decimal

theorem isDigit_of_mem_naturalText {value : Nat} {digit : Char}
    (inside : digit ∈ naturalText value) : digit.isDigit = true :=
  Nat.isDigit_of_mem_toDigits (by decide) (by decide) inside

/-- The digits of a natural start with a zero only where there is no other digit. -/
theorem naturalText_eq_zero_cons {value : Nat} {rest : List Char}
    (starts : naturalText value = '0' :: rest) : rest = [] := by
  induction value using Nat.strongRecOn generalizing rest with
  | ind value inductionHypothesis =>
    by_cases small : value < 10
    · rw [naturalText, Nat.toDigits_of_lt_base small] at starts
      exact (List.cons.inj starts).2.symm
    · rw [naturalText, Nat.toDigits_of_base_le (by decide) (Nat.not_lt.mp small)] at starts
      cases leading : Nat.toDigits 10 (value / 10) with
      | nil => exact absurd leading Nat.toDigits_ne_nil
      | cons first others =>
        rw [leading] at starts
        obtain ⟨rfl, -⟩ := List.cons.inj starts
        have lone : others = [] := inductionHypothesis (value / 10) (by omega) leading
        -- a lone zero is the text of zero, and the leading digits are worth one at least
        have worth := Nat.ofDigitChars_ten_toDigits (n := value / 10)
        rw [leading, lone] at worth
        have zero : Nat.ofDigitChars 10 ['0'] 0 = 0 := rfl
        omega

theorem digitsValue_naturalText (value : Nat) : digitsValue (naturalText value) = value := by
  rw [digitsValue_eq_ofDigitChars, naturalText, Nat.ofDigitChars_ten_toDigits]

theorem exists_naturalText_eq_cons (value : Nat) :
    ∃ digit rest, naturalText value = digit :: rest ∧ digit.isDigit = true := by
  cases digits : naturalText value with
  | nil => exact absurd digits Nat.toDigits_ne_nil
  | cons digit rest =>
    exact ⟨digit, rest, rfl, isDigit_of_mem_naturalText (digits ▸ List.mem_cons_self)⟩

theorem exists_integerText_eq_cons (value : Int) :
    ∃ first rest, integerText value = first :: rest ∧ (first = '-' ∨ first.isDigit = true) := by
  unfold integerText
  split
  · exact ⟨'-', _, rfl, Or.inl rfl⟩
  · obtain ⟨digit, rest, digits, isDigit⟩ := exists_naturalText_eq_cons value.natAbs
    exact ⟨digit, rest, digits, Or.inr isDigit⟩

theorem scanWhole_naturalText (value : Nat) {rest : List Char} (ends : EndsDigits rest) :
    scanWhole (naturalText value ++ rest) = some (naturalText value, rest) :=
  scanWhole_append (fun _ => isDigit_of_mem_naturalText) Nat.toDigits_ne_nil
    (fun _ => naturalText_eq_zero_cons) ends

end Decimal

namespace Numeral

/-- The numeral of an integer. -/
def ofInteger (value : Int) : Numeral :=
  ⟨value < 0, Decimal.naturalText value.natAbs, [], none⟩

theorem number?_ofInteger {value : Int}
    (fits : -0x8000000000000000 ≤ value ∧ value < 0x10000000000000000) :
    (ofInteger value).number? = some (.integer value fits) := by
  have worth : (if decide (value < 0) then -(value.natAbs : Int) else value.natAbs) = value := by
    by_cases negative : value < 0
    · simp only [negative, decide_true, if_true]
      omega
    · simp only [negative, decide_false, Bool.false_eq_true, if_false]
      omega
  have noMinusZero : ¬ (decide (value < 0) = true ∧ value.natAbs = 0) := by
    simp only [decide_eq_true_eq]
    omega
  have integer : (ofInteger value).integer? = some (.integer value fits) := by
    simp only [integer?, ofInteger, Decimal.digitsValue_naturalText, worth, fits, noMinusZero]
    simp
  rw [number?, integer]

end Numeral

theorem scanUnsigned_of_parts {input afterWhole afterFraction rest whole fraction : List Char}
    {exponent : Option (Bool × List Char)} (negative : Bool)
    (scannedWhole : scanWhole input = some (whole, afterWhole))
    (scannedFraction : scanFraction afterWhole = some (fraction, afterFraction))
    (scannedExponent : scanExponent afterFraction = some (exponent, rest)) :
    scanUnsigned negative input = some (⟨negative, whole, fraction, exponent⟩, rest) := by
  simp only [scanUnsigned, scannedWhole, scannedFraction, scannedExponent, Option.bind_eq_bind,
    Option.bind_some, Option.pure_def]

/-- A numeral that starts with a digit has no sign. -/
theorem scanNumeral_of_isDigit {digit : Char} (isDigit : digit.isDigit = true)
    (rest : List Char) : scanNumeral (digit :: rest) = scanUnsigned false (digit :: rest) := by
  rw [scanNumeral]
  intro further same
  obtain ⟨rfl, -⟩ := List.cons.inj same
  cases isDigit

/-- An integer scans as its numeral. -/
theorem scanNumeral_integerText (value : Int) {rest : List Char} (ends : EndsNumeral rest) :
    scanNumeral (Decimal.integerText value ++ rest) = some (.ofInteger value, rest) := by
  have unsigned (negative : Bool) :
      scanUnsigned negative (Decimal.naturalText value.natAbs ++ rest) =
        some (⟨negative, Decimal.naturalText value.natAbs, [], none⟩, rest) :=
    scanUnsigned_of_parts negative (Decimal.scanWhole_naturalText _ ends.digits)
      (scanFraction_of_ends ends) (scanExponent_of_ends ends)
  rw [Decimal.integerText, Numeral.ofInteger]
  by_cases negative : value < 0
  · rw [if_pos negative, decide_eq_true negative]
    exact unsigned true
  · rw [if_neg negative, decide_eq_false negative, ← unsigned false]
    obtain ⟨digit, others, digits, isDigit⟩ := Decimal.exists_naturalText_eq_cons value.natAbs
    rw [digits, List.cons_append]
    exact scanNumeral_of_isDigit isDigit _

/-- A minus sign or a digit can start nothing but a numeral. -/
theorem tokens_of_scanNumeral {first : Char} {rest after : List Char} {numeral : Numeral}
    (starts : first = '-' ∨ first.isDigit = true)
    (scanned : scanNumeral (first :: rest) = some (numeral, after)) :
    tokens (first :: rest) = .numeral numeral :: tokens after := by
  have other {character : Char} (unlike : character ≠ '-' ∧ character.isDigit = false) :
      first ≠ character := by
    rintro rfl
    rcases starts with minus | digit
    · exact unlike.1 minus
    · cases unlike.2.symm.trans digit
  have noBlank : ¬ Text.isJsonBlank first = true := by
    simp only [Text.isJsonBlank, Bool.or_eq_true, beq_iff_eq]
    rintro (((blank | blank) | blank) | blank) <;> exact other ⟨by decide, by decide⟩ blank
  rw [tokens]
  · rw [if_neg noBlank]
    split
    · next failed => cases scanned.symm.trans failed
    · next found =>
      obtain ⟨rfl, rfl⟩ := Prod.mk.inj (Option.some.inj (scanned.symm.trans found))
      rfl
  all_goals first
    | exact other ⟨by decide, by decide⟩
    | exact fun _ same _ => other ⟨by decide, by decide⟩ same

theorem tokens_integerText (value : Int) {rest : List Char} (ends : EndsNumeral rest) :
    tokens (Decimal.integerText value ++ rest) = .numeral (.ofInteger value) :: tokens rest := by
  have scanned := scanNumeral_integerText value ends
  obtain ⟨first, others, text, starts⟩ := Decimal.exists_integerText_eq_cons value
  rw [text, List.cons_append] at scanned ⊢
  exact tokens_of_scanNumeral starts scanned

end Gateway
