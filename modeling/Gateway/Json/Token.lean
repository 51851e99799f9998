/-
This file cuts JSON text into tokens. Cutting never fails: where no token starts, the tokens end
with a mark that no reader accepts, so a reader may judge the tokens before the mark first. The
escapes of a text are kept as code units until a reader asks for its characters, because text that
is only skipped may hold surrogates without a partner.
-/

import Gateway.Json.Numeral
import Gateway.Text.Blank
import Gateway.Text.Hexadecimal

namespace Gateway

/-- A piece of a quoted text: a character, or a code unit that was written by its number. -/
inductive TextUnit
  | character (value : Char)
  | codeUnit (value : Nat)
  deriving DecidableEq, Repr

namespace TextUnit

/-- The characters that the pieces spell: a high surrogate and the low one behind it spell one
character, and neither spells anything alone. -/
def spell : List TextUnit → Option (List Char)
  | [] => some []
  | .character value :: rest => (value :: ·) <$> spell rest
  | .codeUnit high :: .codeUnit low :: rest =>
    if 0xD800 ≤ high ∧ high < 0xDC00 then
      if 0xDC00 ≤ low ∧ low < 0xE000 then
        (Char.ofNat (0x10000 + (high - 0xD800) * 0x400 + (low - 0xDC00)) :: ·) <$> spell rest
      else none
    else if 0xDC00 ≤ high ∧ high < 0xE000 then none
    else (Char.ofNat high :: ·) <$> spell (.codeUnit low :: rest)
  | .codeUnit value :: rest =>
    if 0xD800 ≤ value ∧ value < 0xE000 then none else (Char.ofNat value :: ·) <$> spell rest

/-- The text that the pieces spell, when they spell one. -/
def text? (units : List TextUnit) : Option String :=
  (spell units).map String.ofList

end TextUnit

/-- The character that a one-letter escape stands for. -/
def escapedCharacter? : Char → Option Char
  | '"' => some '"'
  | '\\' => some '\\'
  | '/' => some '/'
  | 'b' => some '\x08'
  | 'f' => some '\x0c'
  | 'n' => some '\n'
  | 'r' => some '\r'
  | 't' => some '\t'
  | _ => none

/-- The pieces of a quoted text whose opening quote was read, and what follows its closing quote. -/
def scanText : List Char → Option (List TextUnit × List Char)
  | [] => none
  | '"' :: rest => some ([], rest)
  | '\\' :: 'u' :: first :: second :: third :: fourth :: rest => do
    let value :=
      ((← Text.hexValue? first) * 16 + (← Text.hexValue? second)) * 256 +
        ((← Text.hexValue? third) * 16 + (← Text.hexValue? fourth))
    let (units, after) ← scanText rest
    return (.codeUnit value :: units, after)
  | '\\' :: letter :: rest => do
    let value ← escapedCharacter? letter
    let (units, after) ← scanText rest
    return (.character value :: units, after)
  | value :: rest =>
    if value.toNat < 0x20 ∨ value = '\\' then none
    else do
      let (units, after) ← scanText rest
      return (.character value :: units, after)

/-- The leading decimal digits and what follows them. -/
def scanDigits : List Char → List Char × List Char
  | [] => ([], [])
  | digit :: rest =>
    if digit.isDigit then
      let (digits, after) := scanDigits rest
      (digit :: digits, after)
    else ([], digit :: rest)

/-- The fraction behind a decimal point, if one follows: at least one digit. -/
def scanFraction : List Char → Option (List Char × List Char)
  | '.' :: rest =>
    match scanDigits rest with
    | ([], _) => none
    | (digits, after) => some (digits, after)
  | rest => some ([], rest)

/-- The sign and the digits behind an exponent mark that was read: at least one digit. -/
def scanExponentDigits (negative : Bool) (rest : List Char) :
    Option (Option (Bool × List Char) × List Char) :=
  match scanDigits rest with
  | ([], _) => none
  | (digits, after) => some (some (negative, digits), after)

/-- The exponent, if one follows. -/
def scanExponent : List Char → Option (Option (Bool × List Char) × List Char)
  | 'e' :: '-' :: rest | 'E' :: '-' :: rest => scanExponentDigits true rest
  | 'e' :: '+' :: rest | 'E' :: '+' :: rest => scanExponentDigits false rest
  | 'e' :: rest | 'E' :: rest => scanExponentDigits false rest
  | rest => some (none, rest)

/-- The whole part: a zero alone, or digits that start with another one. -/
def scanWhole (input : List Char) : Option (List Char × List Char) :=
  match scanDigits input with
  | ([], _) => none
  | ('0' :: _ :: _, _) => none
  | (digits, after) => some (digits, after)

/-- A numeral without its sign. -/
def scanUnsigned (negative : Bool) (input : List Char) : Option (Numeral × List Char) := do
  let (whole, rest) ← scanWhole input
  let (fraction, rest) ← scanFraction rest
  let (exponent, rest) ← scanExponent rest
  return (⟨negative, whole, fraction, exponent⟩, rest)

/-- A numeral and what follows it. -/
def scanNumeral : List Char → Option (Numeral × List Char)
  | '-' :: rest => scanUnsigned true rest
  | rest => scanUnsigned false rest

/-! ### Scanning consumes its input -/

theorem scanText_length {input : List Char} {result : List TextUnit × List Char}
    (scanned : scanText input = some result) : result.2.length < input.length := by
  fun_induction scanText input generalizing result with
  | case1 => simp at scanned
  | case2 rest => cases scanned; simp
  | case3 first second third fourth rest inductionHypothesis =>
    simp only [Option.bind_eq_bind, Option.pure_def, Option.bind_eq_some_iff] at scanned
    obtain ⟨_, _, _, _, _, _, _, _, ⟨units, after⟩, scannedRest, equal⟩ := scanned
    cases equal
    have shorter : after.length < rest.length := inductionHypothesis scannedRest
    simp only [List.length_cons]
    omega
  | case4 letter rest _ inductionHypothesis =>
    simp only [Option.bind_eq_bind, Option.pure_def, Option.bind_eq_some_iff] at scanned
    obtain ⟨_, _, ⟨units, after⟩, scannedRest, equal⟩ := scanned
    cases equal
    have shorter : after.length < rest.length := inductionHypothesis scannedRest
    simp only [List.length_cons]
    omega
  | case5 => simp at scanned
  | case6 value rest _ _ _ _ inductionHypothesis =>
    simp only [Option.bind_eq_bind, Option.pure_def, Option.bind_eq_some_iff] at scanned
    obtain ⟨⟨units, after⟩, scannedRest, equal⟩ := scanned
    cases equal
    have shorter : after.length < rest.length := inductionHypothesis scannedRest
    simp only [List.length_cons]
    omega

theorem scanDigits_length (input : List Char) :
    (scanDigits input).1.length + (scanDigits input).2.length = input.length := by
  induction input with
  | nil => rfl
  | cons digit rest inductionHypothesis =>
    simp only [scanDigits]
    split
    · simp only [List.length_cons]
      omega
    · simp

theorem scanFraction_length {input : List Char} {result : List Char × List Char}
    (scanned : scanFraction input = some result) : result.2.length ≤ input.length := by
  unfold scanFraction at scanned
  split at scanned
  · rename_i rest
    have total := scanDigits_length rest
    split at scanned
    · cases scanned
    · rename_i equal
      rw [equal] at total
      cases scanned
      simp only [List.length_cons] at *
      omega
  · cases scanned
    exact Nat.le_refl _

theorem scanExponentDigits_length {negative : Bool} {input : List Char}
    {result : Option (Bool × List Char) × List Char}
    (scanned : scanExponentDigits negative input = some result) :
    result.2.length ≤ input.length := by
  unfold scanExponentDigits at scanned
  have total := scanDigits_length input
  split at scanned
  · cases scanned
  · rename_i equal
    rw [equal] at total
    cases scanned
    simp only at *
    omega

theorem scanExponent_length {input : List Char} {result : Option (Bool × List Char) × List Char}
    (scanned : scanExponent input = some result) : result.2.length ≤ input.length := by
  unfold scanExponent at scanned
  split at scanned
  all_goals first
    | (have bound := scanExponentDigits_length scanned
       simp only [List.length_cons]
       omega)
    | (cases scanned
       exact Nat.le_refl _)

theorem scanWhole_length {input : List Char} {result : List Char × List Char}
    (scanned : scanWhole input = some result) : result.2.length < input.length := by
  unfold scanWhole at scanned
  have total := scanDigits_length input
  split at scanned
  · cases scanned
  · cases scanned
  · rename_i digits after nonempty _ equal
    rw [equal] at total
    cases scanned
    cases digits with
    | nil => exact absurd rfl (nonempty)
    | cons digit rest =>
      simp only [List.length_cons] at total ⊢
      omega

theorem scanUnsigned_length {negative : Bool} {input : List Char} {result : Numeral × List Char}
    (scanned : scanUnsigned negative input = some result) : result.2.length < input.length := by
  simp only [scanUnsigned, Option.bind_eq_bind, Option.pure_def, Option.bind_eq_some_iff] at scanned
  obtain ⟨⟨whole, afterWhole⟩, scannedWhole, ⟨fraction, afterFraction⟩, scannedFraction,
    ⟨exponent, afterExponent⟩, scannedExponent, equal⟩ := scanned
  cases equal
  have := scanWhole_length scannedWhole
  have := scanFraction_length scannedFraction
  have := scanExponent_length scannedExponent
  simp only at *
  omega

theorem scanNumeral_length {input : List Char} {result : Numeral × List Char}
    (scanned : scanNumeral input = some result) : result.2.length < input.length := by
  unfold scanNumeral at scanned
  split at scanned
  · have := scanUnsigned_length scanned
    simp only [List.length_cons]
    omega
  · exact scanUnsigned_length scanned

/-! ### Tokens -/

/-- A token of JSON text. -/
inductive Token
  | openArray
  | closeArray
  | openObject
  | closeObject
  | comma
  | colon
  | null
  | bool (value : Bool)
  | numeral (value : Numeral)
  | text (units : List TextUnit)
  /-- No token starts here, and nothing behind this place was cut. -/
  | broken
  deriving DecidableEq, Repr

/-- The tokens of the text. -/
def tokens (input : List Char) : List Token :=
  match input with
  | [] => []
  | '[' :: rest => .openArray :: tokens rest
  | ']' :: rest => .closeArray :: tokens rest
  | '\x7b' :: rest => .openObject :: tokens rest
  | '\x7d' :: rest => .closeObject :: tokens rest
  | ',' :: rest => .comma :: tokens rest
  | ':' :: rest => .colon :: tokens rest
  | 'n' :: 'u' :: 'l' :: 'l' :: rest => .null :: tokens rest
  | 't' :: 'r' :: 'u' :: 'e' :: rest => .bool true :: tokens rest
  | 'f' :: 'a' :: 'l' :: 's' :: 'e' :: rest => .bool false :: tokens rest
  | '"' :: rest =>
    match scanned : scanText rest with
    | none => [.broken]
    | some (units, after) =>
      have := scanText_length scanned
      .text units :: tokens after
  | character :: rest =>
    if Text.isJsonBlank character then tokens rest
    else
      match scanned : scanNumeral (character :: rest) with
      | none => [.broken]
      | some (numeral, after) =>
        have := scanNumeral_length scanned
        .numeral numeral :: tokens after
termination_by input.length
decreasing_by
  all_goals simp_all only [List.length_cons]
  all_goals omega

end Gateway
