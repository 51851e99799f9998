/-
This file says how tokens are written, one after the other with blanks between them, and proves that
cutting a text finds nothing else: the tokens that are found are written by the text, and tokens
that the text writes are found. A number goes on for as long as it can, so that holds of tokens of
which no number stands before anything but the end of a value.
-/

import Gateway.Proofs.Json.Doubles
import Mathlib.Data.List.Chain

namespace Gateway

/-! ### Numerals -/

/-- Decimal digits, at least one. -/
def IsDigits (digits : List Char) : Prop :=
  digits ≠ [] ∧ ∀ digit ∈ digits, digit.isDigit = true

/-- The text writes the sign of an exponent, which may be left out where it is no minus. -/
inductive WritesSign : List Char → Bool → Prop
  | none : WritesSign [] false
  | plus : WritesSign ['+'] false
  | minus : WritesSign ['-'] true

/-- The text writes the exponent: nothing at all, or a mark in either case, a sign and digits. -/
inductive WritesExponent : List Char → Option (Bool × List Char) → Prop
  | none : WritesExponent [] none
  | some {mark : Char} {sign digits : List Char} {negative : Bool}
    (isMark : mark = 'e' ∨ mark = 'E') (isSign : WritesSign sign negative)
    (isDigits : IsDigits digits) :
    WritesExponent (mark :: (sign ++ digits)) (some (negative, digits))

/-- The text writes the numeral without its sign: a zero alone or digits that start with another
one, then a point and digits or neither, then an exponent or none. -/
inductive WritesUnsigned (negative : Bool) : List Char → Numeral → Prop
  | parts {whole fraction text : List Char} {exponent : Option (Bool × List Char)}
    (isWhole : IsDigits whole) (canonical : ∀ further, whole = '0' :: further → further = [])
    (isFraction : ∀ digit ∈ fraction, digit.isDigit = true)
    (isExponent : WritesExponent text exponent) :
    WritesUnsigned negative (whole ++ (Decimal.fractionText fraction ++ text))
      ⟨negative, whole, fraction, exponent⟩

/-- The text writes the numeral. -/
inductive WritesNumeral : List Char → Numeral → Prop
  | plain {text : List Char} {numeral : Numeral} (unsigned : WritesUnsigned false text numeral) :
    WritesNumeral text numeral
  | minus {text : List Char} {numeral : Numeral} (unsigned : WritesUnsigned true text numeral) :
    WritesNumeral ('-' :: text) numeral

theorem scanDigits_append_eq (input : List Char) :
    (scanDigits input).1 ++ (scanDigits input).2 = input := by
  induction input with
  | nil => rfl
  | cons digit rest inductionHypothesis =>
    rw [scanDigits]
    split
    · exact congrArg (digit :: ·) inductionHypothesis
    · rfl

theorem isDigit_of_mem_scanDigits {input : List Char} :
    ∀ digit ∈ (scanDigits input).1, digit.isDigit = true := by
  induction input with
  | nil => exact List.forall_mem_nil _
  | cons digit rest inductionHypothesis =>
    rw [scanDigits]
    split
    · next isDigit => exact List.forall_mem_cons.mpr ⟨isDigit, inductionHypothesis⟩
    · exact List.forall_mem_nil _

/-- Digits that were scanned, and what is behind them. -/
theorem eq_append_of_scanDigits {input digits rest : List Char}
    (scanned : scanDigits input = (digits, rest)) :
    input = digits ++ rest ∧ ∀ digit ∈ digits, digit.isDigit = true := by
  have whole := scanDigits_append_eq input
  have all : ∀ digit ∈ (scanDigits input).1, digit.isDigit = true := isDigit_of_mem_scanDigits
  rw [scanned] at whole all
  exact ⟨whole.symm, all⟩

theorem eq_append_of_scanWhole {input whole rest : List Char}
    (scanned : scanWhole input = some (whole, rest)) :
    input = whole ++ rest ∧ IsDigits whole ∧
      ∀ further, whole = '0' :: further → further = [] := by
  rw [scanWhole] at scanned
  split at scanned
  · cases scanned
  · cases scanned
  · next noDigits noLonger found =>
    cases scanned
    obtain ⟨same, all⟩ := eq_append_of_scanDigits found
    refine ⟨same, ⟨noDigits, all⟩, fun further isZero => ?_⟩
    cases further with
    | nil => rfl
    | cons next others => exact (noLonger next others isZero).elim

theorem eq_append_of_scanFraction {input fraction rest : List Char}
    (scanned : scanFraction input = some (fraction, rest)) :
    input = Decimal.fractionText fraction ++ rest ∧ ∀ digit ∈ fraction, digit.isDigit = true := by
  unfold scanFraction at scanned
  split at scanned
  · split at scanned
    · cases scanned
    · next filled found =>
      cases scanned
      obtain ⟨same, all⟩ := eq_append_of_scanDigits found
      rw [Decimal.fractionText, if_neg filled, List.cons_append, same]
      exact ⟨rfl, all⟩
  · cases scanned
    exact ⟨rfl, List.forall_mem_nil _⟩

theorem exists_of_scanExponentDigits {mark : Char} {sign input rest : List Char} {negative : Bool}
    {exponent : Option (Bool × List Char)} (isMark : mark = 'e' ∨ mark = 'E')
    (isSign : WritesSign sign negative)
    (scanned : scanExponentDigits negative input = some (exponent, rest)) :
    ∃ text, mark :: (sign ++ input) = text ++ rest ∧ WritesExponent text exponent := by
  rw [scanExponentDigits] at scanned
  split at scanned
  · cases scanned
  · next filled found =>
    cases scanned
    obtain ⟨rfl, all⟩ := eq_append_of_scanDigits found
    refine ⟨_, ?_, .some isMark isSign ⟨filled, all⟩⟩
    rw [List.cons_append, List.append_assoc]

theorem exists_of_scanExponent {input rest : List Char} {exponent : Option (Bool × List Char)}
    (scanned : scanExponent input = some (exponent, rest)) :
    ∃ text, input = text ++ rest ∧ WritesExponent text exponent := by
  unfold scanExponent at scanned
  split at scanned
  · exact exists_of_scanExponentDigits (.inl rfl) .minus scanned
  · exact exists_of_scanExponentDigits (.inr rfl) .minus scanned
  · exact exists_of_scanExponentDigits (.inl rfl) .plus scanned
  · exact exists_of_scanExponentDigits (.inr rfl) .plus scanned
  · exact exists_of_scanExponentDigits (.inl rfl) .none scanned
  · exact exists_of_scanExponentDigits (.inr rfl) .none scanned
  · cases scanned
    exact ⟨[], rfl, .none⟩

theorem exists_of_scanUnsigned {negative : Bool} {input rest : List Char} {numeral : Numeral}
    (scanned : scanUnsigned negative input = some (numeral, rest)) :
    ∃ text, input = text ++ rest ∧ WritesUnsigned negative text numeral := by
  simp only [scanUnsigned, Option.bind_eq_bind, Option.pure_def, Option.bind_eq_some_iff] at scanned
  obtain ⟨⟨whole, afterWhole⟩, scannedWhole, ⟨fraction, afterFraction⟩, scannedFraction,
    ⟨exponent, afterExponent⟩, scannedExponent, equal⟩ := scanned
  cases equal
  obtain ⟨rfl, isWhole, canonical⟩ := eq_append_of_scanWhole scannedWhole
  obtain ⟨rfl, isFraction⟩ := eq_append_of_scanFraction scannedFraction
  obtain ⟨text, rfl, isExponent⟩ := exists_of_scanExponent scannedExponent
  refine ⟨_, ?_, .parts isWhole canonical isFraction isExponent⟩
  simp only [List.append_assoc]

/-- What is scanned as a numeral is written by the text in front of the rest. -/
theorem exists_of_scanNumeral {input rest : List Char} {numeral : Numeral}
    (scanned : scanNumeral input = some (numeral, rest)) :
    ∃ text, input = text ++ rest ∧ WritesNumeral text numeral := by
  unfold scanNumeral at scanned
  split at scanned
  · obtain ⟨text, rfl, unsigned⟩ := exists_of_scanUnsigned scanned
    exact ⟨'-' :: text, rfl, .minus unsigned⟩
  · obtain ⟨text, rfl, unsigned⟩ := exists_of_scanUnsigned scanned
    exact ⟨text, rfl, .plain unsigned⟩

/-- What follows can go on neither with digits nor with a point. -/
def EndsFraction (rest : List Char) : Prop :=
  ∀ character ∈ rest.head?, character.isDigit = false ∧ character ≠ '.'

theorem WritesExponent.endsFraction {text rest : List Char} {exponent : Option (Bool × List Char)}
    (writes : WritesExponent text exponent) (ends : EndsNumeral rest) :
    EndsFraction (text ++ rest) := by
  cases writes with
  | none => exact fun character first => ⟨(ends character first).1, (ends character first).2.1⟩
  | some isMark _ _ =>
    rintro _ ⟨⟩
    rcases isMark with rfl | rfl <;> decide

theorem EndsFraction.fractionText {rest : List Char} (ends : EndsFraction rest)
    (fraction : List Char) : EndsDigits (Decimal.fractionText fraction ++ rest) := by
  rw [Decimal.fractionText]
  split
  · exact fun character first => (ends character first).1
  · exact endsDigits_cons rfl _

theorem scanFraction_fractionText {fraction rest : List Char}
    (isFraction : ∀ digit ∈ fraction, digit.isDigit = true) (ends : EndsFraction rest) :
    scanFraction (Decimal.fractionText fraction ++ rest) = some (fraction, rest) := by
  rw [Decimal.fractionText]
  split
  · next empty =>
    subst empty
    unfold scanFraction
    split
    · next point => exact absurd rfl (ends '.' (by rw [← List.nil_append rest, point]; rfl)).2
    · rfl
  · next filled =>
    exact scanFraction_append isFraction filled fun character first => (ends character first).1

/-- Behind the mark of an exponent the digits are found, whatever the sign. -/
theorem scanExponent_cons {mark : Char} {sign digits : List Char} {negative : Bool}
    (isMark : mark = 'e' ∨ mark = 'E') (isSign : WritesSign sign negative)
    (isDigits : IsDigits digits) (rest : List Char) :
    scanExponent (mark :: (sign ++ (digits ++ rest))) =
      scanExponentDigits negative (digits ++ rest) := by
  cases isSign with
  | none =>
    obtain ⟨filled, all⟩ := isDigits
    obtain ⟨first, others, rfl⟩ := List.exists_cons_of_ne_nil filled
    have isDigit := all first List.mem_cons_self
    have noSign : first ≠ '-' ∧ first ≠ '+' := by
      constructor <;> rintro rfl <;> cases isDigit
    rcases isMark with rfl | rfl
    all_goals
      rw [List.nil_append, List.cons_append, scanExponent]
      · exact fun _ same => noSign.1 (List.cons.inj same).1
      · exact fun _ same => noSign.2 (List.cons.inj same).1
  | plus => rcases isMark with rfl | rfl <;> rfl
  | minus => rcases isMark with rfl | rfl <;> rfl

theorem scanExponent_of_writes {text rest : List Char} {exponent : Option (Bool × List Char)}
    (writes : WritesExponent text exponent) (ends : EndsNumeral rest) :
    scanExponent (text ++ rest) = some (exponent, rest) := by
  cases writes with
  | none => exact scanExponent_of_ends ends
  | @some mark sign digits negative isMark isSign isDigits =>
    rw [List.cons_append, List.append_assoc, scanExponent_cons isMark isSign isDigits,
      scanExponentDigits, scanDigits_append isDigits.2 ends.digits]
    split
    · next empty => exact absurd (congrArg Prod.fst empty) isDigits.1
    · next same =>
      cases same
      rfl

theorem scanUnsigned_of_writes {negative : Bool} {text rest : List Char} {numeral : Numeral}
    (writes : WritesUnsigned negative text numeral) (ends : EndsNumeral rest) :
    scanUnsigned negative (text ++ rest) = some (numeral, rest) := by
  cases writes with
  | parts isWhole canonical isFraction isExponent =>
    have further := isExponent.endsFraction ends
    rw [List.append_assoc, List.append_assoc]
    exact scanUnsigned_of_parts negative
      (scanWhole_append isWhole.2 isWhole.1 canonical (further.fractionText _))
      (scanFraction_fractionText isFraction further) (scanExponent_of_writes isExponent ends)

theorem WritesUnsigned.exists_eq_cons {negative : Bool} {text : List Char} {numeral : Numeral}
    (writes : WritesUnsigned negative text numeral) :
    ∃ first others, text = first :: others ∧ first.isDigit = true := by
  cases writes with
  | parts isWhole _ _ _ =>
    obtain ⟨filled, all⟩ := isWhole
    obtain ⟨first, others, rfl⟩ := List.exists_cons_of_ne_nil filled
    exact ⟨first, _, List.cons_append, all first List.mem_cons_self⟩

/-- A numeral is scanned where it is written before anything that could not belong to it. -/
theorem scanNumeral_of_writes {text rest : List Char} {numeral : Numeral}
    (writes : WritesNumeral text numeral) (ends : EndsNumeral rest) :
    scanNumeral (text ++ rest) = some (numeral, rest) := by
  cases writes with
  | minus unsigned => exact scanUnsigned_of_writes unsigned ends
  | plain unsigned =>
    obtain ⟨first, others, rfl, isDigit⟩ := unsigned.exists_eq_cons
    rw [← scanUnsigned_of_writes unsigned ends]
    exact scanNumeral_of_isDigit isDigit _

/-! ### Quoted texts -/

/-- The text between two quotes writes the pieces: characters that stand for themselves, characters
by their letters, and code units by their digits. -/
inductive WritesUnits : List Char → List TextUnit → Prop
  | nil : WritesUnits [] []
  | plain {character : Char} {text : List Char} {units : List TextUnit}
    (printed : 0x20 ≤ character.toNat) (noQuote : character ≠ '"') (noBackslash : character ≠ '\\')
    (rest : WritesUnits text units) :
    WritesUnits (character :: text) (.character character :: units)
  | letter {letter character : Char} {text : List Char} {units : List TextUnit}
    (escaped : escapedCharacter? letter = some character) (rest : WritesUnits text units) :
    WritesUnits ('\\' :: letter :: text) (.character character :: units)
  | number {first second third fourth : Char} {high upper lower low : Nat} {text : List Char}
    {units : List TextUnit} (isHigh : Text.hexValue? first = some high)
    (isUpper : Text.hexValue? second = some upper) (isLower : Text.hexValue? third = some lower)
    (isLow : Text.hexValue? fourth = some low) (rest : WritesUnits text units) :
    WritesUnits ('\\' :: 'u' :: first :: second :: third :: fourth :: text)
      (.codeUnit ((high * 16 + upper) * 256 + (lower * 16 + low)) :: units)

/-- What is scanned as a quoted text is written by the text in front of the closing quote. -/
theorem exists_of_scanText {input rest : List Char} {units : List TextUnit}
    (scanned : scanText input = some (units, rest)) :
    ∃ text, input = text ++ '"' :: rest ∧ WritesUnits text units := by
  fun_induction scanText input generalizing units rest with
  | case1 => cases scanned
  | case2 after =>
    cases scanned
    exact ⟨[], rfl, .nil⟩
  | case3 first second third fourth after inductionHypothesis =>
    simp only [Option.bind_eq_bind, Option.pure_def, Option.bind_eq_some_iff] at scanned
    obtain ⟨high, isHigh, upper, isUpper, lower, isLower, low, isLow, ⟨others, behind⟩, scannedRest,
      equal⟩ := scanned
    cases equal
    obtain ⟨text, rfl, writes⟩ := inductionHypothesis scannedRest
    exact ⟨_, rfl, .number isHigh isUpper isLower isLow writes⟩
  | case4 letter after _ inductionHypothesis =>
    simp only [Option.bind_eq_bind, Option.pure_def, Option.bind_eq_some_iff] at scanned
    obtain ⟨character, escaped, ⟨others, behind⟩, scannedRest, equal⟩ := scanned
    cases equal
    obtain ⟨text, rfl, writes⟩ := inductionHypothesis scannedRest
    exact ⟨_, rfl, .letter escaped writes⟩
  | case5 => cases scanned
  | case6 character after noQuote _ _ stands inductionHypothesis =>
    simp only [Option.bind_eq_bind, Option.pure_def, Option.bind_eq_some_iff] at scanned
    obtain ⟨⟨others, behind⟩, scannedRest, equal⟩ := scanned
    cases equal
    obtain ⟨text, rfl, writes⟩ := inductionHypothesis scannedRest
    rw [not_or, Nat.not_lt] at stands
    exact ⟨_, rfl, .plain stands.1 noQuote stands.2 writes⟩

/-- A quoted text is scanned up to its closing quote. -/
theorem scanText_of_writes {text : List Char} {units : List TextUnit}
    (writes : WritesUnits text units) (rest : List Char) :
    scanText (text ++ '"' :: rest) = some (units, rest) := by
  induction writes with
  | nil => rw [List.nil_append, scanText]
  | plain printed noQuote noBackslash _ inductionHypothesis =>
    rw [List.cons_append, scanText_plain printed noQuote noBackslash, inductionHypothesis]
    rfl
  | letter escaped _ inductionHypothesis =>
    rw [List.cons_append, List.cons_append, scanText_letter escaped, inductionHypothesis]
    rfl
  | number isHigh isUpper isLower isLow _ inductionHypothesis =>
    simp only [List.cons_append]
    rw [scanText, isHigh, isUpper, isLower, isLow, inductionHypothesis]
    rfl

/-! ### Tokens -/

/-- The text writes the token and nothing else. -/
inductive WritesToken : List Char → Token → Prop
  | openArray : WritesToken ['['] .openArray
  | closeArray : WritesToken [']'] .closeArray
  | openObject : WritesToken ['\x7b'] .openObject
  | closeObject : WritesToken ['\x7d'] .closeObject
  | comma : WritesToken [','] .comma
  | colon : WritesToken [':'] .colon
  | null : WritesToken ['n', 'u', 'l', 'l'] .null
  | boolTrue : WritesToken ['t', 'r', 'u', 'e'] (.bool true)
  | boolFalse : WritesToken ['f', 'a', 'l', 's', 'e'] (.bool false)
  | numeral {text : List Char} {numeral : Numeral} (writes : WritesNumeral text numeral) :
    WritesToken text (.numeral numeral)
  | text {text : List Char} {units : List TextUnit} (writes : WritesUnits text units) :
    WritesToken ('"' :: (text ++ ['"'])) (.text units)

/-- The text writes the tokens, with blanks before, between and behind them as it pleases. -/
inductive Writes : List Char → List Token → Prop
  | nil : Writes [] []
  | blank {character : Char} {text : List Char} {written : List Token}
    (isBlank : Text.isJsonBlank character = true) (rest : Writes text written) :
    Writes (character :: text) written
  | token {lexeme text : List Char} {token : Token} {written : List Token}
    (isToken : WritesToken lexeme token) (rest : Writes text written) :
    Writes (lexeme ++ text) (token :: written)

theorem Writes.append {text rest : List Char} {written behind : List Token}
    (writes : Writes text written) (further : Writes rest behind) :
    Writes (text ++ rest) (written ++ behind) := by
  induction writes with
  | nil => exact further
  | blank isBlank _ inductionHypothesis => exact .blank isBlank inductionHypothesis
  | token isToken _ inductionHypothesis =>
    rw [List.append_assoc]
    exact .token isToken inductionHypothesis

theorem writes_cons {lexeme rest : List Char} {token : Token} {written : List Token}
    (isToken : WritesToken lexeme token)
    (inductionHypothesis : .broken ∉ written → Writes rest written)
    (whole : .broken ∉ token :: written) : Writes (lexeme ++ rest) (token :: written) :=
  .token isToken (inductionHypothesis (List.not_mem_of_not_mem_cons whole))

/-- A text that is cut to its end writes the tokens that it is cut into. -/
theorem writes_tokens {text : List Char} (whole : .broken ∉ tokens text) :
    Writes text (tokens text) := by
  fun_induction tokens text with
  | case1 => exact .nil
  | case2 rest inductionHypothesis => exact writes_cons .openArray inductionHypothesis whole
  | case3 rest inductionHypothesis => exact writes_cons .closeArray inductionHypothesis whole
  | case4 rest inductionHypothesis => exact writes_cons .openObject inductionHypothesis whole
  | case5 rest inductionHypothesis => exact writes_cons .closeObject inductionHypothesis whole
  | case6 rest inductionHypothesis => exact writes_cons .comma inductionHypothesis whole
  | case7 rest inductionHypothesis => exact writes_cons .colon inductionHypothesis whole
  | case8 rest inductionHypothesis => exact writes_cons .null inductionHypothesis whole
  | case9 rest inductionHypothesis => exact writes_cons .boolTrue inductionHypothesis whole
  | case10 rest inductionHypothesis => exact writes_cons .boolFalse inductionHypothesis whole
  | case11 => exact absurd List.mem_cons_self whole
  | case12 rest units after scanned _ inductionHypothesis =>
    obtain ⟨text, rfl, writes⟩ := exists_of_scanText scanned
    have written := writes_cons (.text writes) inductionHypothesis whole
    rwa [List.cons_append, List.append_assoc] at written
  | case13 character rest _ _ _ _ _ _ _ _ _ _ isBlank inductionHypothesis =>
    exact .blank isBlank (inductionHypothesis whole)
  | case14 => exact absurd List.mem_cons_self whole
  | case15 character rest _ _ _ _ _ _ _ _ _ _ _ numeral after scanned _ inductionHypothesis =>
    obtain ⟨text, same, writes⟩ := exists_of_scanNumeral scanned
    rw [same]
    exact writes_cons (.numeral writes) inductionHypothesis whole

/-- Behind a value stands the end of what holds it, or a comma. -/
def Token.Closes : Token → Prop
  | .comma | .closeArray | .closeObject => True
  | _ => False

def Token.isNumeral : Token → Bool
  | .numeral _ => true
  | _ => false

/-- No numeral stands before anything but what closes a value. -/
def Separate : List Token → Prop :=
  List.IsChain fun first second => first.isNumeral = true → second.Closes

theorem separate_cons {token : Token} (other : token.isNumeral = false) {rest : List Token}
    (separate : Separate rest) : Separate (token :: rest) := by
  refine List.isChain_cons.mpr ⟨fun _ _ isNumeral => ?_, separate⟩
  cases other.symm.trans isNumeral

theorem endsNumeral_cons {character : Char}
    (ends : character.isDigit = false ∧ character ≠ '.' ∧ character ≠ 'e' ∧ character ≠ 'E')
    (rest : List Char) : EndsNumeral (character :: rest) := by
  rintro _ ⟨⟩
  exact ends

/-- Where a blank, the end of a value, or nothing at all is written, a numeral has ended. -/
theorem Writes.endsNumeral {text : List Char} {written : List Token} (writes : Writes text written)
    (closes : ∀ token ∈ written.head?, token.Closes) : EndsNumeral text := by
  cases writes with
  | nil => exact fun _ inside => nomatch inside
  | blank isBlank rest =>
    simp only [Text.isJsonBlank, Bool.or_eq_true, beq_iff_eq] at isBlank
    rcases isBlank with ((rfl | rfl) | rfl) | rfl <;> exact endsNumeral_cons (by decide) _
  | token isToken rest =>
    have closing := closes _ rfl
    cases isToken with
    | comma | closeArray | closeObject => exact endsNumeral_cons (by decide) _
    | _ => exact closing.elim

theorem tokens_blank {character : Char} (isBlank : Text.isJsonBlank character = true)
    (rest : List Char) : tokens (character :: rest) = tokens rest := by
  have other {letter : Char} (unlike : Text.isJsonBlank letter = false) : character ≠ letter := by
    rintro rfl
    cases isBlank.symm.trans unlike
  rw [tokens]
  · rw [if_pos isBlank]
  all_goals first
    | exact other rfl
    | exact fun _ same _ => other rfl same

theorem WritesNumeral.exists_eq_cons {text : List Char} {numeral : Numeral}
    (writes : WritesNumeral text numeral) :
    ∃ first others, text = first :: others ∧ (first = '-' ∨ first.isDigit = true) := by
  cases writes with
  | minus unsigned => exact ⟨'-', _, rfl, .inl rfl⟩
  | plain unsigned =>
    obtain ⟨first, others, rfl, isDigit⟩ := unsigned.exists_eq_cons
    exact ⟨first, others, rfl, .inr isDigit⟩

/-- A token is cut off the front of a text that writes it, as long as a numeral ends there. -/
theorem tokens_append {lexeme : List Char} {token : Token} (isToken : WritesToken lexeme token)
    {rest : List Char} (ends : token.isNumeral = true → EndsNumeral rest) :
    tokens (lexeme ++ rest) = token :: tokens rest := by
  cases isToken with
  | numeral writes =>
    have scanned := scanNumeral_of_writes writes (ends rfl)
    obtain ⟨first, others, rfl, starts⟩ := writes.exists_eq_cons
    exact tokens_of_scanNumeral starts scanned
  | text writes =>
    have scanned := scanText_of_writes writes rest
    rw [List.cons_append, List.append_assoc, List.singleton_append, tokens]
    split
    · next failed => cases scanned.symm.trans failed
    · next found =>
      obtain ⟨rfl, rfl⟩ := Prod.mk.inj (Option.some.inj (scanned.symm.trans found))
      rfl
  | _ =>
    simp only [List.cons_append, List.nil_append]
    rw [tokens]

/-- A text is cut into the tokens that it writes. -/
theorem tokens_of_writes {text : List Char} {written : List Token} (writes : Writes text written)
    (separate : Separate written) : tokens text = written := by
  induction writes with
  | nil => rw [tokens]
  | blank isBlank _ inductionHypothesis =>
    rw [tokens_blank isBlank, inductionHypothesis separate]
  | token isToken rest inductionHypothesis =>
    obtain ⟨here, further⟩ := List.isChain_cons.mp separate
    rw [tokens_append isToken, inductionHypothesis further]
    exact fun isNumeral => rest.endsNumeral fun next first => here next first isNumeral

/-! ### Blanks at the end -/

theorem isJsonBlank_of_isDigit {digit : Char} (isDigit : digit.isDigit = true) :
    Text.isJsonBlank digit = false := by
  refine Bool.eq_false_iff.mpr fun isBlank => ?_
  simp only [Text.isJsonBlank, Bool.or_eq_true, beq_iff_eq] at isBlank
  rcases isBlank with ((rfl | rfl) | rfl) | rfl <;> cases isDigit

/-- No blank stands among the characters. -/
def Unbroken (text : List Char) : Prop :=
  ∀ character ∈ text, Text.isJsonBlank character = false

theorem unbroken_of_digits {digits : List Char} (all : ∀ digit ∈ digits, digit.isDigit = true) :
    Unbroken digits :=
  fun digit inside => isJsonBlank_of_isDigit (all digit inside)

theorem WritesExponent.unbroken {text : List Char} {exponent : Option (Bool × List Char)}
    (writes : WritesExponent text exponent) : Unbroken text := by
  cases writes with
  | none => exact List.forall_mem_nil _
  | some isMark isSign isDigits =>
    refine List.forall_mem_cons.mpr ⟨?_, List.forall_mem_append.mpr ⟨?_, ?_⟩⟩
    · rcases isMark with rfl | rfl <;> rfl
    · cases isSign with
      | none => exact List.forall_mem_nil _
      | plus | minus => exact List.forall_mem_singleton.mpr rfl
    · exact unbroken_of_digits isDigits.2

theorem WritesUnsigned.unbroken {negative : Bool} {text : List Char} {numeral : Numeral}
    (writes : WritesUnsigned negative text numeral) : Unbroken text := by
  cases writes with
  | parts isWhole _ isFraction isExponent =>
    refine List.forall_mem_append.mpr ⟨unbroken_of_digits isWhole.2, ?_⟩
    refine List.forall_mem_append.mpr ⟨?_, isExponent.unbroken⟩
    rw [Decimal.fractionText]
    split
    · exact List.forall_mem_nil _
    · exact List.forall_mem_cons.mpr ⟨rfl, unbroken_of_digits isFraction⟩

theorem WritesNumeral.unbroken {text : List Char} {numeral : Numeral}
    (writes : WritesNumeral text numeral) : Unbroken text := by
  cases writes with
  | plain unsigned => exact unsigned.unbroken
  | minus unsigned => exact List.forall_mem_cons.mpr ⟨rfl, unsigned.unbroken⟩

/-- No token ends with a blank. -/
theorem WritesToken.isJsonBlank_of_eq_append {lexeme front : List Char} {token : Token}
    (writes : WritesToken lexeme token) {last : Char} (same : lexeme = front ++ [last]) :
    Text.isJsonBlank last = false := by
  have atEnd : lexeme.getLast? = some last := by rw [same, List.getLast?_concat]
  cases writes with
  | numeral writes => exact writes.unbroken _ (List.mem_of_getLast? atEnd)
  | text writes =>
    rw [← List.cons_append, List.getLast?_concat] at atEnd
    exact Option.some.inj atEnd ▸ rfl
  | _ => exact Option.some.inj atEnd ▸ rfl

/-- A blank behind a text changes nothing of what it writes. -/
theorem writes_concat_blank_iff {blank : Char} (isBlank : Text.isJsonBlank blank = true)
    {text : List Char} {written : List Token} :
    Writes (text ++ [blank]) written ↔ Writes text written := by
  constructor
  · intro writes
    generalize same : text ++ [blank] = whole at writes
    induction writes generalizing text with
    | nil => exact absurd same (List.concat_ne_nil _ _)
    | @blank character rest written here writes inductionHypothesis =>
      cases text with
      | nil =>
        obtain ⟨-, rfl⟩ := List.cons.inj same
        exact writes
      | cons first others =>
        obtain ⟨rfl, rfl⟩ := List.cons.inj same
        exact .blank here (inductionHypothesis rfl)
    | @token lexeme rest token written isToken writes inductionHypothesis =>
      rcases List.eq_nil_or_concat rest with rfl | ⟨front, last, rfl⟩
      · rw [List.append_nil] at same
        cases isBlank.symm.trans (isToken.isJsonBlank_of_eq_append same.symm)
      · rw [List.concat_eq_append, ← List.append_assoc] at same
        obtain ⟨rfl, ends⟩ := List.append_inj' same rfl
        exact .token isToken (inductionHypothesis (by rw [List.concat_eq_append, ends]))
  · intro writes
    have appended := writes.append (.blank isBlank .nil)
    rwa [List.append_nil] at appended

end Gateway
