/-
This file proves that the text of a double is one numeral. The shortest digits are those of a
natural other than zero, so they may begin a whole part, and zeros are put before them only behind a
point; an exponent follows one digit, with a fraction or without. Which number the numeral has is
left open: a reader may round it to another double.
-/

import Gateway.Proofs.Json.Scanning

namespace Gateway

/-! ### Fractions and exponents -/

theorem scanFraction_append {digits rest : List Char} (all : ∀ digit ∈ digits, digit.isDigit = true)
    (filled : digits ≠ []) (ends : EndsDigits rest) :
    scanFraction ('.' :: (digits ++ rest)) = some (digits, rest) := by
  rw [scanFraction, scanDigits_append all ends]
  split
  · next empty => exact absurd (congrArg Prod.fst empty) filled
  · next same => exact congrArg some same.symm

namespace Decimal

theorem scanExponent_exponentText (exponent : Int) {rest : List Char} (ends : EndsNumeral rest) :
    scanExponent ('e' :: (exponentText exponent ++ rest)) =
      some (some (decide (exponent < 0), naturalText exponent.natAbs), rest) := by
  have digits (negative : Bool) :
      scanExponentDigits negative (naturalText exponent.natAbs ++ rest) =
        some (some (negative, naturalText exponent.natAbs), rest) := by
    rw [scanExponentDigits, scanDigits_append (fun _ => isDigit_of_mem_naturalText) ends.digits]
    split
    · next empty => exact absurd (congrArg Prod.fst empty) Nat.toDigits_ne_nil
    · next same => cases same; rfl
  rw [exponentText, List.cons_append]
  by_cases negative : exponent < 0
  · rw [if_pos negative, decide_eq_true negative]
    exact digits true
  · rw [if_neg negative, decide_eq_false negative]
    exact digits false

/-! ### The digits of a double -/

/-- Decimal digits with another one than zero in front. -/
structure Significant (digits : List Char) : Prop where
  digit : ∀ digit ∈ digits, digit.isDigit = true
  leads : ∃ first rest, digits = first :: rest ∧ first ≠ '0'

theorem Significant.ne_nil {digits : List Char} (significant : Significant digits) :
    digits ≠ [] := by
  obtain ⟨first, rest, rfl, -⟩ := significant.leads
  exact List.cons_ne_nil first rest

theorem Significant.ne_zero_cons {digits : List Char} (significant : Significant digits)
    (further : List Char) : digits ≠ '0' :: further := by
  obtain ⟨first, others, rfl, nonzero⟩ := significant.leads
  exact fun same => nonzero (List.cons.inj same).1

theorem significant_naturalText {value : Nat} (positive : value ≠ 0) :
    Significant (naturalText value) := by
  refine ⟨fun _ => isDigit_of_mem_naturalText, ?_⟩
  obtain ⟨first, rest, digits, -⟩ := exists_naturalText_eq_cons value
  refine ⟨first, rest, digits, ?_⟩
  rintro rfl
  obtain rfl := naturalText_eq_zero_cons digits
  have worth := digitsValue_naturalText value
  rw [digits] at worth
  exact positive worth.symm

theorem digits_ne_zero_of_pointAt {interval : RoundingInterval} {place : Int} {point : Scientific}
    (isPoint : interval.pointAt place = some point) : point.digits ≠ 0 := by
  unfold RoundingInterval.pointAt at isPoint
  extract_lets numerator denominator below nearest other at isPoint
  split at isPoint
  · next holds => exact Option.some.inj isPoint ▸ holds.1
  · split at isPoint
    · next holds => exact Option.some.inj isPoint ▸ holds.1
    · cases isPoint

/-- The shortest digits are not zero, where there are any. -/
theorem shortest_cases (magnitude : Nat) :
    shortest magnitude = ⟨0, 0⟩ ∨ (shortest magnitude).digits ≠ 0 := by
  rw [shortest]
  cases found : (RoundingInterval.of magnitude).places.findSome?
      (RoundingInterval.of magnitude).pointAt with
  | none => exact Or.inl rfl
  | some point =>
    obtain ⟨place, -, isPoint⟩ := List.exists_of_findSome?_eq_some found
    exact Or.inr (digits_ne_zero_of_pointAt isPoint)

/-! ### Texts of numerals -/

/-- With a sign or without one, the text is one numeral before anything that could not belong to
one. -/
structure IsNumeral (text : List Char) : Prop where
  leads : ∃ first rest, text = first :: rest ∧ first.isDigit = true
  scans : ∀ negative, ∃ numeral, ∀ rest, EndsNumeral rest →
    scanUnsigned negative (text ++ rest) = some (numeral, rest)
  printed : ∀ character ∈ text, 0x20 ≤ character.toNat

theorem printed_of_isDigit {digit : Char} (isDigit : digit.isDigit = true) : 0x20 ≤ digit.toNat :=
  Nat.le_trans (by decide) (Char.isDigit_iff_toNat.mp isDigit).1

theorem printed_of_digits {digits : List Char} (all : ∀ digit ∈ digits, digit.isDigit = true) :
    ∀ digit ∈ digits, 0x20 ≤ digit.toNat :=
  fun digit inside => printed_of_isDigit (all digit inside)

theorem printed_integerText (value : Int) :
    ∀ character ∈ integerText value, 0x20 ≤ character.toNat := by
  have digits : ∀ digit ∈ naturalText value.natAbs, 0x20 ≤ digit.toNat :=
    printed_of_digits fun _ => isDigit_of_mem_naturalText
  rw [integerText]
  split
  · exact List.forall_mem_cons.mpr ⟨by decide, digits⟩
  · exact digits

/-- A whole part and a fraction are a numeral. -/
theorem isNumeral_point {whole fraction : List Char}
    (wholeDigits : ∀ digit ∈ whole, digit.isDigit = true) (wholeFilled : whole ≠ [])
    (canonical : ∀ further, whole = '0' :: further → further = [])
    (fractionDigits : ∀ digit ∈ fraction, digit.isDigit = true) (filled : fraction ≠ []) :
    IsNumeral (whole ++ '.' :: fraction) where
  leads := by
    obtain ⟨first, rest, rfl⟩ := List.exists_cons_of_ne_nil wholeFilled
    exact ⟨first, _, rfl, wholeDigits first List.mem_cons_self⟩
  scans negative := by
    refine ⟨⟨negative, whole, fraction, none⟩, fun rest ends => ?_⟩
    rw [List.append_assoc, List.cons_append]
    exact scanUnsigned_of_parts negative
      (scanWhole_append wholeDigits wholeFilled canonical (endsDigits_cons rfl _))
      (scanFraction_append fractionDigits filled ends.digits) (scanExponent_of_ends ends)
  printed := by
    refine List.forall_mem_append.mpr ⟨printed_of_digits wholeDigits, ?_⟩
    exact List.forall_mem_cons.mpr ⟨by decide, printed_of_digits fractionDigits⟩

theorem isDigit_of_mem_replicate {count : Nat} :
    ∀ zero ∈ List.replicate count '0', zero.isDigit = true := by
  intro zero inside
  rw [List.eq_of_mem_replicate inside]
  rfl

/-- Digits with a point among them, behind them or before them are a numeral. -/
theorem isNumeral_positionalText {digits : List Char} (significant : Significant digits)
    (point : Int) : IsNumeral (positionalText digits point) := by
  rw [positionalText]
  split
  · have fractionDigits : ∀ digit ∈ List.replicate (-point).toNat '0' ++ digits,
        digit.isDigit = true :=
      List.forall_mem_append.mpr ⟨isDigit_of_mem_replicate, significant.digit⟩
    exact isNumeral_point (List.forall_mem_singleton.mpr rfl) (List.cons_ne_nil '0' [])
      (fun _ same => (List.cons.inj same).2.symm) fractionDigits
      (List.append_ne_nil_of_right_ne_nil _ significant.ne_nil)
  · next positive =>
    split
    · have wholeDigits : ∀ digit ∈ digits ++ List.replicate (point.toNat - digits.length) '0',
          digit.isDigit = true :=
        List.forall_mem_append.mpr ⟨significant.digit, isDigit_of_mem_replicate⟩
      have canonical (further : List Char)
          (same : digits ++ List.replicate (point.toNat - digits.length) '0' = '0' :: further) :
          further = [] := by
        obtain ⟨first, others, rfl, nonzero⟩ := significant.leads
        exact absurd (List.cons.inj same).1 nonzero
      exact isNumeral_point wholeDigits (List.append_ne_nil_of_left_ne_nil significant.ne_nil _)
        canonical (List.forall_mem_singleton.mpr rfl) (List.cons_ne_nil '0' [])
    · next within =>
      have wholeDigits : ∀ digit ∈ digits.take point.toNat, digit.isDigit = true :=
        fun digit inside => significant.digit digit (List.mem_of_mem_take inside)
      have fractionDigits : ∀ digit ∈ digits.drop point.toNat, digit.isDigit = true :=
        fun digit inside => significant.digit digit (List.mem_of_mem_drop inside)
      have filled : digits.take point.toNat ≠ [] := by
        rw [Ne, List.take_eq_nil_iff, not_or]
        exact ⟨by omega, significant.ne_nil⟩
      have canonical (further : List Char) (same : digits.take point.toNat = '0' :: further) :
          further = [] := by
        refine absurd ?_ (significant.ne_zero_cons (further ++ digits.drop point.toNat))
        rw [← List.cons_append, ← same, List.take_append_drop]
      exact isNumeral_point wholeDigits filled canonical fractionDigits
        fun empty => within (List.drop_eq_nil_iff.mp empty)

theorem printed_exponentText (exponent : Int) :
    ∀ character ∈ exponentText exponent, 0x20 ≤ character.toNat := by
  refine List.forall_mem_cons.mpr ⟨?_, printed_of_digits fun _ => isDigit_of_mem_naturalText⟩
  split <;> decide

/-- The point and the digits behind it, if there are any. -/
def fractionText (digits : List Char) : List Char :=
  if digits = [] then [] else '.' :: digits

theorem scientificText_cons (first : Char) (rest : List Char) (point : Int) :
    scientificText (first :: rest) point =
      [first] ++ (fractionText rest ++ 'e' :: exponentText (point - 1)) := by
  rw [scientificText, fractionText]
  cases rest with
  | nil => rfl
  | cons second others => simp

theorem printed_fractionText {digits : List Char} (all : ∀ digit ∈ digits, digit.isDigit = true) :
    ∀ character ∈ fractionText digits, 0x20 ≤ character.toNat := by
  rw [fractionText]
  split
  · exact List.forall_mem_nil _
  · exact List.forall_mem_cons.mpr ⟨by decide, printed_of_digits all⟩

/-- One digit, a fraction or none, and an exponent are a numeral. -/
theorem isNumeral_scientificText {digits : List Char} (significant : Significant digits)
    (point : Int) : IsNumeral (scientificText digits point) := by
  obtain ⟨first, rest, rfl, -⟩ := significant.leads
  obtain ⟨isDigit, restDigits⟩ := List.forall_mem_cons.mp significant.digit
  rw [scientificText_cons]
  have whole {after : List Char} (ends : EndsDigits after) :
      scanWhole ([first] ++ after) = some ([first], after) :=
    scanWhole_append (List.forall_mem_singleton.mpr isDigit) (List.cons_ne_nil first [])
      (fun _ same => (List.cons.inj same).2.symm) ends
  refine ⟨⟨first, _, rfl, isDigit⟩, fun negative => ⟨⟨negative, [first], rest,
    some (decide (point - 1 < 0), naturalText (point - 1).natAbs)⟩, fun after ends => ?_⟩, ?_⟩
  · have exponent := scanExponent_exponentText (point - 1) ends
    rw [List.append_assoc, List.append_assoc, List.cons_append, fractionText]
    by_cases short : rest = []
    · subst short
      rw [if_pos rfl, List.nil_append]
      exact scanUnsigned_of_parts negative (whole (endsDigits_cons rfl _)) rfl exponent
    · rw [if_neg short, List.cons_append]
      exact scanUnsigned_of_parts negative (whole (endsDigits_cons rfl _))
        (scanFraction_append restDigits short (endsDigits_cons rfl _)) exponent
  · refine List.forall_mem_append.mpr
      ⟨List.forall_mem_singleton.mpr (printed_of_isDigit isDigit), ?_⟩
    exact List.forall_mem_append.mpr ⟨printed_fractionText restDigits,
      List.forall_mem_cons.mpr ⟨by decide, printed_exponentText (point - 1)⟩⟩

/-- The text of a magnitude is a numeral. -/
theorem isNumeral_magnitudeText (magnitude : Nat) : IsNumeral (magnitudeText magnitude) := by
  have zero : IsNumeral (['0'] ++ '.' :: ['0']) :=
    isNumeral_point (List.forall_mem_singleton.mpr rfl) (List.cons_ne_nil '0' [])
      (fun _ same => (List.cons.inj same).2.symm) (List.forall_mem_singleton.mpr rfl)
      (List.cons_ne_nil '0' [])
  rw [magnitudeText]
  split
  · exact zero
  · rcases shortest_cases magnitude with none | positive
    · rw [none]
      exact zero
    · have significant := significant_naturalText positive
      dsimp only
      split
      · exact isNumeral_positionalText significant _
      · exact isNumeral_scientificText significant _

end Decimal

/-- The text of a double is cut into one numeral. -/
theorem exists_tokens_doubleText (double : Decimal.Double) :
    ∃ numeral, ∀ rest, EndsNumeral rest →
      tokens (double.text ++ rest) = .numeral numeral :: tokens rest := by
  obtain ⟨⟨first, others, text, isDigit⟩, scans⟩ :=
    Decimal.isNumeral_magnitudeText double.magnitude
  obtain ⟨numeral, scanned⟩ := scans double.negative
  refine ⟨numeral, fun rest ends => ?_⟩
  have found := scanned rest ends
  rw [Decimal.Double.text]
  cases negative : double.negative with
  | true =>
    rw [negative] at found
    exact tokens_of_scanNumeral (Or.inl rfl) found
  | false =>
    rw [negative, text, List.cons_append, ← scanNumeral_of_isDigit isDigit] at found
    rw [if_neg Bool.false_ne_true, text, List.cons_append]
    exact tokens_of_scanNumeral (Or.inr isDigit) found

theorem printed_doubleText (double : Decimal.Double) :
    ∀ character ∈ double.text, 0x20 ≤ character.toNat := by
  have magnitude := (Decimal.isNumeral_magnitudeText double.magnitude).printed
  rw [Decimal.Double.text]
  split
  · exact List.forall_mem_cons.mpr ⟨by decide, magnitude⟩
  · exact magnitude

end Gateway
