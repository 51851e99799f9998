/-
This file proves how patterns are read that look for a word, alone or with digits behind it. Plain
characters are read one by one and leave the rest of the pattern as it is, so a word is read into
its characters whatever follows it; the expression then puts neighbouring characters together again.
-/

import Gateway.Pattern
import Gateway.Proofs.Text.Ranges

namespace Gateway

open Unicode (CharSet)

/-! ### The class of digits -/

/-- The digits of all scripts, as patterns name them. -/
def Classes.digits : CharSet := Classes.ofLetter true 'd'

/-- The table of digits is in order, so ordering it changes nothing. -/
theorem Classes.digits_eq : digits = ⟨CharSet.join Unicode.decimalDigits.ranges⟩ := by
  have ascending : CharSet.Ascending Unicode.decimalDigits.ranges := by decide
  have named : digits = CharSet.ofRanges Unicode.decimalDigits.ranges := rfl
  rw [named, CharSet.ofRanges,
    List.mergeSort_of_pairwise (by simpa [CharSet.Ascending] using ascending)]
  rfl

/-- A word with digits behind it that a group remembers. -/
def Expr.wordWithDigits (word : List Char) : Expr :=
  .cat (.literal word) (.group 1 (.repeated (.set Classes.digits false) 1 none true))

/-! ### Neighbouring characters -/

namespace Expr

/-- The characters of a word as they are read. -/
def characters (word : List Char) : List Expr :=
  word.map fun character => .literal [character]

theorem mergeLiterals_characters {word : List Char} (nonempty : word ≠ []) {rest : List Expr}
    (settled : ∀ before, mergeLiterals (.literal before :: rest) = .literal before :: rest) :
    mergeLiterals (characters word ++ rest) = .literal word :: rest := by
  induction word with
  | nil => exact absurd rfl nonempty
  | cons character others inductionHypothesis =>
    cases others with
    | nil => exact settled [character]
    | cons second more =>
      rw [characters, List.map_cons, List.cons_append, mergeLiterals, ← characters,
        inductionHypothesis (List.cons_ne_nil second more)]
      rfl

theorem flatMap_parts_characters (word : List Char) :
    (characters word).flatMap parts = characters word := by
  rw [characters, List.flatMap_map]
  exact List.map_eq_flatMap.symm

theorem catAll_characters {word : List Char} (nonempty : word ≠ []) :
    catAll (characters word) = .literal word := by
  have settled (before : List Char) : mergeLiterals [.literal before] = [.literal before] := rfl
  have merged := mergeLiterals_characters nonempty settled
  rw [List.append_nil] at merged
  rw [catAll, flatMap_parts_characters, merged, sequence]

theorem catAll_characters_group {word : List Char} (nonempty : word ≠ []) (number : Nat)
    (body : Expr) :
    catAll (characters word ++ [.group number body]) =
      .cat (.literal word) (.group number body) := by
  have isPart : [Expr.group number body].flatMap parts = [.group number body] := rfl
  rw [catAll, List.flatMap_append, flatMap_parts_characters, isPart,
    mergeLiterals_characters nonempty fun before => rfl]
  rfl

end Expr

namespace PatternReader

/-! ### Steps -/

/-- The characters that stand for themselves outside brackets. -/
def IsPlain (character : Char) : Prop :=
  character ∉ ['(', ')', '|', '?', '*', '+', '\x7b', '[', '\\', '.', '^', '$']

instance (character : Char) : Decidable (IsPlain character) :=
  inferInstanceAs (Decidable (character ∉ _))

theorem isPlain_of_all {word : List Char} (all : word.all (IsPlain ·) = true) :
    ∀ character ∈ word, IsPlain character := by
  simpa only [List.all_eq_true, decide_eq_true_eq] using all

theorem character_default (character : Char) :
    Flags.character {} character = .literal [character] := by
  have single : Flags.character {} character = .literal [Char.ofNat character.toNat] := if_pos rfl
  rw [single, Char.ofNat_toNat]

theorem step_plain {reading : Reading} (initial : reading.flags = {}) {character : Char}
    (plain : IsPlain character) (rest : List Char) :
    reading.step (character :: rest) = some (reading.add (.literal [character]) 0, rest) := by
  simp only [IsPlain, List.mem_cons, List.not_mem_nil, or_false, not_or] at plain
  rw [← character_default, ← initial]
  unfold Reading.step
  split
  all_goals simp_all

theorem step_digits {reading : Reading} (initial : reading.flags = {}) (rest : List Char) :
    reading.step ('\\' :: 'd' :: rest) =
      some (reading.add (.set Classes.digits false) 0, rest) := by
  have isSet : Flags.set {} Classes.digits = .set Classes.digits false := by
    rw [Classes.digits_eq]
    rfl
  rw [← isSet, ← initial]
  unfold Reading.step
  simp only [readEscape, initial]
  rfl

theorem readOn_step {reading next : Reading} (initial : reading.flags = {}) {character : Char}
    {rest after : List Char} (step : reading.step (character :: rest) = some (next, after))
    (fuel : Nat) :
    readOn (fuel + 1) reading (character :: rest) = readOn fuel next after := by
  have skip : reading.flags.skip (character :: rest) = character :: rest := by
    rw [initial]
    rfl
  simp only [readOn, skip, step]
  rfl

/-! ### Parts of a pattern without groups around them -/

/-- The reading of a pattern behind parts, the last one first, and so many groups with a number. -/
def behind (parts : List Part) (numbered : Nat) : Reading :=
  ⟨{}, ⟨none, {}, [], parts⟩, [], numbered, []⟩

/-- The parts of a word, the last one first. -/
def wordParts (word : List Char) : List Part :=
  (word.map fun character => ⟨.literal [character], 0, true⟩).reverse

/-- The part of a group that holds digits. -/
def digitsPart : Part :=
  ⟨.group 1 (.repeated (.set Classes.digits false) 1 none true), 2, true⟩

theorem readOn_word {word : List Char} (plain : ∀ character ∈ word, IsPlain character)
    (parts : List Part) (numbered : Nat) (rest : List Char) (fuel : Nat) :
    readOn (fuel + word.length) (behind parts numbered) (word ++ rest) =
      readOn fuel (behind (wordParts word ++ parts) numbered) rest := by
  induction word generalizing parts with
  | nil => rfl
  | cons character others inductionHypothesis =>
    obtain ⟨plainFirst, plainOthers⟩ := List.forall_mem_cons.mp plain
    have isBehind : (behind parts numbered).add (.literal [character]) 0 =
        behind (⟨.literal [character], 0, true⟩ :: parts) numbered := rfl
    rw [List.length_cons, ← Nat.add_assoc, List.cons_append,
      readOn_step rfl (step_plain rfl plainFirst _), isBehind, inductionHypothesis plainOthers]
    simp only [wordParts, List.map_cons, List.reverse_cons, List.append_assoc,
      List.singleton_append]

/-- A set of many characters is repeated as it stands. -/
theorem repeatedly_digits :
    (Expr.set Classes.digits false).repeatedly 1 none true =
      .repeated (.set Classes.digits false) 1 none true := by
  rw [Classes.digits_eq]
  rfl

/-- The reading inside the first group with a number, behind parts of the group and of what is
around it. -/
def inside (inner outer : List Part) : Reading :=
  ⟨{}, ⟨some 1, {}, [], inner⟩, [⟨none, {}, [], outer⟩], 1, []⟩

theorem readOn_digits (parts : List Part) (rest : List Char) (fuel : Nat) :
    readOn (fuel + 4) (behind parts 0) ('(' :: '\\' :: 'd' :: '+' :: ')' :: rest) =
      readOn fuel (behind (digitsPart :: parts) 1) rest := by
  have opened (others : List Char) :
      (behind parts 0).step ('(' :: '\\' :: others) = some (inside [] parts, '\\' :: others) := rfl
  have repeated :
      (inside [⟨.set Classes.digits false, 0, true⟩] parts).step ('+' :: ')' :: rest) =
        some (inside [⟨.repeated (.set Classes.digits false) 1 none true, 1, true⟩] parts,
          ')' :: rest) := by
    rw [← repeatedly_digits]
    rfl
  have closed :
      (inside [⟨.repeated (.set Classes.digits false) 1 none true, 1, true⟩] parts).step
        (')' :: rest) = some (behind (digitsPart :: parts) 1, rest) := rfl
  rw [readOn_step rfl (opened _), readOn_step rfl (step_digits rfl _)]
  exact (readOn_step rfl repeated (fuel + 1)).trans (readOn_step rfl closed fuel)

/-! ### Whole patterns -/

/-- The parts of a word do not nest. -/
theorem foldl_height_wordParts (word : List Char) (height : Nat) :
    ((wordParts word).map Part.height).foldl max height = height := by
  have flat : ∀ part ∈ wordParts word, part.height = 0 := by
    simp only [wordParts, List.mem_reverse, List.mem_map]
    rintro part ⟨character, -, rfl⟩
    rfl
  generalize wordParts word = parts at flat ⊢
  induction parts with
  | nil => rfl
  | cons part rest inductionHypothesis =>
    obtain ⟨isZero, others⟩ := List.forall_mem_cons.mp flat
    rw [List.map_cons, List.foldl_cons, isZero, Nat.max_zero, inductionHypothesis others]

theorem map_expression_wordParts (word : List Char) :
    (wordParts word).reverse.map Part.expression = Expr.characters word := by
  rw [wordParts, List.reverse_reverse, List.map_map]
  rfl

theorem length_wordParts (word : List Char) : (wordParts word).length = word.length := by
  rw [wordParts, List.length_reverse, List.length_map]

/-- Several parts are put one after the other. -/
theorem branch_of_several {parts : List Part} (several : 2 ≤ parts.length) :
    OpenGroup.branch ⟨none, {}, [], parts⟩ =
      (Expr.catAll (parts.reverse.map Part.expression),
        (parts.map Part.height).foldl max 0 + 1) := by
  match parts, several with
  | _ :: _ :: _, _ => rfl

theorem branch_wordParts {word : List Char} (nonempty : word ≠ []) :
    ∃ height, height ≤ nestingLimit ∧
      OpenGroup.branch ⟨none, {}, [], wordParts word⟩ = (.literal word, height) := by
  cases word with
  | nil => exact absurd rfl nonempty
  | cons first rest =>
    cases rest with
    | nil => exact ⟨0, by decide, rfl⟩
    | cons second more =>
      refine ⟨1, by decide, ?_⟩
      rw [branch_of_several (by rw [length_wordParts]; exact Nat.le_add_left _ _),
        foldl_height_wordParts, map_expression_wordParts, Expr.catAll_characters nonempty]

theorem branch_digitsPart_wordParts {word : List Char} (nonempty : word ≠ []) :
    OpenGroup.branch ⟨none, {}, [], digitsPart :: wordParts word⟩ =
      (.wordWithDigits word, 3) := by
  have several : 2 ≤ (digitsPart :: wordParts word).length := by
    rw [List.length_cons, length_wordParts]
    exact Nat.succ_le_succ (List.length_pos_iff.mpr nonempty)
  rw [branch_of_several several, List.map_cons, List.foldl_cons, foldl_height_wordParts,
    List.reverse_cons, List.map_append, map_expression_wordParts, Expr.wordWithDigits,
    ← Expr.catAll_characters_group nonempty]
  rfl

theorem readOn_nil {parts : List Part} {numbered height : Nat} {expression : Expr}
    (isBranch : OpenGroup.branch ⟨none, {}, [], parts⟩ = (expression, height))
    (shallow : height ≤ nestingLimit) (fits : expression.fits = true) (fuel : Nat) :
    readOn (fuel + 1) (behind parts numbered) [] = some expression := by
  have all : (behind parts numbered).group.all = (expression, height) := isBranch
  have skip : (behind parts numbered).flags.skip [] = [] := rfl
  simp only [readOn, skip, all]
  exact if_pos ⟨rfl, shallow, fits⟩

/-- A pattern of plain characters is the word of them. -/
theorem read_word {word : List Char} (nonempty : word ≠ [])
    (plain : ∀ character ∈ word, IsPlain character) (fits : (Expr.literal word).fits = true) :
    read (String.ofList word) = some (.literal word) := by
  have rounds : (String.ofList word).length + 1 = 0 + 1 + word.length := by
    rw [String.length_ofList, Nat.zero_add, Nat.add_comm]
  have isRead := readOn_word plain [] 0 [] (0 + 1)
  rw [List.append_nil, List.append_nil] at isRead
  obtain ⟨height, shallow, isBranch⟩ := branch_wordParts nonempty
  rw [read, rounds, String.toList_ofList]
  exact isRead.trans (readOn_nil isBranch shallow fits 0)

theorem read_wordWithDigits {word : List Char} (nonempty : word ≠ [])
    (plain : ∀ character ∈ word, IsPlain character)
    (fits : (Expr.wordWithDigits word).fits = true) :
    read (String.ofList (word ++ "(\\d+)".toList)) = some (.wordWithDigits word) := by
  have isCharacters : "(\\d+)".toList = ['(', '\\', 'd', '+', ')'] := rfl
  have rounds : (String.ofList (word ++ "(\\d+)".toList)).length + 1 =
      0 + 1 + 1 + 4 + word.length := by
    rw [String.length_ofList, List.length_append, isCharacters]
    simp only [List.length_cons, List.length_nil]
    omega
  have isRead := readOn_word plain [] 0 "(\\d+)".toList (0 + 1 + 1 + 4)
  rw [List.append_nil] at isRead
  rw [read, rounds, String.toList_ofList]
  refine isRead.trans ?_
  rw [isCharacters, readOn_digits]
  exact readOn_nil (branch_digitsPart_wordParts nonempty) (by decide) fits 1

end PatternReader

/-- A text that is read as an expression writes a pattern with it. -/
theorem Pattern.exists_compile?_of_read {source : String} {expression : Expr}
    (reads : PatternReader.read source = some expression) :
    ∃ pattern, compile? source = some pattern ∧ pattern.expression = expression :=
  ⟨_, compile?_source ⟨source, expression, reads⟩, rfl⟩

end Gateway
