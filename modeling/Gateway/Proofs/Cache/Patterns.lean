/-
This file proves that the scan of a header finds what three patterns find in it: the word against
caching, and each word for an age with digits behind it. Of all the parts of a text that a pattern
takes, the first is the one furthest left, and the longest there, since the digits take as many as
they can; the group of the pattern then holds what stands behind the word in that part.
-/

import Gateway.Proofs.Cache.Header
import Gateway.Proofs.Pattern.Occurrence
import Gateway.Proofs.Pattern.Words

namespace Gateway

open Unicode (CharSet)

/-! ### What the patterns take -/

theorem append_prefix_iff {α : Type} {first second list : List α} :
    first ++ second <+: list ↔ first <+: list ∧ second <+: list.drop first.length := by
  constructor
  · rintro ⟨rest, rfl⟩
    rw [List.append_assoc, List.drop_left]
    exact ⟨List.prefix_append _ _, List.prefix_append _ _⟩
  · rintro ⟨⟨rest, rfl⟩, behind⟩
    rw [List.drop_left] at behind
    exact (List.prefix_append_right_inj first).mpr behind

namespace Expr

variable {text word : List Char} {start stop : Nat}

/-- Characters of a set, so many of them, are a run of the text. -/
theorem times_set_iff {characters : CharSet} {ascii : Bool} {count : Nat} :
    Times ((Expr.set characters ascii).Takes text) count start stop ↔
      ∃ run, run.length = count ∧ run <+: text.drop start ∧
        (∀ character ∈ run, characters.contains character = true) ∧ stop = start + count := by
  induction count generalizing start with
  | zero =>
    rw [Times.zero_iff]
    constructor
    · rintro rfl
      exact ⟨[], rfl, List.nil_prefix, List.forall_mem_nil _, rfl⟩
    · rintro ⟨run, -, -, -, rfl⟩
      rfl
  | succ count inductionHypothesis =>
    simp only [Times.succ_iff, inductionHypothesis]
    constructor
    · rintro ⟨middle, ⟨⟨character, here, isMember⟩, rfl⟩, run, rfl, front, members, rfl⟩
      exact ⟨character :: run, rfl, prefix_drop_cons_iff.mpr ⟨here, front⟩,
        List.forall_mem_cons.mpr ⟨isMember, members⟩, by omega⟩
    · rintro ⟨run, isLength, front, members, rfl⟩
      obtain ⟨character, rest, rfl⟩ := List.exists_cons_of_length_eq_add_one isLength
      obtain ⟨here, front⟩ := prefix_drop_cons_iff.mp front
      obtain ⟨isMember, members⟩ := List.forall_mem_cons.mp members
      exact ⟨start + 1, ⟨⟨character, here, isMember⟩, rfl⟩, rest, Nat.succ_inj.mp isLength, front,
        members, by omega⟩

theorem takes_wordWithDigits_iff :
    (wordWithDigits word).Takes text start stop ↔
      ∃ digits, digits ≠ [] ∧ word ++ digits <+: text.drop start ∧
        (∀ character ∈ digits, CacheHeader.IsDigit character) ∧
        stop = start + word.length + digits.length := by
  simp only [append_prefix_iff, List.drop_drop]
  constructor
  · rintro ⟨middle, ⟨front, rfl⟩, count, ⟨enough, -⟩, times⟩
    obtain ⟨digits, rfl, behind, members, rfl⟩ := times_set_iff.mp times
    exact ⟨digits, List.length_pos_iff.mp enough, ⟨front, behind⟩, members, rfl⟩
  · rintro ⟨digits, nonempty, ⟨front, behind⟩, members, rfl⟩
    exact ⟨_, ⟨front, rfl⟩, digits.length, ⟨List.length_pos_iff.mpr nonempty, nofun⟩,
      times_set_iff.mpr ⟨digits, rfl, behind, members, rfl⟩⟩

/-- The part of the text that the expression takes first: no other starts further left, and none
from there is longer. -/
structure TakesFirst (expression : Expr) (text : List Char) (start stop : Nat) : Prop where
  takes : expression.Takes text start stop
  leftmost : ∀ other others, expression.Takes text other others → start ≤ other
  longest : ∀ further, expression.Takes text start further → further ≤ stop

end Expr

namespace CacheHeader

variable {text word before digits : List Char} {start stop : Nat}

theorem Counts.takes (counts : Counts word text before digits) :
    (Expr.wordWithDigits word).Takes text before.length
      (before.length + word.length + digits.length) := by
  obtain ⟨after, rfl, run⟩ := counts
  refine Expr.takes_wordWithDigits_iff.mpr ⟨digits, run.nonempty, ?_, run.inside, rfl⟩
  rw [List.append_assoc, List.append_assoc, List.drop_left, ← List.append_assoc]
  exact List.prefix_append _ _

/-- Digits at the front of a text are among the leading ones. -/
theorem prefix_leadingDigits (front : digits <+: text)
    (members : ∀ character ∈ digits, IsDigit character) : digits <+: leadingDigits text := by
  obtain ⟨rest, rfl⟩ := front
  rw [leadingDigits, List.takeWhile_append_of_pos fun character member =>
    isDigit_iff.mp (members character member)]
  exact List.prefix_append _ _

/-- The digits that count are all that the pattern can take. -/
theorem Counts.longest (counts : Counts word text before digits)
    (takes : (Expr.wordWithDigits word).Takes text before.length stop) :
    stop ≤ before.length + word.length + digits.length := by
  obtain ⟨after, rfl, run⟩ := counts
  obtain ⟨others, -, front, members, rfl⟩ := Expr.takes_wordWithDigits_iff.mp takes
  rw [List.append_assoc, List.append_assoc, List.drop_left, List.prefix_append_right_inj] at front
  have within := (prefix_leadingDigits front members).length_le
  rw [leadingDigits_append run] at within
  omega

theorem exists_counts_of_takes (takes : (Expr.wordWithDigits word).Takes text start stop) :
    ∃ before digits, before.length = start ∧ Counts word text before digits := by
  obtain ⟨others, nonempty, front, members, -⟩ := Expr.takes_wordWithDigits_iff.mp takes
  have inside : start < text.length := by
    have fits := front.length_le
    have some := List.length_pos_iff.mpr nonempty
    rw [List.length_append, List.length_drop] at fits
    omega
  obtain ⟨atWord, behind⟩ := append_prefix_iff.mp front
  have nonempty : leadingDigits ((text.drop start).drop word.length) ≠ [] := by
    intro isEmpty
    have none := prefix_leadingDigits behind members
    rw [isEmpty, List.prefix_nil] at none
    exact nonempty none
  obtain ⟨after, split, run⟩ := counts_front_iff.mpr ⟨atWord, rfl, nonempty⟩
  refine ⟨text.take start, _, List.length_take_of_le inside.le, after, ?_, run⟩
  rw [List.nil_append] at split
  rw [List.append_assoc, List.append_assoc, ← List.append_assoc word, ← split,
    List.take_append_drop]

/-- What the digits of the first part hold that the pattern takes. -/
theorem digitsBehind?_eq_some_iff_takesFirst :
    digitsBehind? word text = some digits ↔
      ∃ start stop, (Expr.wordWithDigits word).TakesFirst text start stop ∧
        digits = (text.take stop).drop (start + word.length) := by
  have slice {before digits : List Char} (counts : Counts word text before digits) :
      (text.take (before.length + word.length + digits.length)).drop
        (before.length + word.length) = digits := by
    obtain ⟨after, rfl, -⟩ := counts
    rw [List.take_left' (by simp only [List.length_append]),
      List.drop_left' (by rw [List.length_append])]
  rw [digitsBehind?_eq_some_iff]
  constructor
  · rintro ⟨before, counts, least⟩
    refine ⟨before.length, _, ⟨counts.takes, fun other others takes => ?_,
      fun further takes => counts.longest takes⟩, (slice counts).symm⟩
    obtain ⟨before, digits, rfl, counts⟩ := exists_counts_of_takes takes
    exact least before digits counts
  · rintro ⟨start, stop, first, rfl⟩
    obtain ⟨before, digits, rfl, counts⟩ := exists_counts_of_takes first.takes
    obtain rfl : stop = before.length + word.length + digits.length :=
      Nat.le_antisymm (counts.longest first.takes) (first.longest _ counts.takes)
    rw [slice counts]
    exact ⟨before, counts, fun other others counts => first.leftmost _ _ counts.takes⟩

theorem occursIn_wordWithDigits (word : List Char) (text : String) :
    (Expr.wordWithDigits word).occursIn text = (digitsBehind? word text.toList).isSome := by
  rw [Bool.eq_iff_iff, Expr.occursIn_iff, Option.isSome_iff_ne_none, ne_eq,
    digitsBehind?_eq_none_iff]
  simp only [not_forall, not_not]
  constructor
  · rintro ⟨start, stop, -, takes⟩
    obtain ⟨before, digits, -, counts⟩ := exists_counts_of_takes takes
    exact ⟨before, digits, counts⟩
  · rintro ⟨before, digits, counts⟩
    refine ⟨_, _, ?_, counts.takes⟩
    obtain ⟨after, split, -⟩ := counts
    rw [split]
    simp only [List.length_append]
    omega

theorem occursIn_literal (word : List Char) (text : String) :
    (Expr.literal word).occursIn text = occurs word text.toList := by
  rw [Bool.eq_iff_iff, Expr.occursIn_iff, occurs_iff]
  constructor
  · rintro ⟨start, stop, -, front, -⟩
    exact front.isInfix.trans (List.drop_suffix _ _).isInfix
  · rintro ⟨before, after, split⟩
    rw [← split]
    refine ⟨before.length, _, ?_, ?_, rfl⟩
    · simp only [List.length_append]
      omega
    · rw [List.append_assoc, List.drop_left]
      exact List.prefix_append _ _

/-! ### The patterns -/

theorem fits_digits (word : List Char) (known : word = maxAgeWord ∨ word = sharedMaxAgeWord) :
    (Expr.wordWithDigits word).fits = true := by
  rw [Expr.wordWithDigits, Classes.digits_eq]
  rcases known with rfl | rfl <;> decide +kernel

/-- What the group of digits holds where the pattern matches first, if it matches. -/
inductive Captures (pattern : Pattern) (word : List Char) (text : String) :
    Option (List Char) → Prop
  | absent (nowhere : pattern.isMatch text = false) : Captures pattern word text none
  | found {start stop : Nat}
    (first : pattern.expression.TakesFirst text.toList start stop) :
    Captures pattern word text (some ((text.toList.take stop).drop (start + word.length)))

theorem captures_iff {pattern : Pattern} (isWord : pattern.expression = .wordWithDigits word)
    {header : String} {group : Option (List Char)} :
    Captures pattern word header group ↔ digitsBehind? word header.toList = group := by
  have isMatch : pattern.isMatch header = (digitsBehind? word header.toList).isSome := by
    rw [Pattern.isMatch, isWord, occursIn_wordWithDigits]
  constructor
  · rintro (nowhere | first)
    · rw [isMatch, Option.isSome_eq_false_iff, Option.isNone_iff_eq_none] at nowhere
      exact nowhere
    · rw [isWord] at first
      exact digitsBehind?_eq_some_iff_takesFirst.mpr ⟨_, _, first, rfl⟩
  · rintro rfl
    cases found : digitsBehind? word header.toList with
    | none => exact .absent (by rw [isMatch, found, Option.isSome_none])
    | some digits =>
      obtain ⟨start, stop, first, rfl⟩ := digitsBehind?_eq_some_iff_takesFirst.mp found
      exact .found (isWord ▸ first)

/-- The words for ages make patterns with digits behind them. -/
theorem exists_agePattern {word : List Char} (known : word = maxAgeWord ∨ word = sharedMaxAgeWord) :
    ∃ pattern, Pattern.compile? (String.ofList (word ++ "(\\d+)".toList)) = some pattern ∧
      pattern.expression = .wordWithDigits word := by
  have plain : word.all (PatternReader.IsPlain ·) = true := by
    rcases known with rfl | rfl <;> decide +kernel
  have nonempty : word ≠ [] := by
    rcases known with rfl | rfl <;> decide +kernel
  exact Pattern.exists_compile?_of_read
    (PatternReader.read_wordWithDigits nonempty (PatternReader.isPlain_of_all plain)
      (fits_digits word known))

/-- The word against caching makes a pattern. -/
theorem exists_noCachePattern :
    ∃ pattern, Pattern.compile? (String.ofList noCacheWord) = some pattern ∧
      pattern.expression = .literal noCacheWord := by
  have plain : noCacheWord.all (PatternReader.IsPlain ·) = true := by decide +kernel
  exact Pattern.exists_compile?_of_read
    (PatternReader.read_word (by decide +kernel) (PatternReader.isPlain_of_all plain)
      (by decide +kernel))

/-- The policy of a header is read off the first matches of three patterns. -/
theorem policy?_eq_of_patterns :
    ∃ noCache maxAge sharedMaxAge : Pattern,
      Pattern.compile? "no-cache" = some noCache ∧
      Pattern.compile? "max-age=(\\d+)" = some maxAge ∧
      Pattern.compile? "s-maxage=(\\d+)" = some sharedMaxAge ∧
      ∀ header, ∃ group sharedGroup,
        Captures maxAge maxAgeWord header group ∧
        Captures sharedMaxAge sharedMaxAgeWord header sharedGroup ∧
        policy? header =
          if noCache.isMatch header then some CachePolicy.forbidden
          else CachePolicy.ofAges? (group.bind seconds?) (sharedGroup.bind seconds?) := by
  obtain ⟨noCache, compiles, isWord⟩ := exists_noCachePattern
  obtain ⟨maxAge, compilesAge, isAge⟩ := exists_agePattern (.inl rfl)
  obtain ⟨sharedMaxAge, compilesShared, isShared⟩ := exists_agePattern (.inr rfl)
  refine ⟨noCache, maxAge, sharedMaxAge, compiles, compilesAge, compilesShared, fun header =>
    ⟨_, _, (captures_iff isAge).mpr rfl, (captures_iff isShared).mpr rfl, ?_⟩⟩
  rw [Pattern.isMatch, isWord, occursIn_literal]
  rfl

end CacheHeader

end Gateway
