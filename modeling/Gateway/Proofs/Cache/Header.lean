/-
This file says what the scan of a header's text comes to. A word counts where decimal digits stand
right behind it, and its age is what all the digits write behind the leftmost such place, provided
that they are those of ASCII and fit 64 bits with a sign; if not there is no age, whatever stands
further on. The two ages are read apart from each other, and neither counts where the text holds
the word against caching.

`Counts`, `Gives` and `Scans` say this of the text as a whole, with no scan in them: each text has
one policy or none that `Scans` allows, and that is the one that is read.
-/

import Gateway.Cache.Header
import Gateway.Proofs.Text.Ranges
import Mathlib.Data.List.TakeWhile
import Mathlib.Order.WellFounded

namespace Gateway.CacheHeader

/-! ### Digits -/

/-- The character is in the class of digits of a pattern. -/
def IsDigit (character : Char) : Prop :=
  (Classes.ofLetter true 'd').contains character = true

theorem isDigit_iff {character : Char} :
    IsDigit character ↔ Unicode.isDecimalDigit character = true := by
  rw [IsDigit, Unicode.contains_ofLetter_digit]

/-- The digits are all that stand at the front of a text that goes on with `after`. -/
structure Run (digits after : List Char) : Prop where
  nonempty : digits ≠ []
  inside : ∀ character ∈ digits, IsDigit character
  ends : ∀ character, after.head? = some character → ¬ IsDigit character

theorem leadingDigits_append {digits after : List Char} (run : Run digits after) :
    leadingDigits (digits ++ after) = digits := by
  have inside : ∀ character ∈ digits, Unicode.isDecimalDigit character = true :=
    fun character member => isDigit_iff.mp (run.inside character member)
  have ends : after.takeWhile Unicode.isDecimalDigit = [] := by
    cases after with
    | nil => rfl
    | cons next rest =>
      exact List.takeWhile_cons_of_neg fun digit => run.ends next rfl (isDigit_iff.mpr digit)
  rw [leadingDigits, List.takeWhile_append_of_pos inside, ends, List.append_nil]

theorem run_leadingDigits {text : List Char} (nonempty : leadingDigits text ≠ []) :
    Run (leadingDigits text) (text.dropWhile Unicode.isDecimalDigit) where
  nonempty := nonempty
  inside _ member := isDigit_iff.mpr (List.mem_takeWhile_imp member)
  ends character next digit := by
    have ends := List.head?_dropWhile_not Unicode.isDecimalDigit text
    rw [next] at ends
    exact absurd (isDigit_iff.mp digit) (Bool.eq_false_iff.mp ends)

/-! ### Places of a word -/

/-- The word stands behind `before`, and `digits` are all the digits right behind it. -/
def Counts (word text before digits : List Char) : Prop :=
  ∃ after, text = before ++ word ++ digits ++ after ∧ Run digits after

/-- No place of the word that counts is further left. -/
structure Leftmost (word text before digits : List Char) : Prop where
  counts : Counts word text before digits
  least : ∀ other others, Counts word text other others → before.length ≤ other.length

variable {word text rest before digits : List Char} {character : Char}

theorem not_counts_nil : ¬ Counts word [] before digits := by
  rintro ⟨after, split, run⟩
  simp only [List.nil_eq, List.append_eq_nil_iff] at split
  exact run.nonempty split.1.2

theorem counts_front_iff :
    Counts word text [] digits ↔
      word <+: text ∧ leadingDigits (text.drop word.length) = digits ∧ digits ≠ [] := by
  constructor
  · rintro ⟨after, rfl, run⟩
    rw [List.nil_append, List.append_assoc, List.drop_left]
    exact ⟨List.prefix_append _ _, leadingDigits_append run, run.nonempty⟩
  · rintro ⟨⟨rest, rfl⟩, rfl, nonempty⟩
    rw [List.drop_left] at nonempty ⊢
    refine ⟨rest.dropWhile Unicode.isDecimalDigit, ?_, run_leadingDigits nonempty⟩
    rw [List.nil_append, List.append_assoc, leadingDigits, List.takeWhile_append_dropWhile]

theorem counts_cons_cons_iff {first : Char} :
    Counts word (character :: rest) (first :: before) digits ↔
      character = first ∧ Counts word rest before digits := by
  simp only [Counts, List.cons_append, List.cons.injEq, and_assoc, exists_and_left]

/-- Where no place counts at the front, the leftmost one is that of the rest. -/
theorem leftmost_cons_iff (elsewhere : ∀ others, ¬ Counts word (character :: rest) [] others) :
    Leftmost word (character :: rest) (character :: before) digits ↔
      Leftmost word rest before digits := by
  constructor
  · rintro ⟨counts, least⟩
    refine ⟨(counts_cons_cons_iff.mp counts).2, fun other others counts => ?_⟩
    exact Nat.le_of_succ_le_succ (least _ _ (counts_cons_cons_iff.mpr ⟨rfl, counts⟩))
  · rintro ⟨counts, least⟩
    refine ⟨counts_cons_cons_iff.mpr ⟨rfl, counts⟩, fun other others counts => ?_⟩
    cases other with
    | nil => exact absurd counts (elsewhere others)
    | cons first other =>
      exact Nat.succ_le_succ (least other others (counts_cons_cons_iff.mp counts).2)

theorem digitsBehind?_eq_some_iff :
    digitsBehind? word text = some digits ↔ ∃ before, Leftmost word text before digits := by
  induction text with
  | nil =>
    constructor
    · intro found
      cases found
    · rintro ⟨before, counts, -⟩
      exact absurd counts not_counts_nil
  | cons character rest inductionHypothesis =>
    have front : (word.isPrefixOf (character :: rest) &&
        !(leadingDigits ((character :: rest).drop word.length)).isEmpty) = true ↔
        ∃ others, Counts word (character :: rest) [] others := by
      simp only [counts_front_iff, exists_and_left, exists_eq_left', Bool.and_eq_true,
        List.isPrefixOf_iff_prefix, Bool.not_eq_true', List.isEmpty_eq_false_iff]
    rw [digitsBehind?]
    by_cases here : ∃ others, Counts word (character :: rest) [] others
    · rw [if_pos (front.mpr here)]
      obtain ⟨others, counts⟩ := here
      have behind := (counts_front_iff.mp counts).2.1
      rw [behind, Option.some.injEq]
      constructor
      · rintro rfl
        exact ⟨[], counts, fun _ _ _ => Nat.zero_le _⟩
      · rintro ⟨before, own, least⟩
        obtain rfl : before = [] :=
          List.eq_nil_of_length_eq_zero (Nat.le_zero.mp (least _ _ counts))
        exact behind.symm.trans (counts_front_iff.mp own).2.1
    · rw [if_neg (fun found => here (front.mp found)), inductionHypothesis]
      have elsewhere := not_exists.mp here
      constructor
      · rintro ⟨before, leftmost⟩
        exact ⟨character :: before, (leftmost_cons_iff elsewhere).mpr leftmost⟩
      · rintro ⟨before, leftmost⟩
        cases before with
        | nil => exact absurd leftmost.counts (elsewhere digits)
        | cons first before =>
          obtain rfl := (counts_cons_cons_iff.mp leftmost.counts).1
          exact ⟨before, (leftmost_cons_iff elsewhere).mp leftmost⟩

/-- A word that counts somewhere has a leftmost place. -/
theorem exists_leftmost (counts : Counts word text before digits) :
    ∃ first behind, Leftmost word text first behind := by
  obtain ⟨first, ⟨behind, own⟩, least⟩ := (measure List.length).wf.has_min
    {other | ∃ others, Counts word text other others} ⟨before, digits, counts⟩
  exact ⟨first, behind, own, fun other others counts =>
    Nat.not_lt.mp (least other ⟨others, counts⟩)⟩

theorem digitsBehind?_eq_none_iff :
    digitsBehind? word text = none ↔ ∀ before digits, ¬ Counts word text before digits := by
  simp only [Option.eq_none_iff_forall_ne_some, ne_eq, digitsBehind?_eq_some_iff]
  constructor
  · intro nowhere before digits counts
    obtain ⟨first, behind, leftmost⟩ := exists_leftmost counts
    exact nowhere behind ⟨first, leftmost⟩
  · rintro nowhere digits ⟨before, leftmost⟩
    exact nowhere before digits leftmost.counts

/-! ### Ages -/

/-- What the word gives for the age of a text. -/
inductive Gives (word text : List Char) : Option Int64 → Prop
  | absent (nowhere : ∀ before digits, ¬ Counts word text before digits) : Gives word text none
  | read {before digits : List Char} (leftmost : Leftmost word text before digits)
    (ascii : ∀ digit ∈ digits, digit.isDigit = true) {age : Int64}
    (worth : age.toInt = Nat.ofDigitChars 10 digits 0) : Gives word text (some age)
  | unread {before digits : List Char} (leftmost : Leftmost word text before digits)
    (unfit : (∃ digit ∈ digits, digit.isDigit = false) ∨
      9223372036854775807 < Nat.ofDigitChars 10 digits 0) : Gives word text none

/-- Digits are read exactly as the number that they write, where it fits. -/
theorem seconds?_eq_some_iff {age : Int64} :
    seconds? digits = some age ↔
      (∀ digit ∈ digits, digit.isDigit = true) ∧ age.toInt = Nat.ofDigitChars 10 digits 0 := by
  rw [seconds?, ← digitsValue_eq_ofDigitChars]
  constructor
  · intro read
    split at read
    · next fits =>
      simp only [Bool.and_eq_true, List.all_eq_true, decide_eq_true_eq] at fits
      cases read
      exact ⟨fits.1, Int64.toInt_ofNat_of_lt fits.2⟩
    · cases read
  · rintro ⟨ascii, worth⟩
    have fits : digitsValue digits < 2 ^ 63 := by
      have bound := age.toInt_lt
      omega
    rw [if_pos (by simpa using ⟨ascii, fits⟩), Option.some.injEq, ← Int64.toInt_inj, worth,
      Int64.toInt_ofNat_of_lt fits]

theorem seconds?_eq_none_iff :
    seconds? digits = none ↔
      (∃ digit ∈ digits, digit.isDigit = false) ∨
        9223372036854775807 < Nat.ofDigitChars 10 digits 0 := by
  rw [← digitsValue_eq_ofDigitChars]
  simp only [seconds?, ite_eq_right_iff, reduceCtorEq, imp_false, Bool.and_eq_true,
    List.all_eq_true, decide_eq_true_eq, not_and_or, not_forall, Bool.not_eq_true, exists_prop]
  exact or_congr_right Nat.not_lt

/-- Each word gives one age or none, which is what is read. -/
theorem gives_iff {age : Option Int64} : Gives word text age ↔ age? word text = age := by
  rw [age?]
  constructor
  · rintro (nowhere | ⟨leftmost, ascii, worth⟩ | ⟨leftmost, unfit⟩)
    · rw [digitsBehind?_eq_none_iff.mpr nowhere, Option.bind_none]
    · rw [digitsBehind?_eq_some_iff.mpr ⟨_, leftmost⟩, Option.bind_some]
      exact seconds?_eq_some_iff.mpr ⟨ascii, worth⟩
    · rw [digitsBehind?_eq_some_iff.mpr ⟨_, leftmost⟩, Option.bind_some]
      exact seconds?_eq_none_iff.mpr unfit
  · rintro rfl
    cases found : digitsBehind? word text with
    | none => exact .absent (digitsBehind?_eq_none_iff.mp found)
    | some digits =>
      obtain ⟨before, leftmost⟩ := digitsBehind?_eq_some_iff.mp found
      rw [Option.bind_some]
      cases read : seconds? digits with
      | none => exact .unread leftmost (seconds?_eq_none_iff.mp read)
      | some age =>
        obtain ⟨ascii, worth⟩ := seconds?_eq_some_iff.mp read
        exact .read leftmost ascii worth

/-- Ages are not negative. -/
theorem Gives.nonneg {age : Int64} (gives : Gives word text (some age)) : 0 ≤ age.toInt := by
  cases gives with
  | read leftmost ascii worth => omega

/-! ### Policies -/

theorem occurs_iff {word text : List Char} : occurs word text = true ↔ word <:+: text := by
  induction text with
  | nil => rw [occurs, List.isEmpty_iff, List.infix_nil]
  | cons character rest inductionHypothesis =>
    rw [occurs, Bool.or_eq_true, List.isPrefixOf_iff_prefix, inductionHypothesis,
      List.infix_cons_iff]

/-- What a text says about caching, if anything. -/
inductive Scans (text : List Char) : Option CachePolicy → Prop
  | forbidden (word : "no-cache".toList <:+: text) : Scans text (some { noCache := true })
  | silent (allowed : ¬ "no-cache".toList <:+: text) (maxAge : Gives "max-age=".toList text none)
    (sharedMaxAge : Gives "s-maxage=".toList text none) : Scans text none
  | ages (allowed : ¬ "no-cache".toList <:+: text) {maxAge sharedMaxAge : Option Int64}
    (givesMaxAge : Gives "max-age=".toList text maxAge)
    (givesSharedMaxAge : Gives "s-maxage=".toList text sharedMaxAge)
    (found : maxAge ≠ none ∨ sharedMaxAge ≠ none) : Scans text (some { maxAge, sharedMaxAge })

theorem ofAges?_of_found {maxAge sharedMaxAge : Option Int64}
    (found : maxAge ≠ none ∨ sharedMaxAge ≠ none) :
    CachePolicy.ofAges? maxAge sharedMaxAge = some { maxAge, sharedMaxAge } := by
  refine if_neg fun silent => ?_
  simp only [CachePolicy.isEmpty, Bool.and_eq_true, Option.isNone_iff_eq_none] at silent
  exact found.elim (· silent.1.2) (· silent.2)

theorem policy?_of_occurs {header : String} (word : "no-cache".toList <:+: header.toList) :
    policy? header = some { noCache := true } :=
  if_pos (occurs_iff.mpr word)

theorem policy?_of_not_occurs {header : String} (allowed : ¬ "no-cache".toList <:+: header.toList) :
    policy? header = CachePolicy.ofAges? (age? "max-age=".toList header.toList)
      (age? "s-maxage=".toList header.toList) :=
  if_neg fun found => allowed (occurs_iff.mp found)

theorem scans_ofAges? (allowed : ¬ "no-cache".toList <:+: text) {maxAge sharedMaxAge : Option Int64}
    (givesMaxAge : Gives "max-age=".toList text maxAge)
    (givesSharedMaxAge : Gives "s-maxage=".toList text sharedMaxAge) :
    Scans text (CachePolicy.ofAges? maxAge sharedMaxAge) := by
  by_cases found : maxAge ≠ none ∨ sharedMaxAge ≠ none
  · rw [ofAges?_of_found found]
    exact .ages allowed givesMaxAge givesSharedMaxAge found
  · simp only [not_or, not_not] at found
    obtain ⟨rfl, rfl⟩ := found
    exact .silent allowed givesMaxAge givesSharedMaxAge

/-- A text has one policy or none, which is what is read. -/
theorem policy?_eq_iff {header : String} {result : Option CachePolicy} :
    policy? header = result ↔ Scans header.toList result := by
  constructor
  · rintro rfl
    by_cases word : "no-cache".toList <:+: header.toList
    · rw [policy?_of_occurs word]
      exact .forbidden word
    · rw [policy?_of_not_occurs word]
      exact scans_ofAges? word (gives_iff.mpr rfl) (gives_iff.mpr rfl)
  · rintro (word | ⟨allowed, maxAge, sharedMaxAge⟩ | ⟨allowed, maxAge, sharedMaxAge, found⟩)
    · exact policy?_of_occurs word
    · rw [policy?_of_not_occurs allowed, gives_iff.mp maxAge, gives_iff.mp sharedMaxAge]
      rfl
    · rw [policy?_of_not_occurs allowed, gives_iff.mp maxAge, gives_iff.mp sharedMaxAge,
        ofAges?_of_found found]

/-- The policy of every text is what the scan of it as a whole comes to. It forbids caching exactly
where the text holds the word for that, it is missing exactly where the text neither holds the word
nor gives an age, and no age in it is negative. -/
theorem scans_iff (header : String) :
    (∀ result, policy? header = result ↔ Scans header.toList result) ∧
    (policy? header = some { noCache := true } ↔ "no-cache".toList <:+: header.toList) ∧
    (policy? header = none ↔ ¬ "no-cache".toList <:+: header.toList ∧
      Gives "max-age=".toList header.toList none ∧
      Gives "s-maxage=".toList header.toList none) ∧
    ∀ policy age, policy? header = some policy →
      policy.maxAge = some age ∨ policy.sharedMaxAge = some age → 0 ≤ age.toInt := by
  refine ⟨fun result => policy?_eq_iff, ?_, ?_, ?_⟩
  · constructor
    · intro forbidden
      cases policy?_eq_iff.mp forbidden with
      | forbidden word => exact word
    · exact policy?_of_occurs
  · constructor
    · intro missing
      cases policy?_eq_iff.mp missing with
      | silent allowed maxAge sharedMaxAge => exact ⟨allowed, maxAge, sharedMaxAge⟩
    · rintro ⟨allowed, maxAge, sharedMaxAge⟩
      exact policy?_eq_iff.mpr (.silent allowed maxAge sharedMaxAge)
  · intro policy age scanned either
    cases policy?_eq_iff.mp scanned with
    | forbidden => simp at either
    | ages allowed givesMaxAge givesSharedMaxAge found =>
      rcases either with rfl | rfl
      · exact givesMaxAge.nonneg
      · exact givesSharedMaxAge.nonneg

/-- Of the places of a word the leftmost with digits counts, also in a longer word, and leading
zeros do no harm; digits that are not of ASCII hide the later ones. -/
theorem scans_iff_hero :
    Scans "xmax-age=a, max-age=007, max-age=9, s-maxage=\u0663, s-maxage=5".toList
      (some { maxAge := some 7 }) ∧ 0 ≤ (7 : Int64).toInt := by
  obtain ⟨scans, -, -, nonneg⟩ :=
    scans_iff "xmax-age=a, max-age=007, max-age=9, s-maxage=\u0663, s-maxage=5"
  exact ⟨(scans _).mp (by decide), nonneg { maxAge := some 7 } 7 (by decide) (Or.inl rfl)⟩

end Gateway.CacheHeader
