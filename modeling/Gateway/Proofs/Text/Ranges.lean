/-
This file says which code points a set of ranges holds. A look-up walks the ranges in order and
stops where one starts too late, and a set is made by ordering ranges and joining those that touch;
neither gains nor loses a code point. So the class of decimal digits that patterns write holds the
same characters as the table of the digits of all scripts.
-/

import Gateway.Pattern.Classes

namespace Gateway.Unicode

namespace CharSet

/-- The ranges are ordered by their starts. -/
def Ascending (ranges : List (Nat × Nat)) : Prop :=
  ranges.Pairwise fun first second => first.1 ≤ second.1

instance (ranges : List (Nat × Nat)) : Decidable (Ascending ranges) :=
  inferInstanceAs (Decidable (ranges.Pairwise _))

variable {ranges : List (Nat × Nat)} {point : Nat}

/-- Of ranges that ascend a look-up misses none by stopping where one starts too late. -/
theorem inRanges_iff (ascending : Ascending ranges) :
    inRanges point ranges = true ↔ ∃ range ∈ ranges, range.1 ≤ point ∧ point ≤ range.2 := by
  induction ranges with
  | nil => simp [inRanges]
  | cons range rest inductionHypothesis =>
    obtain ⟨later, restAscending⟩ := List.pairwise_cons.mp ascending
    simp only [List.mem_cons, exists_eq_or_imp, ← inductionHypothesis restAscending, inRanges]
    by_cases early : point < range.1
    · have nowhere : inRanges point rest = false := by
        cases rest with
        | nil => rfl
        | cons next others =>
          have later : range.1 ≤ next.1 := later next List.mem_cons_self
          rw [inRanges, if_pos (Nat.lt_of_lt_of_le early later)]
      simp [early, nowhere, Nat.not_le.mpr early]
    · by_cases inside : point ≤ range.2
      · simp [early, inside, Nat.not_lt.mp early]
      · simp [early, inside]

/-- Ranges are joined without a gain or a loss of code points. -/
theorem inRanges_joinFrom (low high : Nat) :
    inRanges point (joinFrom low high ranges) = inRanges point ((low, high) :: ranges) := by
  induction ranges generalizing low high with
  | nil => rfl
  | cons next rest inductionHypothesis =>
    rw [joinFrom]
    split
    · next touching =>
      rw [inductionHypothesis]
      simp only [inRanges]
      by_cases inside : point ≤ high
      · have insideJoined : point ≤ max high next.2 := by omega
        simp only [inside, insideJoined, if_true]
      · -- behind the first range the point has also passed the start of the one that touches it
        have reached : ¬ point < next.1 := by omega
        have joined : point ≤ max high next.2 ↔ point ≤ next.2 := by omega
        simp only [inside, reached, joined, if_false]
    · simp only [inRanges, inductionHypothesis]

theorem inRanges_join (ranges : List (Nat × Nat)) :
    inRanges point (join ranges) = inRanges point ranges := by
  cases ranges with
  | nil => rfl
  | cons range rest => exact inRanges_joinFrom range.1 range.2

/-- Ranges in any order make the set of the code points in them. -/
theorem holds_ofRanges (ranges : List (Nat × Nat)) :
    (ofRanges ranges).holds point = true ↔ ∃ range ∈ ranges, range.1 ≤ point ∧ point ≤ range.2 := by
  have ascending : Ascending ((ranges.mergeSort fun first second => first.1 ≤ second.1).filter
      fun range => range.1 ≤ range.2) := by
    refine List.Pairwise.filter _ ?_
    refine (List.pairwise_mergeSort ?_ ?_ ranges).imp fun before => by simpa using before
    · intro first second third before next
      simp only [decide_eq_true_eq] at before next ⊢
      omega
    · intro first second
      simp only [Bool.or_eq_true, decide_eq_true_eq]
      omega
  rw [holds, ofRanges, inRanges_join, inRanges_iff ascending]
  simp only [List.mem_filter, List.mem_mergeSort, decide_eq_true_eq]
  constructor
  · rintro ⟨range, ⟨inside, -⟩, between⟩
    exact ⟨range, inside, between⟩
  · rintro ⟨range, inside, between⟩
    exact ⟨range, ⟨inside, Nat.le_trans between.1 between.2⟩, between⟩

end CharSet

/-- The class of digits of a pattern holds the decimal digits of all scripts. -/
theorem contains_ofLetter_digit (character : Char) :
    (Classes.ofLetter true 'd').contains character = isDecimalDigit character := by
  have ascending : CharSet.Ascending decimalDigits.ranges := by decide
  have named : Classes.ofLetter true 'd' = CharSet.ofRanges decimalDigits.ranges := rfl
  rw [Bool.eq_iff_iff, named, isDecimalDigit, CharSet.contains, CharSet.contains,
    CharSet.holds_ofRanges, CharSet.holds, CharSet.inRanges_iff ascending]

end Gateway.Unicode
