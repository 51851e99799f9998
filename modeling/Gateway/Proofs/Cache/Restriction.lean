/-
This file orders cache policies by how much they restrict, and says that merging two of them is
their greatest lower bound: the most that may be cached without doing more than either allows. A
policy that says nothing is the top of the order, so it is neutral, and so is a missing one. The
policies are taken with no age beside the word against caching; one that has both is as good as the
policy that forbids caching, and merging turns it into that. So merging more than one policy comes
to the same in any order and with any brackets, whatever policies they are.
-/

import Gateway.Cache.Policy
import Mathlib.Data.List.Perm.Basic
import Mathlib.Order.Bounds.Basic

namespace Gateway

namespace CachePolicy

/-! ### Ages -/

/-- Every age that the second is, the first is too, or a shorter one. -/
def AgeAtMost (first second : Option Int64) : Prop :=
  ∀ seconds, second = some seconds → ∃ own, first = some own ∧ own ≤ seconds

theorem AgeAtMost.refl (age : Option Int64) : AgeAtMost age age :=
  fun seconds same => ⟨seconds, same, Int64.le_refl seconds⟩

theorem AgeAtMost.trans {first second third : Option Int64} (left : AgeAtMost first second)
    (right : AgeAtMost second third) : AgeAtMost first third := by
  intro seconds same
  obtain ⟨middle, between, below⟩ := right seconds same
  obtain ⟨own, here, least⟩ := left middle between
  exact ⟨own, here, Int64.le_trans least below⟩

theorem AgeAtMost.antisymm {first second : Option Int64} (left : AgeAtMost first second)
    (right : AgeAtMost second first) : first = second := by
  cases first with
  | none =>
    cases second with
    | none => rfl
    | some seconds =>
      obtain ⟨own, missing, -⟩ := left seconds rfl
      cases missing
  | some own =>
    obtain ⟨seconds, rfl, below⟩ := right own rfl
    obtain ⟨other, same, above⟩ := left seconds rfl
    obtain rfl := Option.some.inj same
    rw [Int64.le_antisymm below above]

theorem ageAtMost_shorter_iff {age first second : Option Int64} :
    AgeAtMost age (shorter first second) ↔ AgeAtMost age first ∧ AgeAtMost age second := by
  cases first with
  | none => simp [shorter, AgeAtMost]
  | some one =>
    cases second with
    | none => simp [shorter, AgeAtMost]
    | some other =>
      simp only [shorter, AgeAtMost, Option.some.injEq, forall_eq']
      constructor
      · rintro ⟨own, same, least⟩
        exact ⟨⟨own, same, Int64.le_trans least Std.min_le_left⟩,
          ⟨own, same, Int64.le_trans least Std.min_le_right⟩⟩
      · rintro ⟨⟨own, same, below⟩, ⟨_, again, belowOther⟩⟩
        obtain rfl := Option.some.inj (same.symm.trans again)
        exact ⟨own, same, Std.le_min_iff.mpr ⟨below, belowOther⟩⟩

/-! ### The order of policies -/

/-- The first policy restricts as much as the second or more: it forbids caching, or neither of
them does and it has all ages of the second, none of them longer. -/
def Restricts (first second : CachePolicy) : Prop :=
  first.noCache = true ∨
    second.noCache = false ∧ AgeAtMost first.maxAge second.maxAge ∧
      AgeAtMost first.sharedMaxAge second.sharedMaxAge

theorem Restricts.refl (policy : CachePolicy) : policy.Restricts policy := by
  cases forbidden : policy.noCache with
  | true => exact Or.inl forbidden
  | false => exact Or.inr ⟨forbidden, .refl policy.maxAge, .refl policy.sharedMaxAge⟩

theorem Restricts.trans {first second third : CachePolicy} (left : first.Restricts second)
    (right : second.Restricts third) : first.Restricts third := by
  rcases left with forbidden | ⟨allowed, maxAge, sharedMaxAge⟩
  · exact Or.inl forbidden
  · rcases right with forbidden | ⟨allowedThird, maxAgeThird, sharedMaxAgeThird⟩
    · cases allowed.symm.trans forbidden
    · exact Or.inr ⟨allowedThird, maxAge.trans maxAgeThird, sharedMaxAge.trans sharedMaxAgeThird⟩

/-- Policies are ordered by how much they restrict; less is what restricts more. -/
instance : Preorder CachePolicy where
  le := Restricts
  le_refl := Restricts.refl
  le_trans _ _ _ := Restricts.trans

/-- A policy that forbids caching names no age. -/
def Coherent (policy : CachePolicy) : Prop :=
  policy.noCache = true → policy.maxAge = none ∧ policy.sharedMaxAge = none

theorem Coherent.eq_forbidden {policy : CachePolicy} (coherent : policy.Coherent)
    (noCache : policy.noCache = true) : policy = forbidden := by
  obtain ⟨maxAge, sharedMaxAge⟩ := coherent noCache
  obtain ⟨noCacheToo, maxAgeToo, sharedMaxAgeToo⟩ := policy
  obtain rfl : noCacheToo = true := noCache
  obtain rfl : maxAgeToo = none := maxAge
  obtain rfl : sharedMaxAgeToo = none := sharedMaxAge
  rfl

/-- Coherent policies that restrict as much as one another are the same. -/
theorem Coherent.eq_of_le_of_le {first second : CachePolicy} (firstCoherent : first.Coherent)
    (secondCoherent : second.Coherent) (left : first ≤ second) (right : second ≤ first) :
    first = second := by
  rcases left with noCache | ⟨secondAllows, maxAge, sharedMaxAge⟩
  · rcases right with secondNoCache | ⟨allows, -⟩
    · rw [firstCoherent.eq_forbidden noCache, secondCoherent.eq_forbidden secondNoCache]
    · cases noCache.symm.trans allows
  · rcases right with noCache | ⟨firstAllows, maxAgeBack, sharedMaxAgeBack⟩
    · cases noCache.symm.trans secondAllows
    · cases first
      cases second
      rw [CachePolicy.mk.injEq]
      exact ⟨firstAllows.trans secondAllows.symm, maxAge.antisymm maxAgeBack,
        sharedMaxAge.antisymm sharedMaxAgeBack⟩

/-- Coherent policies with the same policies below them are the same. -/
theorem Coherent.eq_of_le_iff {first second : CachePolicy} (firstCoherent : first.Coherent)
    (secondCoherent : second.Coherent) (same : ∀ policy, policy ≤ first ↔ policy ≤ second) :
    first = second :=
  firstCoherent.eq_of_le_of_le secondCoherent ((same first).mp (Restricts.refl first))
    ((same second).mpr (Restricts.refl second))

/-- Every policy restricts as much as the one that says nothing, or more. -/
theorem le_empty (policy : CachePolicy) : policy ≤ {} := by
  cases noCache : policy.noCache with
  | true => exact Or.inl noCache
  | false => exact Or.inr ⟨rfl, nofun, nofun⟩

/-! ### Merging two policies -/

theorem restrict_of_noCache {first second : CachePolicy}
    (noCache : first.noCache = true ∨ second.noCache = true) :
    restrict first second = forbidden := by
  rw [restrict, if_pos ((Bool.or_eq_true _ _).mpr noCache)]

theorem restrict_of_allows {first second : CachePolicy} (firstAllows : first.noCache = false)
    (secondAllows : second.noCache = false) :
    restrict first second =
      { maxAge := shorter first.maxAge second.maxAge
        sharedMaxAge := shorter first.sharedMaxAge second.sharedMaxAge } := by
  rw [restrict, firstAllows, secondAllows]
  rfl

theorem coherent_restrict (first second : CachePolicy) : (restrict first second).Coherent := by
  rw [restrict]
  split
  · exact fun _ => ⟨rfl, rfl⟩
  · exact fun noCache => absurd noCache Bool.false_ne_true

/-- What restricts as much as both policies restricts as much as what they merge to, and nothing
else does. -/
theorem le_restrict_iff {policy first second : CachePolicy} :
    policy ≤ restrict first second ↔ policy ≤ first ∧ policy ≤ second := by
  by_cases noCache : policy.noCache = true
  · exact iff_of_true (Or.inl noCache) ⟨Or.inl noCache, Or.inl noCache⟩
  · have only (other : CachePolicy) : policy ≤ other ↔ other.noCache = false ∧
        AgeAtMost policy.maxAge other.maxAge ∧ AgeAtMost policy.sharedMaxAge other.sharedMaxAge :=
      or_iff_right noCache
    rw [only, only, only]
    cases firstNoCache : first.noCache with
    | true => simp [restrict_of_noCache (Or.inl firstNoCache), forbidden]
    | false =>
      cases secondNoCache : second.noCache with
      | true => simp [restrict_of_noCache (Or.inr secondNoCache), forbidden]
      | false =>
        rw [restrict_of_allows firstNoCache secondNoCache]
        simp only [ageAtMost_shorter_iff, true_and]
        exact and_and_and_comm

theorem isGLB_merge (first second : CachePolicy) :
    IsGLB {first, second} (merge (some first) (some second)) := by
  refine isGLB_iff_le_iff.mpr fun policy => ?_
  rw [lowerBounds_insert, lowerBounds_singleton]
  exact le_restrict_iff

theorem restrict_self {policy : CachePolicy} (coherent : policy.Coherent) :
    restrict policy policy = policy :=
  (coherent_restrict policy policy).eq_of_le_iff coherent fun _ =>
    le_restrict_iff.trans and_self_iff

theorem restrict_empty {policy : CachePolicy} (coherent : policy.Coherent) :
    restrict policy {} = policy :=
  (coherent_restrict policy {}).eq_of_le_iff coherent fun other =>
    le_restrict_iff.trans (and_iff_left (le_empty other))

-- what policies merge to is coherent, so these laws need not ask it of the policies themselves
theorem restrict_comm (first second : CachePolicy) :
    restrict first second = restrict second first :=
  (coherent_restrict first second).eq_of_le_iff (coherent_restrict second first)
    fun _ => by simp only [le_restrict_iff, and_comm]

theorem restrict_assoc (first second third : CachePolicy) :
    restrict (restrict first second) third = restrict first (restrict second third) :=
  (coherent_restrict _ third).eq_of_le_iff (coherent_restrict first _)
    fun _ => by simp only [le_restrict_iff, and_assoc]

instance : Std.Commutative restrict := ⟨restrict_comm⟩

instance : Std.Associative restrict := ⟨restrict_assoc⟩

/-! ### Merging many policies -/

/-- The policies merged into one another from the left; nothing is found where there are none. -/
def mergeAll (policies : List CachePolicy) : Option CachePolicy :=
  policies.foldl (fun merged policy => some (merge merged (some policy))) none

/-- A way to put brackets around policies that are merged two by two. -/
inductive Bracketing
  | single (policy : CachePolicy)
  | pair (first second : Bracketing)

namespace Bracketing

/-- The policies in their order. -/
def policies : Bracketing → List CachePolicy
  | .single policy => [policy]
  | .pair first second => first.policies ++ second.policies

/-- What the policies merge to. -/
def merged : Bracketing → CachePolicy
  | .single policy => policy
  | .pair first second => merge (some first.merged) (some second.merged)

end Bracketing

theorem mergeAll_eq_foldl (policies : List CachePolicy) :
    mergeAll policies = (policies.map some).foldl (Option.merge restrict) none := by
  rw [mergeAll, List.foldl_map]
  congr
  funext merged policy
  cases merged <;> rfl

theorem mergeAll_append (first second : List CachePolicy) :
    mergeAll (first ++ second) =
      Option.merge restrict (mergeAll first) (mergeAll second) := by
  simp only [mergeAll_eq_foldl, List.map_append, List.foldl_append]
  generalize (first.map some).foldl (Option.merge restrict) none = merged
  calc
    (second.map some).foldl (Option.merge restrict) merged =
        (second.map some).foldl (Option.merge restrict) (Option.merge restrict merged none) := by
      rw [Option.merge_none_right]
    _ = Option.merge restrict merged ((second.map some).foldl (Option.merge restrict) none) :=
      List.foldl_assoc

theorem mergeAll_eq_of_perm {first second : List CachePolicy} (permuted : first.Perm second) :
    mergeAll first = mergeAll second := by
  rw [mergeAll_eq_foldl, mergeAll_eq_foldl]
  exact (permuted.map some).foldl_eq none

theorem mergeAll_policies (bracketing : Bracketing) :
    mergeAll bracketing.policies = some bracketing.merged := by
  induction bracketing with
  | single policy => rfl
  | pair first second firstMerged secondMerged =>
    rw [Bracketing.policies, mergeAll_append, firstMerged, secondMerged]
    rfl

/-! ### What merging comes to -/

theorem merge_self {policy : Option CachePolicy}
    (coherent : ∀ own, policy = some own → own.Coherent) :
    merge policy policy = policy.getD {} := by
  cases policy with
  | none => rfl
  | some own => exact restrict_self (coherent own rfl)

theorem merge_empty {policy : Option CachePolicy}
    (coherent : ∀ own, policy = some own → own.Coherent) :
    merge policy (some {}) = policy.getD {} := by
  cases policy with
  | none => rfl
  | some own => exact restrict_empty (coherent own rfl)

theorem merge_comm (first second : Option CachePolicy) :
    merge first second = merge second first := by
  cases first with
  | none => cases second <;> rfl
  | some own =>
    cases second with
    | none => rfl
    | some other => exact restrict_comm own other

theorem merge_none (policy : Option CachePolicy) : merge policy none = policy.getD {} := by
  cases policy <;> rfl

/-- Merging takes the greatest lower bound. Two policies merge to the one coherent policy that
restricts as much as both and no more than it must. For coherent policies merging is idempotent, and
a missing policy and the one that says nothing are neutral on either side. Policies of any kind come
to the same in whatever order and with whatever brackets they are merged. -/
theorem merge_greatest :
    (∀ first second : CachePolicy,
      (merge (some first) (some second)).Coherent ∧
      IsGLB {first, second} (merge (some first) (some second)) ∧
      ∀ other : CachePolicy, other.Coherent → IsGLB {first, second} other →
        other = merge (some first) (some second)) ∧
    (∀ policy : Option CachePolicy, (∀ own, policy = some own → own.Coherent) →
      merge policy policy = policy.getD {} ∧
      merge policy none = policy.getD {} ∧ merge none policy = policy.getD {} ∧
      merge policy (some {}) = policy.getD {} ∧ merge (some {}) policy = policy.getD {}) ∧
    ∀ (policies : List CachePolicy) (bracketing : Bracketing),
      bracketing.policies.Perm policies → mergeAll policies = some bracketing.merged := by
  refine ⟨fun first second => ?_, fun policy coherent => ?_, fun policies bracketing perm => ?_⟩
  · have greatest := isGLB_merge first second
    have coherent := coherent_restrict first second
    refine ⟨coherent, greatest, fun other otherCoherent otherGreatest => ?_⟩
    exact otherCoherent.eq_of_le_of_le coherent (greatest.2 otherGreatest.1)
      (otherGreatest.2 greatest.1)
  · have neutral := merge_none policy
    have empty := merge_empty coherent
    exact ⟨merge_self coherent, neutral, (merge_comm none policy).trans neutral, empty,
      (merge_comm (some {}) policy).trans empty⟩
  · rw [← mergeAll_eq_of_perm perm]
    exact mergeAll_policies bracketing

theorem merge_greatest_hero :
    let long : CachePolicy := { maxAge := some 120, sharedMaxAge := some (-5) }
    let short : CachePolicy := { maxAge := some 30 }
    let both : CachePolicy := { noCache := true, maxAge := some 0 }
    IsGLB {long, short} { maxAge := some 30, sharedMaxAge := some (-5) } ∧
      short.Coherent ∧ merge none (some short) = short ∧ merge (some {}) (some short) = short ∧
      mergeAll [both, long, short] =
        some (Bracketing.pair (.single short) (.pair (.single both) (.single long))).merged := by
  intro long short both
  have coherent : short.Coherent := nofun
  obtain ⟨meets, neutral, anyOrder⟩ := merge_greatest
  have found : ∀ own, some short = some own → own.Coherent := by
    rintro own ⟨⟩
    exact coherent
  obtain ⟨-, -, missing, -, empty⟩ := neutral (some short) found
  refine ⟨(meets long short).2.1, coherent, missing, empty, anyOrder _ _ ?_⟩
  exact show ([short] ++ [both, long]).Perm ([both, long] ++ [short]) from List.perm_append_comm

end CachePolicy

end Gateway
