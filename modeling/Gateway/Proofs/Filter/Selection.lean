/-
This file says which rules a list of selectors comes to. A selector sets one leaf and, by that,
takes away the leaves that its path meets; so the leaves of the whole list are those of the
selectors whose paths are met by no later one. A selector with an empty path sets nothing, and a
match with one has no field to look at, which is the only fault of a list.
-/

import Gateway.Proofs.Filter.Leaves

namespace Gateway

open Dictionary (insertEntry)

/-! ### One selector -/

namespace Selector

/-- The rule that the selector sets at the end of its path. A match keeps the last segment only. -/
def rule : Selector → Rule
  | .path _ => .keep
  | .matching constraint => .keepMatching ⟨constraint.path.getLast?.toList, constraint.pattern⟩

theorem rule_isLeaf (selector : Selector) : selector.rule.IsLeaf := by
  cases selector <;> exact trivial

/-- A match without a path. -/
def LacksTarget : Selector → Prop
  | .path _ => False
  | .matching constraint => constraint.path = []

/-- The selector speaks of the path, of a place above its end or of one below it. -/
def Meets (selector : Selector) (path : List String) : Prop :=
  selector.segments ≠ [] ∧ Comparable selector.segments path

end Selector

/-- The last selector that meets the path has it as its own, and sets the rule. -/
def Settles (selectors : List Selector) (path : List String) (rule : Rule) : Prop :=
  ∃ before selector after, selectors = before ++ selector :: after ∧
    selector.segments = path ∧ path ≠ [] ∧ selector.rule = rule ∧
      ∀ later ∈ after, ¬ later.Meets path

theorem not_settles_nil (path : List String) (rule : Rule) : ¬ Settles [] path rule := by
  rintro ⟨before, selector, after, split, -⟩
  exact absurd split.symm (by simp)

theorem settles_cons_iff {selector : Selector} {rest : List Selector} {path : List String}
    {rule : Rule} :
    Settles (selector :: rest) path rule ↔
      (selector.segments = path ∧ path ≠ [] ∧ selector.rule = rule ∧
        ∀ later ∈ rest, ¬ later.Meets path) ∨ Settles rest path rule := by
  constructor
  · rintro ⟨before, own, after, split, facts⟩
    cases before with
    | nil =>
      obtain ⟨rfl, rfl⟩ := List.cons.inj split
      exact Or.inl facts
    | cons first others =>
      obtain ⟨-, remaining⟩ := List.cons.inj split
      exact Or.inr ⟨others, own, after, remaining, facts⟩
  · rintro (facts | ⟨before, own, after, rfl, facts⟩)
    · exact ⟨[], selector, rest, rfl, facts⟩
    · exact ⟨selector :: before, own, after, rfl, facts⟩

namespace FilterTree

/-- The tree with the rule of the selector set. -/
def set (tree : FilterTree) (selector : Selector) : FilterTree :=
  tree.insert selector.segments selector.rule

theorem addSelector_of_lacksTarget (tree : FilterTree) {selector : Selector}
    (lacks : selector.LacksTarget) : tree.addSelector selector = .error .emptyTarget := by
  cases selector with
  | path segments => exact lacks.elim
  | matching constraint =>
    rw [addSelector, show constraint.path = [] from lacks]
    rfl

theorem addSelector_of_not_lacksTarget (tree : FilterTree) {selector : Selector}
    (complete : ¬ selector.LacksTarget) : tree.addSelector selector = .ok (tree.set selector) := by
  cases selector with
  | path segments => rfl
  | matching constraint =>
    obtain ⟨target, last⟩ := Option.isSome_iff_exists.mp (List.getLast?_isSome.mpr complete)
    rw [addSelector, last, set, Selector.rule, last]
    rfl

/-- What a selector makes of the leaves: it adds its own and takes away those that it meets. -/
theorem hasLeaf_set_iff {tree : FilterTree} {selector : Selector} {path : List String}
    {rule : Rule} :
    (tree.set selector).HasLeaf path rule ↔
      (selector.segments = path ∧ path ≠ [] ∧ selector.rule = rule) ∨
        (tree.HasLeaf path rule ∧ ¬ selector.Meets path) := by
  by_cases empty : selector.segments = []
  · have unchanged : tree.set selector = tree := by
      rw [set, empty, insert]
    have apart : ¬ selector.Meets path := fun meets => meets.1 empty
    have other : ¬ (selector.segments = path ∧ path ≠ [] ∧ selector.rule = rule) := by
      rintro ⟨same, nonempty, -⟩
      exact nonempty (same ▸ empty)
    rw [unchanged, or_iff_right other, and_iff_left apart]
  · have meets : selector.Meets path ↔ Comparable selector.segments path :=
      and_iff_right empty
    rw [set, hasLeaf_insert_iff selector.rule_isLeaf empty, meets, and_comm (b := ¬ _)]
    refine or_congr_left ⟨?_, fun own => ⟨own.1, own.2.2⟩⟩
    rintro ⟨rfl, same⟩
    exact ⟨rfl, empty, same⟩

/-! ### All selectors, one after the other -/

/-- The leaves after the rules of a list are set are those that the list settles, and those of the
tree at the start that no selector of the list meets. -/
theorem hasLeaf_foldl_set_iff {selectors : List Selector} {tree : FilterTree} {path : List String}
    {rule : Rule} :
    (selectors.foldl set tree).HasLeaf path rule ↔
      Settles selectors path rule ∨
        (tree.HasLeaf path rule ∧ ∀ selector ∈ selectors, ¬ selector.Meets path) := by
  induction selectors generalizing tree with
  | nil => simp [not_settles_nil]
  | cons selector rest inductionHypothesis =>
    rw [List.foldl_cons, inductionHypothesis, settles_cons_iff, hasLeaf_set_iff,
      List.forall_mem_cons]
    constructor
    · rintro (settled | ⟨own | ⟨old, apart⟩, free⟩)
      · exact Or.inl (Or.inr settled)
      · exact Or.inl (Or.inl ⟨own.1, own.2.1, own.2.2, free⟩)
      · exact Or.inr ⟨old, apart, free⟩
    · rintro ((⟨own, nonempty, same, free⟩ | settled) | ⟨old, apart, free⟩)
      · exact Or.inr ⟨Or.inl ⟨own, nonempty, same⟩, free⟩
      · exact Or.inl settled
      · exact Or.inr ⟨Or.inr ⟨old, apart⟩, free⟩

theorem throughout_foldl_set {property : FilterTree → Prop} (empty : property [])
    {selectors : List Selector}
    (kept : ∀ selector ∈ selectors, ∀ field ∈ selector.segments, ∀ tree rule,
      rule ≠ .within [] → property tree → property (insertEntry field rule tree))
    {tree : FilterTree} (throughout : Throughout property tree) :
    Throughout property (selectors.foldl set tree) := by
  induction selectors generalizing tree with
  | nil => exact throughout
  | cons selector rest inductionHypothesis =>
    rw [List.foldl_cons]
    exact inductionHypothesis (fun other inRest => kept other (List.mem_cons_of_mem _ inRest))
      (throughout_insert selector.rule_isLeaf empty (kept selector List.mem_cons_self) throughout)

theorem build_of_complete {selectors : List Selector}
    (complete : ∀ selector ∈ selectors, ¬ selector.LacksTarget) :
    build selectors = .ok (selectors.foldl set []) := by
  rw [build]
  generalize ([] : FilterTree) = tree
  induction selectors generalizing tree with
  | nil => rfl
  | cons selector rest inductionHypothesis =>
    rw [List.foldlM_cons,
      addSelector_of_not_lacksTarget tree (complete selector List.mem_cons_self)]
    exact inductionHypothesis (fun other inRest => complete other (List.mem_cons_of_mem _ inRest)) _

theorem build_of_lacksTarget {selectors : List Selector}
    (lacks : ∃ selector ∈ selectors, selector.LacksTarget) :
    build selectors = .error .emptyTarget := by
  rw [build]
  generalize ([] : FilterTree) = tree
  induction selectors generalizing tree with
  | nil =>
    obtain ⟨selector, inside, -⟩ := lacks
    cases inside
  | cons selector rest inductionHypothesis =>
    rw [List.foldlM_cons]
    by_cases first : selector.LacksTarget
    · rw [addSelector_of_lacksTarget tree first]
      rfl
    · rw [addSelector_of_not_lacksTarget tree first]
      obtain ⟨other, inside, lacking⟩ := lacks
      have further : other ∈ rest := by
        rcases List.mem_cons.mp inside with rfl | inRest
        · exact absurd lacking first
        · exact inRest
      exact inductionHypothesis ⟨other, further, lacking⟩ _

theorem build_eq_ok_iff {selectors : List Selector} {tree : FilterTree} :
    build selectors = .ok tree ↔
      (∀ selector ∈ selectors, ¬ selector.LacksTarget) ∧ tree = selectors.foldl set [] := by
  by_cases complete : ∀ selector ∈ selectors, ¬ selector.LacksTarget
  · rw [build_of_complete complete, and_iff_right complete, Except.ok.injEq, eq_comm]
  · have lacks : ∃ selector ∈ selectors, selector.LacksTarget := by
      simpa using complete
    rw [build_of_lacksTarget lacks]
    simp [complete]

theorem hasLeaf_build_iff {selectors : List Selector} {tree : FilterTree}
    (built : build selectors = .ok tree) {path : List String} {rule : Rule} :
    tree.HasLeaf path rule ↔ Settles selectors path rule := by
  obtain ⟨-, rfl⟩ := build_eq_ok_iff.mp built
  rw [hasLeaf_foldl_set_iff]
  exact or_iff_left fun old => not_hasLeaf_empty path rule old.1

theorem throughout_tidy_build {selectors : List Selector} {tree : FilterTree}
    (built : build selectors = .ok tree) : Throughout Tidy tree := by
  obtain ⟨-, rfl⟩ := build_eq_ok_iff.mp built
  exact throughout_foldl_set tidy_empty
    (fun _ _ _ _ _ _ filled tidy => tidy_insertEntry filled tidy) (throughout_empty tidy_empty)

/-- The last selector that meets a path decides it. A list fails only for a match without a path;
the leaves of the tree that any other list makes are those that the list settles, no tree inside it
is empty, and no other such tree has the same leaves. -/
theorem build_leaves (selectors : List Selector) :
    match build selectors with
    | .error fault =>
      fault = .emptyTarget ∧ ∃ selector ∈ selectors, selector.LacksTarget
    | .ok tree =>
      (∀ selector ∈ selectors, ¬ selector.LacksTarget) ∧
        (∀ path rule, tree.HasLeaf path rule ↔ Settles selectors path rule) ∧
        Throughout Tidy tree ∧
        ∀ other, Throughout Tidy other →
          (∀ path rule, other.HasLeaf path rule ↔ tree.HasLeaf path rule) → other = tree := by
  by_cases complete : ∀ selector ∈ selectors, ¬ selector.LacksTarget
  · have built := build_of_complete complete
    rw [built]
    have tidy := throughout_tidy_build built
    exact ⟨complete, fun _ _ => hasLeaf_build_iff built, tidy,
      fun _ otherTidy same => eq_of_hasLeaf_iff otherTidy tidy same⟩
  · have lacks : ∃ selector ∈ selectors, selector.LacksTarget := by
      simpa using complete
    rw [build_of_lacksTarget lacks]
    exact ⟨rfl, lacks⟩

end FilterTree

end Gateway
