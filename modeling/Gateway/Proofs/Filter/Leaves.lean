/-
This file looks at a filter tree as the set of its leaves: the rules for whole fields, with the
paths that lead to them. A tree that names its fields in order and has no empty tree inside is
determined by its leaves. Setting a rule adds one leaf and takes away every other leaf that the new
path meets, on the path itself, above its end or below it.
-/

import Gateway.Filter.Tree

namespace Gateway

open Dictionary (valueAt? insertEntry valueAt?_insertEntry)

/-! ### Comparable paths -/

/-- One of the paths goes on from the other. -/
def Comparable (first second : List String) : Prop :=
  first <+: second ∨ second <+: first

theorem comparable_nil (path : List String) : Comparable path [] :=
  Or.inr path.nil_prefix

theorem comparable_comm {first second : List String} :
    Comparable first second ↔ Comparable second first :=
  or_comm

theorem comparable_cons_iff {first second : String} {firstRest secondRest : List String} :
    Comparable (first :: firstRest) (second :: secondRest) ↔
      first = second ∧ Comparable firstRest secondRest := by
  simp only [Comparable, List.cons_prefix_cons, eq_comm (a := second), and_or_left]

/-! ### Leaves -/

/-- The rule is for the whole of its field. -/
def Rule.IsLeaf : Rule → Prop
  | .within _ => False
  | _ => True

namespace FilterTree

@[simp] theorem rule?_cons_self (field : String) (rule : Rule) (rest : FilterTree) :
    rule? ((field, rule) :: rest) field = some rule := by
  simp [rule?, valueAt?]

/-- The path leads to a rule for a whole field. -/
inductive HasLeaf : FilterTree → List String → Rule → Prop
  | here {tree : FilterTree} {field : String} {rule : Rule} (found : rule? tree field = some rule)
    (leaf : rule.IsLeaf) : HasLeaf tree [field] rule
  | within {tree : FilterTree} {field : String} {rules : FilterTree} {rest : List String}
    {rule : Rule} (found : rule? tree field = some (.within rules))
    (below : HasLeaf rules rest rule) : HasLeaf tree (field :: rest) rule

theorem HasLeaf.path_ne_nil {tree : FilterTree} {path : List String} {rule : Rule}
    (leaf : tree.HasLeaf path rule) : path ≠ [] := by
  cases leaf <;> exact List.cons_ne_nil _ _

theorem not_hasLeaf_empty (path : List String) (rule : Rule) : ¬ HasLeaf [] path rule := by
  intro leaf
  cases leaf with
  | here found => cases found
  | within found => cases found

theorem inside_of_within {tree : FilterTree} {field : String} {rules : FilterTree}
    (found : rule? tree field = some (.within rules)) : inside tree field = rules := by
  rw [inside, found]

/-- The tree inside a field is the one that its rule names, or empty. -/
theorem inside_cases (tree : FilterTree) (field : String) :
    rule? tree field = some (.within (inside tree field)) ∨ inside tree field = [] := by
  rw [inside]
  cases rule? tree field with
  | none => exact Or.inr rfl
  | some rule =>
    cases rule with
    | within rules => exact Or.inl rfl
    | _ => exact Or.inr rfl

/-- A leaf of the field itself or one below it. -/
theorem hasLeaf_cons_iff {tree : FilterTree} {field : String} {rest : List String} {rule : Rule} :
    tree.HasLeaf (field :: rest) rule ↔
      (rest = [] ∧ rule? tree field = some rule ∧ rule.IsLeaf) ∨
        (inside tree field).HasLeaf rest rule := by
  constructor
  · intro leaf
    cases leaf with
    | here found leaf => exact Or.inl ⟨rfl, found, leaf⟩
    | within found below => exact Or.inr (inside_of_within found ▸ below)
  · rintro (⟨rfl, found, leaf⟩ | below)
    · exact .here found leaf
    · rcases inside_cases tree field with found | empty
      · exact .within found below
      · rw [empty] at below
        exact absurd below (not_hasLeaf_empty rest rule)

theorem hasLeaf_within_iff {tree : FilterTree} {field : String} {rules : FilterTree}
    (found : rule? tree field = some (.within rules)) {rest : List String} {rule : Rule} :
    tree.HasLeaf (field :: rest) rule ↔ rules.HasLeaf rest rule := by
  rw [hasLeaf_cons_iff, inside_of_within found, found]
  refine or_iff_right ?_
  rintro ⟨-, same, leaf⟩
  rw [← Option.some.inj same] at leaf
  exact leaf

/-! ### Every tree inside a tree -/

/-- The property holds of the tree and of every tree inside it. -/
inductive Throughout (property : FilterTree → Prop) : FilterTree → Prop
  | intro {tree : FilterTree} (here : property tree)
    (inner : ∀ field rules, rule? tree field = some (.within rules) →
      Throughout property rules) : Throughout property tree

theorem Throughout.here {property : FilterTree → Prop} {tree : FilterTree}
    (throughout : Throughout property tree) : property tree := by
  cases throughout with
  | intro here _ => exact here

theorem Throughout.inner {property : FilterTree → Prop} {tree : FilterTree}
    (throughout : Throughout property tree) {field : String} {rules : FilterTree}
    (found : rule? tree field = some (.within rules)) : Throughout property rules := by
  cases throughout with
  | intro _ inner => exact inner field rules found

theorem Throughout.imp {property other : FilterTree → Prop}
    (weaker : ∀ inner, property inner → other inner) {tree : FilterTree}
    (throughout : Throughout property tree) : Throughout other tree := by
  induction throughout with
  | intro here _ inductionHypothesis => exact .intro (weaker _ here) inductionHypothesis

theorem throughout_empty {property : FilterTree → Prop} (empty : property []) :
    Throughout property [] :=
  .intro empty fun _ _ found => nomatch found

theorem Throughout.inside {property : FilterTree → Prop} (empty : property [])
    {tree : FilterTree} (throughout : Throughout property tree) (field : String) :
    Throughout property (inside tree field) := by
  rcases inside_cases tree field with found | none
  · exact throughout.inner found
  · rw [none]
    exact throughout_empty empty

/-! ### Trees that their leaves determine -/

/-- The names ascend, and no inner tree is empty. -/
structure Tidy (tree : FilterTree) : Prop where
  ascending : (tree.map Prod.fst).Pairwise (· < ·)
  filled : ∀ field, rule? tree field ≠ some (.within [])

theorem tidy_empty : Tidy [] :=
  ⟨List.Pairwise.nil, fun _ found => nomatch found⟩

/-- Every rule of a tree leads to a leaf, its own or one below it. -/
theorem exists_hasLeaf_of_rule? {tree : FilterTree} (tidy : Throughout Tidy tree) {field : String}
    {rule : Rule} (found : rule? tree field = some rule) :
    ∃ rest leaf, tree.HasLeaf (field :: rest) leaf := by
  induction tidy generalizing field rule with
  | @intro tree here _ inductionHypothesis =>
    cases rule with
    | within rules =>
      cases rules with
      | nil => exact absurd found (here.filled field)
      | cons entry others =>
        obtain ⟨rest, leaf, hasLeaf⟩ :=
          inductionHypothesis field _ found (rule?_cons_self entry.1 entry.2 others)
        exact ⟨entry.1 :: rest, leaf, .within found hasLeaf⟩
    | _ => exact ⟨[], _, .here found trivial⟩

theorem exists_hasLeaf {tree : FilterTree} (tidy : Throughout Tidy tree) (filled : tree ≠ []) :
    ∃ path leaf, tree.HasLeaf path leaf := by
  cases tree with
  | nil => exact absurd rfl filled
  | cons entry others =>
    obtain ⟨rest, leaf, hasLeaf⟩ :=
      exists_hasLeaf_of_rule? tidy (rule?_cons_self entry.1 entry.2 others)
    exact ⟨entry.1 :: rest, leaf, hasLeaf⟩

theorem rule?_of_hasLeaf_single {tree : FilterTree} {field : String} {rule : Rule}
    (leaf : tree.HasLeaf [field] rule) : rule? tree field = some rule := by
  cases leaf with
  | here found => exact found
  | within _ below => exact absurd rfl below.path_ne_nil

/-- A path leads to one leaf at most. -/
theorem HasLeaf.unique {tree : FilterTree} {path : List String} {rule other : Rule}
    (leaf : tree.HasLeaf path rule) (second : tree.HasLeaf path other) : rule = other := by
  induction leaf with
  | here found isLeaf => exact Option.some.inj (found.symm.trans (rule?_of_hasLeaf_single second))
  | within found below inductionHypothesis =>
    exact inductionHypothesis ((hasLeaf_within_iff found).mp second)

/-- Two trees with the same leaves are the same tree. -/
theorem eq_of_hasLeaf_iff {first second : FilterTree} (firstTidy : Throughout Tidy first)
    (secondTidy : Throughout Tidy second)
    (same : ∀ path rule, first.HasLeaf path rule ↔ second.HasLeaf path rule) :
    first = second := by
  induction firstTidy generalizing second with
  | @intro first here inner inductionHypothesis =>
    refine Dictionary.entries_eq_of_valueAt? here.ascending secondTidy.here.ascending
      fun name => ?_
    show rule? first name = rule? second name
    cases known : rule? first name with
    | none =>
      cases other : rule? second name with
      | none => rfl
      | some rule =>
        obtain ⟨rest, leaf, inSecond⟩ := exists_hasLeaf_of_rule? secondTidy other
        cases (same _ _).mpr inSecond with
        | here found => cases known.symm.trans found
        | within found => cases known.symm.trans found
    | some rule =>
      cases rule with
      | within rules =>
        obtain ⟨rest, leaf, inFirst⟩ := exists_hasLeaf (inner name rules known)
          (fun empty => here.filled name (empty ▸ known))
        obtain ⟨otherRules, found⟩ :
            ∃ otherRules, rule? second name = some (.within otherRules) := by
          cases (same _ _).mp (.within known inFirst) with
          | here => exact absurd rfl inFirst.path_ne_nil
          | within found => exact ⟨_, found⟩
        have equal : rules = otherRules :=
          inductionHypothesis name rules known (secondTidy.inner found) fun path rule => by
            rw [← hasLeaf_within_iff known, ← hasLeaf_within_iff found]
            exact same _ _
        rw [found, equal]
      | _ =>
        exact (rule?_of_hasLeaf_single ((same _ _).mp (.here known trivial))).symm

/-! ### Setting a rule -/

theorem rule?_insertEntry (tree : FilterTree) (field name : String) (rule : Rule) :
    rule? (insertEntry field rule tree) name =
      if field = name then some rule else rule? tree name :=
  valueAt?_insertEntry field name rule tree

theorem inside_insertEntry_other (tree : FilterTree) {field name : String} (rule : Rule)
    (different : field ≠ name) : inside (insertEntry field rule tree) name = inside tree name := by
  rw [inside, rule?_insertEntry, if_neg different, inside]

theorem insertEntry_ne_nil (tree : FilterTree) (field : String) (rule : Rule) :
    insertEntry field rule tree ≠ [] := by
  intro empty
  have found := rule?_insertEntry tree field field rule
  rw [empty, if_pos rfl] at found
  cases found

theorem insert_ne_nil (tree : FilterTree) {path : List String} (nonempty : path ≠ [])
    (rule : Rule) : tree.insert path rule ≠ [] := by
  match path with
  | [] => exact absurd rfl nonempty
  | [field] => exact insertEntry_ne_nil tree field rule
  | field :: next :: rest => exact insertEntry_ne_nil tree field _

/-- The rule of one field decides the leaves that begin with it, and no other leaf. -/
theorem hasLeaf_insertEntry_iff {tree : FilterTree} {field name : String} {rule leaf : Rule}
    {rest : List String} :
    HasLeaf (insertEntry field rule tree) (name :: rest) leaf ↔
      if field = name then HasLeaf [(field, rule)] (field :: rest) leaf
      else tree.HasLeaf (name :: rest) leaf := by
  by_cases same : field = name
  · subst same
    rw [if_pos rfl, hasLeaf_cons_iff, hasLeaf_cons_iff, inside, inside, rule?_insertEntry,
      if_pos rfl, rule?_cons_self]
  · rw [if_neg same, hasLeaf_cons_iff, hasLeaf_cons_iff, inside_insertEntry_other tree rule same,
      rule?_insertEntry, if_neg same]

theorem hasLeaf_singleton_iff {field : String} {rule leaf : Rule} (isLeaf : rule.IsLeaf)
    {rest : List String} :
    HasLeaf [(field, rule)] (field :: rest) leaf ↔ rest = [] ∧ rule = leaf := by
  have alone := rule?_cons_self field rule []
  constructor
  · intro hasLeaf
    cases hasLeaf with
    | here found => exact ⟨rfl, Option.some.inj (alone.symm.trans found)⟩
    | within found =>
      rw [Option.some.inj (alone.symm.trans found)] at isLeaf
      exact isLeaf.elim
  · rintro ⟨rfl, rfl⟩
    exact .here alone isLeaf

/-- Setting a rule adds its leaf and takes away all others that its path meets. -/
theorem hasLeaf_insert_iff {rule : Rule} (isLeaf : rule.IsLeaf) {path : List String}
    (nonempty : path ≠ []) {tree : FilterTree} {other : List String} {leaf : Rule} :
    (tree.insert path rule).HasLeaf other leaf ↔
      (path = other ∧ rule = leaf) ∨ (¬ Comparable path other ∧ tree.HasLeaf other leaf) := by
  induction path generalizing tree other with
  | nil => exact absurd rfl nonempty
  | cons field rest inductionHypothesis =>
    cases other with
    | nil =>
      have never : ∀ any : FilterTree, ¬ any.HasLeaf [] leaf :=
        fun _ hasLeaf => hasLeaf.path_ne_nil rfl
      simp [never]
    | cons name otherRest =>
      cases rest with
      | nil =>
        show HasLeaf (insertEntry field rule tree) (name :: otherRest) leaf ↔ _
        rw [hasLeaf_insertEntry_iff, comparable_cons_iff, List.cons.injEq]
        by_cases same : field = name
        · rw [if_pos same, hasLeaf_singleton_iff isLeaf]
          have met : Comparable [] otherRest := comparable_comm.mp (comparable_nil otherRest)
          simp [same, met, eq_comm]
        · rw [if_neg same]
          simp [same]
      | cons next more =>
        show HasLeaf
          (insertEntry field (.within ((inside tree field).insert (next :: more) rule)) tree)
          (name :: otherRest) leaf ↔ _
        rw [hasLeaf_insertEntry_iff, comparable_cons_iff, List.cons.injEq]
        by_cases same : field = name
        · subst same
          rw [if_pos rfl, hasLeaf_within_iff (rule?_cons_self field _ []),
            inductionHypothesis (List.cons_ne_nil next more), hasLeaf_cons_iff]
          -- a leaf of the field itself is met by the path, which goes on below it
          have met : otherRest = [] → Comparable (next :: more) otherRest := by
            rintro rfl
            exact comparable_nil _
          constructor
          · rintro (⟨rfl, equal⟩ | ⟨apart, below⟩)
            · exact Or.inl ⟨⟨rfl, rfl⟩, equal⟩
            · exact Or.inr ⟨fun both => apart both.2, Or.inr below⟩
          · rintro (⟨⟨-, rfl⟩, equal⟩ | ⟨apart, ⟨empty, -⟩ | below⟩)
            · exact Or.inl ⟨rfl, equal⟩
            · exact absurd ⟨rfl, met empty⟩ apart
            · exact Or.inr ⟨fun comparable => apart ⟨rfl, comparable⟩, below⟩
        · rw [if_neg same]
          simp [same]

theorem throughout_insertEntry {property : FilterTree → Prop} {tree : FilterTree} {field : String}
    {rule : Rule} (here : property (insertEntry field rule tree))
    (throughout : Throughout property tree)
    (inner : ∀ rules, rule = .within rules → Throughout property rules) :
    Throughout property (insertEntry field rule tree) := by
  refine .intro here fun name rules found => ?_
  rw [rule?_insertEntry] at found
  by_cases same : field = name
  · rw [if_pos same] at found
    exact inner rules (Option.some.inj found)
  · rw [if_neg same] at found
    exact throughout.inner found

/-- What holds of the empty tree and is kept by setting the rule of one field of a path holds
throughout a tree after a rule is set at the end of the path. -/
theorem throughout_insert {property : FilterTree → Prop} {rule : Rule} (isLeaf : rule.IsLeaf)
    (empty : property []) {path : List String}
    (kept : ∀ field ∈ path, ∀ tree own, own ≠ .within [] → property tree →
      property (insertEntry field own tree))
    {tree : FilterTree} (throughout : Throughout property tree) :
    Throughout property (tree.insert path rule) := by
  induction path generalizing tree with
  | nil => exact throughout
  | cons field rest inductionHypothesis =>
    cases rest with
    | nil =>
      have whole : ∀ rules, rule ≠ .within rules := by
        rintro rules rfl
        exact isLeaf
      have here := kept field List.mem_cons_self tree rule (whole []) throughout.here
      exact throughout_insertEntry here throughout fun rules same => absurd same (whole rules)
    | cons next more =>
      have inner := inductionHypothesis
        (fun name inRest => kept name (List.mem_cons_of_mem _ inRest))
        (throughout.inside empty field)
      have filled : Rule.within ((inside tree field).insert (next :: more) rule) ≠ .within [] :=
        fun same => insert_ne_nil _ (List.cons_ne_nil next more) rule (Rule.within.inj same)
      have here := kept field List.mem_cons_self tree _ filled throughout.here
      exact throughout_insertEntry here throughout fun rules same =>
        Rule.within.inj same ▸ inner

theorem tidy_insertEntry {tree : FilterTree} {field : String} {rule : Rule}
    (filled : rule ≠ .within []) (tidy : tree.Tidy) : Tidy (insertEntry field rule tree) := by
  refine ⟨Dictionary.ascending_insertEntry field rule tidy.ascending, fun name found => ?_⟩
  rw [rule?_insertEntry] at found
  by_cases same : field = name
  · rw [if_pos same] at found
    exact filled (Option.some.inj found)
  · rw [if_neg same] at found
    exact tidy.filled name found

end FilterTree

end Gateway
