/-
This file says when a projection fails. A projection comes to the patterns of its tree one after the
other: item by item in an array, and in an object in the order of the rules, for the fields that the
object has. It ends in the fault of the first of them that cannot be read, and in a result where all
of them can be. No other part of the value, and nothing that was put or removed before, counts.
-/

import Gateway.Proofs.Filter.Fields

namespace Gateway

/-! ### Patterns that cannot be read -/

/-- The fault of a pattern that cannot be read. -/
def MatchPattern.fault? (pattern : MatchPattern) : Option Fault :=
  match pattern.compile? with
  | none => some (.invalidPattern pattern.text)
  | some _ => none

theorem Match.of?_edit (constraint : Match) (value : Json) :
    Fault.of? (constraint.edit value) = constraint.pattern.fault? := by
  rw [MatchPattern.fault?]
  cases compiled : constraint.pattern.compile? with
  | none =>
    rw [edit.eq_def, compiled]
    rfl
  | some pattern =>
    rw [edit_of_compile? compiled]
    rfl

namespace FilterTree

/-- The patterns that a projection of the value comes to, in the order in which it does. -/
def patterns (tree : FilterTree) : Json → List MatchPattern
  | .object members => tree.named.flatMap fun entry => fieldPatterns tree.named entry.1 members
  | .array items => itemPatterns tree.named items
  | _ => []
where
  itemPatterns (tree : FilterTree) : List Json → List MatchPattern
    | [] => []
    | item :: rest => patterns tree item ++ itemPatterns tree rest
  /-- The patterns that the rule of one field comes to, if the field is there. -/
  fieldPatterns (tree : FilterTree) (field : String) : List (String × Json) → List MatchPattern
    | [] => []
    | (name, value) :: rest =>
      if name = field then
        match rule? tree field with
        | none | some .keep => []
        | some (.keepMatching constraint) => [constraint.pattern]
        | some (.within rules) => patterns rules value
      else fieldPatterns tree field rest

/-- The fault of the first of the patterns that cannot be read. -/
def fault? (tree : FilterTree) (value : Json) : Option Fault :=
  (tree.patterns value).findSome? MatchPattern.fault?

/-- A tree meets no fault in a value but a pattern that cannot be read. -/
theorem exists_source_of_fault? {tree : FilterTree} {value : Json} {fault : Fault}
    (met : tree.fault? value = some fault) : ∃ source, fault = .invalidPattern source := by
  obtain ⟨pattern, -, faulty⟩ := List.exists_of_findSome?_eq_some met
  rw [MatchPattern.fault?] at faulty
  split at faulty
  · exact ⟨pattern.text, (Option.some.inj faulty).symm⟩
  · cases faulty

/-! ### The first fault -/

theorem itemPatterns_eq_flatMap (tree : FilterTree) (items : List Json) :
    patterns.itemPatterns tree items = items.flatMap tree.patterns := by
  induction items with
  | nil => rfl
  | cons item rest inductionHypothesis =>
    rw [patterns.itemPatterns, List.flatMap_cons, inductionHypothesis]

/-- Carrying out edits ends in the first fault among them, whatever it starts from. -/
theorem of?_carryOut (edits : List (String × Except Fault Edit)) (tree : FilterTree)
    (start : Members) :
    Fault.of? (carryOut edits tree start) =
      tree.findSome? fun entry => Fault.of? (decided edits entry.1) := by
  induction tree generalizing start with
  | nil => rfl
  | cons entry rest inductionHypothesis =>
    obtain ⟨field, rule⟩ := entry
    have alike : ∀ edit : Edit, Fault.of? (carryOut edits rest (edit.apply field start)) =
        rest.findSome? fun entry => Fault.of? (decided edits entry.1) :=
      fun edit => inductionHypothesis (edit.apply field start)
    rw [carryOut_cons, Fault.of?_bind alike, List.findSome?_cons]
    cases Fault.of? (decided edits field) <;> rfl

/-- The edit of a field faults where a pattern of its rule does, as long as the same holds of the
trees inside. -/
theorem of?_editOf {tree : FilterTree} {members : Members}
    (inside : ∀ member ∈ members, ∀ rules,
      Fault.of? (project rules member.2) = fault? rules member.2) (field : String) :
    Fault.of? (tree.editOf field (members.find? field)) =
      (patterns.fieldPatterns tree field members).findSome? MatchPattern.fault? := by
  induction members with
  | nil => rfl
  | cons member rest inductionHypothesis =>
    obtain ⟨here, further⟩ := List.forall_mem_cons.mp inside
    obtain ⟨name, value⟩ := member
    rw [Members.find?_cons, patterns.fieldPatterns]
    by_cases same : name = field
    · rw [if_pos same, if_pos same, editOf]
      cases rule? tree field with
      | none => rfl
      | some rule =>
        cases rule with
        | keep => rfl
        | keepMatching constraint =>
          exact (Match.of?_edit constraint value).trans List.findSome?_singleton.symm
        | within rules => exact (Fault.of?_map _ _).trans (here rules)
    · rw [if_neg same, if_neg same]
      exact inductionHypothesis further

/-- A projection ends in the fault of the first pattern it comes to that cannot be read. -/
theorem of?_project (tree : FilterTree) (value : Json) :
    Fault.of? (tree.project value) = tree.fault? value := by
  induction value using Json.induction generalizing tree with
  | array items inductionHypothesis =>
    rw [project, Fault.of?_map, projectItems_eq_mapM, Fault.of?_mapM, fault?, patterns,
      itemPatterns_eq_flatMap, findSome?_flatMap]
    exact findSome?_congr fun item inArray => inductionHypothesis item inArray tree.named
  | object members inductionHypothesis =>
    have fields : ∀ field, Fault.of? (tree.named.editOf field (Members.find? members field)) =
        (patterns.fieldPatterns tree.named field members).findSome? MatchPattern.fault? :=
      of?_editOf inductionHypothesis
    rw [project, Fault.of?_map, of?_carryOut, fault?, patterns, findSome?_flatMap]
    simp only [decided_edits, fields]
  | _ => rfl

/-- A projection comes to a result exactly where every pattern it comes to can be read. -/
theorem exists_project_iff {tree : FilterTree} {value : Json} :
    (∃ kept, tree.project value = .ok kept) ↔
      ∀ pattern ∈ tree.patterns value, pattern.fault? = none := by
  rw [← Fault.of?_eq_none_iff, of?_project, fault?, List.findSome?_eq_none_iff]

/-! ### The patterns of an object -/

end FilterTree

/-- The patterns that a rule comes to in a field with the value. -/
def Rule.patterns : Rule → Json → List MatchPattern
  | .keep, _ => []
  | .keepMatching constraint, _ => [constraint.pattern]
  | .within rules, value => FilterTree.patterns rules value

namespace FilterTree

/-- A field meets the patterns of its rule, where the tree has one and the field is there. -/
theorem fieldPatterns_eq_elim (tree : FilterTree) (field : String) (members : Members) :
    patterns.fieldPatterns tree field members =
      (members.find? field).elim [] fun value =>
        (rule? tree field).elim [] fun rule => rule.patterns value := by
  induction members with
  | nil => rfl
  | cons member rest inductionHypothesis =>
    obtain ⟨name, value⟩ := member
    rw [patterns.fieldPatterns, Members.find?_cons]
    by_cases same : name = field
    · rw [if_pos same, if_pos same, Option.elim_some]
      cases rule? tree field with
      | none => rfl
      | some rule => cases rule <;> simp [Rule.patterns]
    · rw [if_neg same, if_neg same]
      exact inductionHypothesis

theorem mem_fieldPatterns_iff {tree : FilterTree} {field : String} {members : Members}
    {pattern : MatchPattern} :
    pattern ∈ patterns.fieldPatterns tree field members ↔
      ∃ value rule, members.find? field = some value ∧ rule? tree field = some rule ∧
        pattern ∈ rule.patterns value := by
  rw [fieldPatterns_eq_elim]
  cases members.find? field <;> cases rule? tree field <;> simp

theorem mem_of_rule? {tree : FilterTree} {field : String} {rule : Rule}
    (known : tree.rule? field = some rule) : field ∈ tree.map Prod.fst := by
  by_contra unnamed
  cases known.symm.trans (Dictionary.valueAt?_eq_none unnamed)

theorem mem_patterns_object_iff {tree : FilterTree} {members : Members} {pattern : MatchPattern} :
    pattern ∈ tree.patterns (.object members) ↔
      ∃ field value rule, members.find? field = some value ∧
        tree.named.rule? field = some rule ∧ pattern ∈ rule.patterns value := by
  rw [patterns, List.mem_flatMap]
  constructor
  · rintro ⟨entry, -, met⟩
    exact ⟨entry.1, mem_fieldPatterns_iff.mp met⟩
  · rintro ⟨field, value, rule, found, known, met⟩
    obtain ⟨entry, inside, rfl⟩ := List.mem_map.mp (mem_of_rule? known)
    exact ⟨entry, inside, mem_fieldPatterns_iff.mpr ⟨value, rule, found, known, met⟩⟩

theorem mem_patterns_array_iff {tree : FilterTree} {items : List Json} {pattern : MatchPattern} :
    pattern ∈ tree.patterns (.array items) ↔
      ∃ item ∈ items, pattern ∈ tree.named.patterns item := by
  rw [patterns, itemPatterns_eq_flatMap, List.mem_flatMap]

end FilterTree

end Gateway
