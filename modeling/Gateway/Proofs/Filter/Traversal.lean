/-
This file says where a projection fails, by the tree and the value alone. It fails exactly if some
match of the tree has a pattern that cannot be read and a path that is found in the value and does
not lead over the marker; so a pattern for a field that is absent, for one below a scalar, or under
the marker never counts. The places of a value are ordered depth first, fields by the octets of
their names and items from left to right, and the fault is that of the first place where such a
match is come to.
-/

import Gateway.Proofs.Filter.Reach
import Gateway.Proofs.Text.Utf8

namespace Gateway

/-! ### The order of places -/

/-- Of two steps from one place the first comes earlier: to the field whose name is smaller, octet
by octet, or to the item further left. -/
inductive Step.Before : Step → Step → Prop
  | field {first second : String} (before : Text.OctetsBefore first second) :
    Before (.field first) (.field second)
  | item {first second : Nat} (before : first < second) : Before (.item first) (.item second)

/-- Depth first, the one place comes before the other: it lies on the way to the other, or the ways
part and it takes the earlier step there. -/
def PlaceBefore (first second : List Step) : Prop :=
  List.Lex Step.Before first second

theorem Step.Before.asymm {first second : Step} (before : first.Before second) :
    ¬ second.Before first := by
  intro after
  cases before with
  | field before =>
    cases after with
    | field after =>
      exact String.lt_asymm (Text.octetsBefore_iff.mp before) (Text.octetsBefore_iff.mp after)
  | item before =>
    cases after with
    | item after => exact Nat.lt_asymm before after

theorem PlaceBefore.asymm {first second : List Step} (before : PlaceBefore first second) :
    ¬ PlaceBefore second first :=
  List.lex_asymm Step.Before.asymm before

/-- The match fails at the place, and at no place before it does any match. -/
def FirstOf (fails : List Step → Match → Prop) (place : List Step) (constraint : Match) : Prop :=
  fails place constraint ∧
    ∀ other failing, fails other failing → other = place ∨ PlaceBefore place other

theorem FirstOf.place_unique {fails : List Step → Match → Prop} {place other : List Step}
    {constraint failing : Match} (first : FirstOf fails place constraint)
    (second : FirstOf fails other failing) : place = other := by
  rcases first.2 other failing second.1 with same | before
  · exact same.symm
  · rcases second.2 place constraint first.1 with same | after
    · exact same
    · exact absurd after before.asymm

/-- The first failure behind a step is the first of all where no failure lies behind an earlier
step. -/
theorem FirstOf.cons {fails inner : List Step → Match → Prop} {step : Step} {place : List Step}
    {constraint : Match}
    (behind : ∀ other failing, fails other failing → ∃ own rest, other = own :: rest ∧
      ((own = step ∧ inner rest failing) ∨ step.Before own))
    (here : fails (step :: place) constraint) (first : FirstOf inner place constraint) :
    FirstOf fails (step :: place) constraint := by
  refine ⟨here, fun other failing fails => ?_⟩
  obtain ⟨own, rest, rfl, ⟨rfl, within⟩ | later⟩ := behind other failing fails
  · rcases first.2 rest failing within with same | before
    · exact Or.inl (congrArg (own :: ·) same)
    · exact Or.inr (.cons before)
  · exact Or.inr (.rel later)

/-! ### Matches that fail -/

namespace FilterTree

/-- The tree looks at the place of the value with the match, whose pattern cannot be read. -/
structure FailsAt (tree : FilterTree) (value : Json) (place : List Step) (constraint : Match) :
    Prop where
  present : ∃ found, value.at? place = some found
  looks : tree.Looks (fieldNames place) constraint
  broken : constraint.pattern.compile? = none

/-- The names of the fields ascend. -/
def Sorted (tree : FilterTree) : Prop :=
  (tree.map Prod.fst).Pairwise (· < ·)

end FilterTree

namespace Rule

/-- The rule's match fails in the value of its field, or a match inside the rule does. -/
def FailsAt (rule : Rule) (value : Json) (place : List Step) (constraint : Match) : Prop :=
  match rule with
  | .keep => False
  | .keepMatching own =>
    own = constraint ∧ constraint.pattern.compile? = none ∧ fieldNames place = [] ∧
      ∃ found, value.at? place = some found
  | .within rules => FilterTree.FailsAt rules value place constraint

/-- The fault of the first pattern that the rule comes to and that cannot be read. -/
def fault? (rule : Rule) (value : Json) : Option Fault :=
  (rule.patterns value).findSome? MatchPattern.fault?

end Rule

namespace FilterTree

variable {tree : FilterTree}

theorem FailsAt.place_ne_nil {value : Json} {place : List Step} {constraint : Match}
    (fails : tree.FailsAt value place constraint) : place ≠ [] := by
  rintro rfl
  exact fails.looks.path_ne_nil rfl

theorem failsAt_array_iff {items : List Json} {place : List Step} {constraint : Match} :
    tree.FailsAt (.array items) place constraint ↔
      ∃ index item rest, place = .item index :: rest ∧ items[index]? = some item ∧
        tree.named.FailsAt item rest constraint := by
  constructor
  · intro fails
    obtain ⟨step, rest, rfl⟩ := List.exists_cons_of_ne_nil fails.place_ne_nil
    obtain ⟨found, here⟩ := fails.present
    cases step with
    | field => cases here
    | item index =>
      rw [Json.at?_array_item] at here
      obtain ⟨item, isItem, inside⟩ := Option.bind_eq_some_iff.mp here
      exact ⟨index, item, rest, rfl, isItem, ⟨found, inside⟩, looks_named_iff.mpr fails.looks,
        fails.broken⟩
  · rintro ⟨index, item, rest, rfl, isItem, ⟨found, inside⟩, looks, broken⟩
    refine ⟨⟨found, ?_⟩, looks_named_iff.mp looks, broken⟩
    rw [Json.at?_array_item, isItem, Option.bind_some, inside]

theorem failsAt_object_iff {members : Members} {place : List Step} {constraint : Match} :
    tree.FailsAt (.object members) place constraint ↔
      ∃ field rest value rule, place = .field field :: rest ∧
        members.find? field = some value ∧ tree.named.rule? field = some rule ∧
        rule.FailsAt value rest constraint := by
  constructor
  · intro fails
    obtain ⟨step, rest, rfl⟩ := List.exists_cons_of_ne_nil fails.place_ne_nil
    obtain ⟨found, here⟩ := fails.present
    cases step with
    | item => cases here
    | field field =>
      rw [Json.at?_object_field] at here
      obtain ⟨value, isField, inside⟩ := Option.bind_eq_some_iff.mp here
      obtain ⟨rule, known, looked⟩ := looks_cons_iff.mp fails.looks
      refine ⟨field, rest, value, rule, rfl, isField, known, ?_⟩
      rcases looked with ⟨ends, rfl⟩ | ⟨rules, rfl, looks⟩
      · exact ⟨rfl, fails.broken, ends, found, inside⟩
      · exact ⟨⟨found, inside⟩, looks, fails.broken⟩
  · rintro ⟨field, rest, value, rule, rfl, isField, known, fails⟩
    have reached {found : Json} (inside : value.at? rest = some found) :
        (Json.object members).at? (.field field :: rest) = some found := by
      rw [Json.at?_object_field, isField, Option.bind_some, inside]
    cases rule with
    | keep => exact fails.elim
    | keepMatching own =>
      obtain ⟨rfl, broken, ends, found, inside⟩ := fails
      exact ⟨⟨found, reached inside⟩, looks_cons_iff.mpr ⟨_, known, Or.inl ⟨ends, rfl⟩⟩, broken⟩
    | within rules =>
      obtain ⟨⟨found, inside⟩, looks, broken⟩ := fails
      exact ⟨⟨found, reached inside⟩, looks_cons_iff.mpr ⟨_, known, Or.inr ⟨rules, rfl, looks⟩⟩,
        broken⟩

/-- A match fails somewhere exactly if its path is found and its pattern cannot be read. -/
theorem exists_failsAt_iff {value : Json} :
    (∃ place constraint, tree.FailsAt value place constraint) ↔
      ∃ path constraint, tree.Looks path constraint ∧ constraint.pattern.compile? = none ∧
        value.Reaches path := by
  constructor
  · rintro ⟨place, constraint, ⟨found, here⟩, looks, broken⟩
    exact ⟨fieldNames place, constraint, looks, broken, place, found, here, rfl⟩
  · rintro ⟨path, constraint, looks, broken, place, found, here, rfl⟩
    exact ⟨place, constraint, ⟨found, here⟩, looks, broken⟩

/-- There is a fault exactly where some match fails. -/
theorem fault?_ne_none_iff {value : Json} :
    tree.fault? value ≠ none ↔ ∃ place constraint, tree.FailsAt value place constraint := by
  rw [exists_failsAt_iff, fault?, Ne, List.findSome?_eq_none_iff]
  push Not
  constructor
  · rintro ⟨pattern, met, faulty⟩
    obtain ⟨path, constraint, looks, reaches, rfl⟩ := mem_patterns_iff.mp met
    exact ⟨path, constraint, looks,
      not_not.mp fun read => faulty (MatchPattern.fault?_eq_none_iff.mpr read), reaches⟩
  · rintro ⟨path, constraint, looks, broken, reaches⟩
    refine ⟨constraint.pattern, mem_patterns_iff.mpr ⟨path, constraint, looks, reaches, rfl⟩, ?_⟩
    exact fun read => MatchPattern.fault?_eq_none_iff.mp read broken

end FilterTree

theorem Rule.fault?_ne_none_of_failsAt {rule : Rule} {value : Json} {place : List Step}
    {constraint : Match} (fails : rule.FailsAt value place constraint) :
    rule.fault? value ≠ none := by
  cases rule with
  | keep => exact fails.elim
  | keepMatching own =>
    obtain ⟨rfl, broken, -⟩ := fails
    rw [Rule.fault?, Rule.patterns, List.findSome?_singleton]
    exact fun read => MatchPattern.fault?_eq_none_iff.mp read broken
  | within rules => exact FilterTree.fault?_ne_none_iff.mpr ⟨place, constraint, fails⟩

/-! ### The first failure -/

theorem MatchPattern.eq_of_fault? {pattern : MatchPattern} {fault : Fault}
    (faulty : pattern.fault? = some fault) :
    pattern.compile? = none ∧ fault = .invalidPattern pattern.text := by
  rw [fault?] at faulty
  cases compiled : pattern.compile? with
  | none =>
    rw [compiled] at faulty
    exact ⟨rfl, (Option.some.inj faulty).symm⟩
  | some read =>
    rw [compiled] at faulty
    cases faulty

theorem Rule.exists_firstOf {rule : Rule} {value : Json} {fault : Fault}
    (inside : ∀ rules : FilterTree, rule = .within rules → rules.fault? value = some fault →
      ∃ place constraint, FirstOf (rules.FailsAt value) place constraint ∧
        fault = .invalidPattern constraint.pattern.text)
    (faulty : rule.fault? value = some fault) :
    ∃ place constraint, FirstOf (rule.FailsAt value) place constraint ∧
      fault = .invalidPattern constraint.pattern.text := by
  cases rule with
  | keep => cases faulty
  | keepMatching own =>
    rw [Rule.fault?, Rule.patterns, List.findSome?_singleton] at faulty
    obtain ⟨broken, same⟩ := MatchPattern.eq_of_fault? faulty
    refine ⟨[], own, ⟨⟨rfl, broken, rfl, value, Json.at?_nil value⟩, fun other _ _ => ?_⟩, same⟩
    cases other with
    | nil => exact Or.inl rfl
    | cons step rest => exact Or.inr .nil
  | within rules => exact inside rules rfl faulty

namespace FilterTree

variable {tree : FilterTree}

theorem fault?_array (tree : FilterTree) (items : List Json) :
    tree.fault? (.array items) = items.findSome? tree.named.fault? := by
  rw [fault?, patterns, itemPatterns_eq_flatMap, findSome?_flatMap]
  rfl

/-- The fault that the rule of a field meets in what is found there. -/
def fieldFault? (tree : FilterTree) (field : String) (members : Members) : Option Fault :=
  (patterns.fieldPatterns tree field members).findSome? MatchPattern.fault?

theorem fault?_object (tree : FilterTree) (members : Members) :
    tree.fault? (.object members) =
      tree.named.findSome? fun entry => tree.named.fieldFault? entry.1 members := by
  rw [fault?, patterns, findSome?_flatMap]
  rfl

theorem fieldFault?_eq_some_iff {field : String} {members : Members} {fault : Fault} :
    tree.fieldFault? field members = some fault ↔
      ∃ value rule, members.find? field = some value ∧ rule? tree field = some rule ∧
        rule.fault? value = some fault := by
  rw [fieldFault?, fieldPatterns_eq_elim]
  cases members.find? field <;> cases rule? tree field <;> simp [Rule.fault?]

theorem Sorted.named (sorted : tree.Sorted) : tree.named.Sorted := by
  have sublist : tree.named.Sublist tree := List.filter_sublist
  exact List.Pairwise.sublist (sublist.map Prod.fst) sorted

theorem rule?_of_rule?_named {field : String} {rule : Rule}
    (known : tree.named.rule? field = some rule) : tree.rule? field = some rule := by
  rw [rule?_named] at known
  exact (Option.ite_none_left_eq_some.mp known).2

theorem throughout_sorted_named (sorted : Throughout Sorted tree) :
    Throughout Sorted tree.named :=
  .intro sorted.here.named fun _ _ found => sorted.inner (rule?_of_rule?_named found)

/-- The fault of a tree in a value is that of the first match that fails. -/
theorem exists_firstOf (sorted : Throughout Sorted tree) {value : Json} {fault : Fault}
    (faulty : tree.fault? value = some fault) :
    ∃ place constraint, FirstOf (tree.FailsAt value) place constraint ∧
      fault = .invalidPattern constraint.pattern.text := by
  -- the trees inside are applied to the fields, so the induction is on the value for all trees
  induction value using Json.induction generalizing tree with
  | array items inductionHypothesis =>
    rw [fault?_array] at faulty
    obtain ⟨before, item, after, rfl, here, clean⟩ := List.findSome?_eq_some_iff.mp faulty
    obtain ⟨place, constraint, first, same⟩ := inductionHypothesis item
      (List.mem_append_right _ List.mem_cons_self) (throughout_sorted_named sorted) here
    have isItem : (before ++ item :: after)[before.length]? = some item := by simp
    refine ⟨.item before.length :: place, constraint, first.cons (fun other failing fails => ?_)
      (failsAt_array_iff.mpr ⟨_, item, place, rfl, isItem, first.1⟩), same⟩
    obtain ⟨index, own, rest, rfl, isOwn, inside⟩ := failsAt_array_iff.mp fails
    refine ⟨.item index, rest, rfl, ?_⟩
    rcases Nat.lt_trichotomy index before.length with earlier | rfl | later
    · rw [List.getElem?_append_left earlier] at isOwn
      have unfaulty := clean own (List.mem_of_getElem? isOwn)
      exact absurd unfaulty (fault?_ne_none_iff.mpr ⟨rest, failing, inside⟩)
    · obtain rfl := Option.some.inj (isItem.symm.trans isOwn)
      exact Or.inl ⟨rfl, inside⟩
    · exact Or.inr (.item later)
  | object members inductionHypothesis =>
    rw [fault?_object] at faulty
    obtain ⟨before, entry, after, split, here, clean⟩ := List.findSome?_eq_some_iff.mp faulty
    obtain ⟨value, rule, found, known, faulty⟩ := fieldFault?_eq_some_iff.mp here
    obtain ⟨place, constraint, first, same⟩ := Rule.exists_firstOf (fun rules isWithin =>
      inductionHypothesis _ (Members.mem_of_find? found)
        (sorted.inner (isWithin ▸ rule?_of_rule?_named known))) faulty
    refine ⟨.field entry.1 :: place, constraint, first.cons (fun other failing fails => ?_)
      (failsAt_object_iff.mpr ⟨entry.1, place, value, rule, rfl, found, known, first.1⟩), same⟩
    obtain ⟨field, rest, own, ownRule, rfl, isOwn, ownKnown, inside⟩ := failsAt_object_iff.mp fails
    refine ⟨.field field, rest, rfl, ?_⟩
    have ascending : tree.named.Sorted := sorted.here.named
    have named := mem_of_rule? ownKnown
    rw [Sorted, split, List.map_append, List.map_cons, List.pairwise_append,
      List.pairwise_cons] at ascending
    rw [split, List.map_append, List.map_cons, List.mem_append, List.mem_cons] at named
    rcases named with earlier | rfl | later
    · obtain ⟨other, isEarlier, rfl⟩ := List.mem_map.mp earlier
      obtain ⟨met, isMet⟩ := Option.ne_none_iff_exists'.mp (Rule.fault?_ne_none_of_failsAt inside)
      have unfaulty := clean other isEarlier
      rw [fieldFault?_eq_some_iff.mpr ⟨own, ownRule, isOwn, ownKnown, isMet⟩] at unfaulty
      cases unfaulty
    · obtain rfl := Option.some.inj (found.symm.trans isOwn)
      obtain rfl := Option.some.inj (known.symm.trans ownKnown)
      exact Or.inl ⟨rfl, inside⟩
    · exact Or.inr (.field (Text.octetsBefore_iff.mpr (ascending.2.1.1 field later)))
  | _ => cases faulty

theorem project_eq_error_iff {value : Json} {fault : Fault} :
    tree.project value = .error fault ↔ tree.fault? value = some fault := by
  rw [← of?_project, Fault.of?_eq_some_iff]

/-- Where a projection fails. It does exactly if the tree has a match whose path, without the
marker, is found in the value and whose pattern cannot be read; and the fault is that of the match
that is come to first, depth first. -/
theorem project_faults (sorted : Throughout Sorted tree) (value : Json) :
    ((∃ fault, tree.project value = .error fault) ↔
      ∃ path constraint, tree.HasLeaf path (.keepMatching constraint) ∧
        selectAllMarker ∉ path ∧ constraint.pattern.compile? = none ∧ value.Reaches path) ∧
    ∀ fault, tree.project value = .error fault ↔
      ∃ place constraint, FirstOf (tree.FailsAt value) place constraint ∧
        fault = .invalidPattern constraint.pattern.text := by
  simp only [project_eq_error_iff]
  refine ⟨?_, fun fault => ⟨exists_firstOf sorted, ?_⟩⟩
  · rw [← Option.ne_none_iff_exists', fault?_ne_none_iff, exists_failsAt_iff]
    simp only [Looks, and_assoc]
  · rintro ⟨place, constraint, first, rfl⟩
    obtain ⟨fault, met⟩ :=
      Option.ne_none_iff_exists'.mp (fault?_ne_none_iff.mpr ⟨place, constraint, first.1⟩)
    obtain ⟨other, failing, firstMet, rfl⟩ := exists_firstOf sorted met
    obtain rfl := first.place_unique firstMet
    have same := first.1.looks.1.unique firstMet.1.looks.1
    obtain rfl := Rule.keepMatching.inj same
    exact met

/-- Matches of which no pattern can be read, one of them under the marker. -/
def brokenSelectors : List Selector :=
  [.matching ⟨[selectAllMarker, "name"], .source "("⟩,
    .matching ⟨["parts", "name"], .source "(?"⟩,
    .matching ⟨["id"], .source "["⟩]

/-- The tree of these matches. -/
def brokenRules : FilterTree :=
  [(selectAllMarker, .within [("name", .keepMatching ⟨["name"], .source "("⟩)]),
    ("id", .keepMatching ⟨["id"], .source "["⟩),
    ("parts", .within [("name", .keepMatching ⟨["name"], .source "(?"⟩)])]

/-- A list whose second item has no field of the second match, which would come first. -/
def brokenBody : Json :=
  .array
    [.text "id",
      .object
        [("parts", .array [.null, .object [("name", .text "cape")]]),
          (selectAllMarker, .object [("name", .text "x")])],
      .object [("id", .null)]]

theorem project_faults_brokenBody :
    Throughout Sorted brokenRules ∧
      brokenRules.project brokenBody = .error (.invalidPattern "(?") ∧
      ∃ place constraint, FirstOf (brokenRules.FailsAt brokenBody) place constraint ∧
        Fault.invalidPattern "(?" = .invalidPattern constraint.pattern.text := by
  have built : build brokenSelectors = .ok brokenRules := rfl
  have sorted : Throughout Sorted brokenRules :=
    (throughout_tidy_build built).imp fun _ tidy => tidy.ascending
  have failed : brokenRules.project brokenBody = .error (.invalidPattern "(?") := rfl
  exact ⟨sorted, failed, ((project_faults sorted brokenBody).2 _).mp failed⟩

end FilterTree

end Gateway
