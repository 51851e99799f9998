/-
This file says which patterns a projection comes to, and so which statements of a query are faulty.
A match is carried out wherever its path is found in the value, through arrays too, and nowhere
else; a path with the marker for all fields in it is never followed. So a statement fails for want
of its entry, for a match without a path, or for a pattern that cannot be read and whose path is
found in some record, and where every end of its entry is a record it fails for nothing else.
-/

import Gateway.Proofs.Filter.Disclosure
import Gateway.Proofs.Filter.Statements

namespace Gateway

/-! ### Paths that are found in a value -/

namespace Json

/-- Some place in the value has the path as the names of its fields. -/
def Reaches (value : Json) (path : List String) : Prop :=
  ∃ location found, value.at? location = some found ∧ fieldNames location = path

theorem reaches_cons_iff_of_array {items : List Json} {name : String} {rest : List String} :
    (array items).Reaches (name :: rest) ↔ ∃ item ∈ items, item.Reaches (name :: rest) := by
  constructor
  · rintro ⟨location, found, here, names⟩
    cases location with
    | nil => cases names
    | cons step further =>
      cases step with
      | field => cases here
      | item index =>
        rw [at?_array_item] at here
        obtain ⟨item, isItem, inside⟩ := Option.bind_eq_some_iff.mp here
        exact ⟨item, List.mem_of_getElem? isItem, further, found, inside, names⟩
  · rintro ⟨item, isItem, location, found, here, names⟩
    obtain ⟨index, isThere⟩ := List.mem_iff_getElem?.mp isItem
    refine ⟨.item index :: location, found, ?_, names⟩
    rw [at?_array_item, isThere, Option.bind_some, here]

theorem reaches_cons_iff_of_object {members : Members} {name : String} {rest : List String} :
    (object members).Reaches (name :: rest) ↔
      ∃ value, members.find? name = some value ∧ value.Reaches rest := by
  constructor
  · rintro ⟨location, found, here, names⟩
    cases location with
    | nil => cases names
    | cons step further =>
      cases step with
      | item => cases here
      | field own =>
        obtain ⟨rfl, further⟩ := List.cons.inj names
        rw [at?_object_field] at here
        obtain ⟨value, isField, inside⟩ := Option.bind_eq_some_iff.mp here
        exact ⟨value, isField, _, found, inside, further⟩
  · rintro ⟨value, isField, location, found, here, names⟩
    refine ⟨.field name :: location, found, ?_, congrArg (name :: ·) names⟩
    rw [at?_object_field, isField, Option.bind_some, here]

theorem not_reaches_cons_of_isScalar {value : Json} (scalar : value.IsScalar) (name : String)
    (rest : List String) : ¬ value.Reaches (name :: rest) := by
  rintro ⟨location, found, here, names⟩
  cases location with
  | nil => cases names
  | cons step further =>
    rw [at?_cons_of_isScalar scalar] at here
    cases here

theorem reaches_nil (value : Json) : value.Reaches [] :=
  ⟨[], value, at?_nil value, rfl⟩

end Json

/-! ### Patterns that are come to -/

namespace FilterTree

/-- The tree has the match at the end of the path, and the path does not lead over the marker. -/
def Looks (tree : FilterTree) (path : List String) (constraint : Match) : Prop :=
  tree.HasLeaf path (.keepMatching constraint) ∧ selectAllMarker ∉ path

theorem Looks.path_ne_nil {tree : FilterTree} {path : List String} {constraint : Match}
    (looks : tree.Looks path constraint) : path ≠ [] :=
  looks.1.path_ne_nil

/-- A tree looks at what the named rules name, or at what the trees inside them look at. -/
theorem looks_cons_iff {tree : FilterTree} {field : String} {rest : List String}
    {constraint : Match} :
    tree.Looks (field :: rest) constraint ↔
      ∃ rule, tree.named.rule? field = some rule ∧
        ((rest = [] ∧ rule = .keepMatching constraint) ∨
          ∃ rules, rule = .within rules ∧ Looks rules rest constraint) := by
  rw [rule?_named]
  constructor
  · rintro ⟨leaf, unmarked⟩
    rw [if_neg (List.ne_of_not_mem_cons unmarked).symm]
    cases leaf with
    | here found => exact ⟨_, found, Or.inl ⟨rfl, rfl⟩⟩
    | within found below =>
      exact ⟨_, found, Or.inr ⟨_, rfl, below, List.not_mem_of_not_mem_cons unmarked⟩⟩
  · rintro ⟨rule, known, reached⟩
    obtain ⟨unmarked, found⟩ := (Option.ite_none_left_eq_some).mp known
    rcases reached with ⟨rfl, rfl⟩ | ⟨rules, rfl, below, further⟩
    · exact ⟨.here found trivial, fun marked => unmarked (List.mem_singleton.mp marked).symm⟩
    · exact ⟨.within found below, List.not_mem_cons_of_ne_of_not_mem (Ne.symm unmarked) further⟩

theorem named_named (tree : FilterTree) : tree.named.named = tree.named :=
  named_eq_self (selectsAll_named tree)

theorem looks_named_iff {tree : FilterTree} {path : List String} {constraint : Match} :
    tree.named.Looks path constraint ↔ tree.Looks path constraint := by
  cases path with
  | nil =>
    exact iff_of_false (fun looks => looks.path_ne_nil rfl) fun looks => looks.path_ne_nil rfl
  | cons field rest => rw [looks_cons_iff, looks_cons_iff, named_named]

/-- The pattern is that of a match that the tree looks at, and the path is found in the value. -/
def Meets (tree : FilterTree) (value : Json) (pattern : MatchPattern) : Prop :=
  ∃ path constraint, tree.Looks path constraint ∧ value.Reaches path ∧
    constraint.pattern = pattern

end FilterTree

/-- The pattern is that of the rule's match, or it is met by the tree inside the rule. -/
def Rule.Meets (rule : Rule) (value : Json) (pattern : MatchPattern) : Prop :=
  match rule with
  | .keep => False
  | .keepMatching constraint => constraint.pattern = pattern
  | .within rules => FilterTree.Meets rules value pattern

namespace FilterTree

theorem meets_array_iff {tree : FilterTree} {items : List Json} {pattern : MatchPattern} :
    tree.Meets (.array items) pattern ↔ ∃ item ∈ items, tree.named.Meets item pattern := by
  constructor
  · rintro ⟨path, constraint, looks, reaches, same⟩
    obtain ⟨field, rest, rfl⟩ := List.exists_cons_of_ne_nil looks.path_ne_nil
    obtain ⟨item, isItem, reaches⟩ := Json.reaches_cons_iff_of_array.mp reaches
    exact ⟨item, isItem, _, constraint, looks_named_iff.mpr looks, reaches, same⟩
  · rintro ⟨item, isItem, path, constraint, looks, reaches, same⟩
    obtain ⟨field, rest, rfl⟩ := List.exists_cons_of_ne_nil looks.path_ne_nil
    exact ⟨_, constraint, looks_named_iff.mp looks,
      Json.reaches_cons_iff_of_array.mpr ⟨item, isItem, reaches⟩, same⟩

theorem meets_object_iff {tree : FilterTree} {members : Members} {pattern : MatchPattern} :
    tree.Meets (.object members) pattern ↔
      ∃ field value rule, members.find? field = some value ∧
        tree.named.rule? field = some rule ∧ rule.Meets value pattern := by
  constructor
  · rintro ⟨path, constraint, looks, reaches, same⟩
    obtain ⟨field, rest, rfl⟩ := List.exists_cons_of_ne_nil looks.path_ne_nil
    obtain ⟨value, found, reaches⟩ := Json.reaches_cons_iff_of_object.mp reaches
    obtain ⟨rule, known, reached⟩ := looks_cons_iff.mp looks
    refine ⟨field, value, rule, found, known, ?_⟩
    rcases reached with ⟨-, rfl⟩ | ⟨rules, rfl, further⟩
    · exact same
    · exact ⟨rest, constraint, further, reaches, same⟩
  · rintro ⟨field, value, rule, found, known, met⟩
    cases rule with
    | keep => cases met
    | keepMatching constraint =>
      refine ⟨[field], constraint, looks_cons_iff.mpr ⟨_, known, Or.inl ⟨rfl, rfl⟩⟩, ?_, met⟩
      exact Json.reaches_cons_iff_of_object.mpr ⟨value, found, Json.reaches_nil value⟩
    | within rules =>
      obtain ⟨path, constraint, looks, reaches, same⟩ := met
      refine ⟨field :: path, constraint, ?_, ?_, same⟩
      · exact looks_cons_iff.mpr ⟨_, known, Or.inr ⟨rules, rfl, looks⟩⟩
      · exact Json.reaches_cons_iff_of_object.mpr ⟨value, found, reaches⟩

theorem not_meets_of_isScalar {tree : FilterTree} {value : Json} (scalar : value.IsScalar)
    (pattern : MatchPattern) : ¬ tree.Meets value pattern := by
  rintro ⟨path, constraint, looks, reaches, -⟩
  obtain ⟨field, rest, rfl⟩ := List.exists_cons_of_ne_nil looks.path_ne_nil
  exact Json.not_reaches_cons_of_isScalar scalar field rest reaches

/-- A projection comes to the patterns of the matches whose paths are found in the value. -/
theorem mem_patterns_iff {tree : FilterTree} {value : Json} {pattern : MatchPattern} :
    pattern ∈ tree.patterns value ↔ tree.Meets value pattern := by
  induction value using Json.induction generalizing tree with
  | array items inductionHypothesis =>
    rw [mem_patterns_array_iff, meets_array_iff]
    exact exists_congr fun item => and_congr_right fun isItem => inductionHypothesis item isItem
  | object members inductionHypothesis =>
    rw [mem_patterns_object_iff, meets_object_iff]
    refine exists_congr fun field => exists_congr fun value => exists_congr fun rule => ?_
    refine and_congr_right fun found => and_congr_right fun _ => ?_
    cases rule with
    | keep => exact iff_of_false (fun met => nomatch met) id
    | keepMatching constraint => exact List.mem_singleton.trans eq_comm
    | within rules => exact inductionHypothesis (field, value) (Members.mem_of_find? found)
  | _ =>
    refine iff_of_false (fun met => nomatch met) (not_meets_of_isScalar ?_ pattern)
    exact trivial

end FilterTree

theorem MatchPattern.fault?_eq_none_iff {pattern : MatchPattern} :
    pattern.fault? = none ↔ pattern.compile? ≠ none := by
  rw [fault?]
  cases pattern.compile? <;> simp

/-! ### Faulty statements -/

/-- Every end of the entry is a record. -/
def Resource.Answered (entry : Resource) : Prop :=
  ∀ statement, .unanswered statement ∉ entry.ends

namespace Statement

/-- A match that no later selector takes away has a pattern that cannot be read, and its path, which
does not lead over the marker, is found in the body of some record in the entry. -/
def MeetsBroken (statement : Statement) (entry : Resource) : Prop :=
  ∃ path constraint result, Settles statement.only path (.keepMatching constraint) ∧
    selectAllMarker ∉ path ∧ .record result ∈ entry.ends ∧ result.body.content.Reaches path ∧
    constraint.pattern.compile? = none

/-- The selectors cannot be applied to the entry: a match has no path, or a pattern that is come to
cannot be read. -/
def InvalidOn (statement : Statement) (entry : Resource) : Prop :=
  (∃ selector ∈ statement.only, selector.LacksTarget) ∨ statement.MeetsBroken entry

/-- The statement asks for something of an entry that is not there, or to which its selectors cannot
be applied. -/
def Faulty (statement : Statement) (entry : Option Resource) : Prop :=
  statement.only ≠ [] ∧
    (entry = none ∨ ∃ resource, entry = some resource ∧ statement.InvalidOn resource)

variable {statement : Statement}

/-- A tree can be applied to an entry of records unless it comes to a pattern that cannot be
read. -/
theorem exists_filter_iff_not_meetsBroken {tree : FilterTree}
    (built : FilterTree.build statement.only = .ok tree) {entry : Resource}
    (answered : entry.Answered) :
    (∃ kept, entry.filter tree = .ok kept) ↔ ¬ statement.MeetsBroken entry := by
  rw [Resource.exists_filter_iff]
  constructor
  · rintro sound ⟨path, constraint, result, settles, unmarked, isEnd, reaches, broken⟩
    have met : constraint.pattern ∈ tree.patterns result.body.content :=
      FilterTree.mem_patterns_iff.mpr
        ⟨path, constraint, ⟨(FilterTree.hasLeaf_build_iff built).mpr settles, unmarked⟩, reaches,
          rfl⟩
    have read := List.findSome?_eq_none_iff.mp (sound _ isEnd) _ met
    exact MatchPattern.fault?_eq_none_iff.mp read broken
  · intro unbroken part isEnd
    cases part with
    | unanswered pending => exact absurd isEnd (answered pending)
    | record result =>
      refine List.findSome?_eq_none_iff.mpr fun pattern met => ?_
      obtain ⟨path, constraint, ⟨leaf, unmarked⟩, reaches, rfl⟩ :=
        FilterTree.mem_patterns_iff.mp met
      refine MatchPattern.fault?_eq_none_iff.mpr fun broken => unbroken ?_
      exact ⟨path, constraint, result, (FilterTree.hasLeaf_build_iff built).mp leaf, unmarked,
        isEnd, reaches, broken⟩

theorem appliesTo_none_iff : statement.AppliesTo none ↔ statement.only = [] := by
  refine ⟨fun applies => by_contra fun selective => ?_, fun everything selective => ?_⟩
  · obtain ⟨_, _, _, missing, -⟩ := applies selective
    cases missing
  · exact absurd everything selective

theorem appliesTo_some_iff {entry : Resource} (answered : entry.Answered) :
    statement.AppliesTo (some entry) ↔ statement.only = [] ∨ ¬ statement.InvalidOn entry := by
  refine imp_iff_not_or.trans (or_congr not_not ?_)
  by_cases complete : ∀ selector ∈ statement.only, ¬ selector.LacksTarget
  · have built := FilterTree.build_of_complete complete
    have targets : ¬ ∃ selector ∈ statement.only, selector.LacksTarget := by
      simpa using complete
    rw [InvalidOn, or_iff_right targets, ← exists_filter_iff_not_meetsBroken built answered]
    constructor
    · rintro ⟨_, tree, kept, same, other, done⟩
      obtain rfl := Option.some.inj same
      obtain rfl := Except.ok.inj (built.symm.trans other)
      exact ⟨kept, done⟩
    · rintro ⟨kept, done⟩
      exact ⟨entry, _, kept, rfl, built, done⟩
  · have lacks : ∃ selector ∈ statement.only, selector.LacksTarget := by
      simpa using complete
    refine iff_of_false ?_ (not_not_intro (Or.inl lacks))
    rintro ⟨_, tree, _, -, built, -⟩
    cases (FilterTree.build_of_lacksTarget lacks).symm.trans built

/-- A statement can be applied to an entry of records, or to none, exactly where it is not
faulty. -/
theorem appliesTo_iff_not_faulty {entry : Option Resource}
    (answered : ∀ resource, entry = some resource → resource.Answered) :
    statement.AppliesTo entry ↔ ¬ statement.Faulty entry := by
  cases entry with
  | none => simp [appliesTo_none_iff, Faulty]
  | some resource =>
    rw [appliesTo_some_iff (answered resource rfl)]
    simp [Faulty, imp_iff_not_or]

/-- The fault of a statement is that its entry is missing or that its selectors are invalid, never
the shape of an entry of records. -/
theorem FailsOn.code_eq {entry : Option Resource} {cause : Fault}
    (fails : statement.FailsOn entry cause)
    (answered : ∀ resource, entry = some resource → resource.Answered) :
    (∀ resource, cause ≠ .unknownShape resource) ∧
      cause.code = if entry = none then .dataInconsistent else .filterInvalid := by
  cases fails with
  | missing => exact ⟨nofun, rfl⟩
  | target => exact ⟨nofun, rfl⟩
  | @entry resource tree fault _ _ met =>
    obtain ⟨part, isEnd, faulty⟩ := List.exists_of_findSome?_eq_some met
    cases part with
    | unanswered pending => exact absurd isEnd (answered resource rfl pending)
    | record result =>
      obtain ⟨source, rfl⟩ := FilterTree.exists_source_of_fault? faulty
      exact ⟨nofun, rfl⟩

end Statement

end Gateway
