/-
This file proves that a pattern may be kept as its text or be made from it ahead of time. Selectors
are compared by the texts of their patterns, and trees rule by rule. Selectors that compare equal
build trees that compare equal, or both build none; trees that compare equal keep the same of every
entry, or meet the same fault. So where any of the texts in a query that write patterns are made
into them ahead of time, the query is filtered with the same outcome.
-/

import Gateway.Proofs.Filter.Agreement
import Gateway.Proofs.Filter.Statements

namespace Gateway

/-! ### Rules that compare equal -/

namespace Match

theorem beq_iff {constraint twin : Match} :
    constraint == twin ↔
      constraint.path = twin.path ∧ constraint.pattern.text = twin.pattern.text := by
  refine Bool.and_eq_true_iff.trans ?_
  rw [beq_iff_eq, beq_iff_eq]

/-- Matches that compare equal do the same to every value, since their texts are the same. -/
theorem edit_eq_of_beq {constraint twin : Match} (same : constraint == twin) (value : Json) :
    constraint.edit value = twin.edit value := by
  obtain ⟨-, text⟩ := beq_iff.mp same
  have read : constraint.pattern.compile? = twin.pattern.compile? := by
    rw [MatchPattern.compile?_eq, text, ← MatchPattern.compile?_eq]
  rw [edit.eq_def, edit.eq_def, read, text]

end Match

namespace FilterTree

variable {tree twin : FilterTree}

/-- The trees have rules for the same names, and the rules compare equal. -/
inductive Alike : FilterTree → FilterTree → Prop
  | nil : Alike [] []
  | cons (field : String) {rule other : Rule} {rest others : FilterTree} (here : rule == other)
    (further : Alike rest others) : Alike ((field, rule) :: rest) ((field, other) :: others)

/-- Trees compare equal exactly where they are alike. -/
theorem beq_iff_alike : tree == twin ↔ Alike tree twin := by
  rw [beq_iff_forall₂]
  constructor
  · intro each
    induction each with
    | nil => exact .nil
    | @cons entry other rest others here _ inductionHypothesis =>
      obtain ⟨field, rule⟩ := entry
      obtain ⟨name, twin⟩ := other
      obtain ⟨named, same⟩ := Bool.and_eq_true_iff.mp here
      obtain rfl : field = name := eq_of_beq named
      exact .cons field same inductionHypothesis
  · intro alike
    induction alike with
    | nil => exact .nil
    | cons field here _ inductionHypothesis =>
      exact .cons (Bool.and_eq_true_iff.mpr ⟨beq_self_eq_true field, here⟩) inductionHypothesis

/-- Rules inside a field compare equal where the trees that they are do. -/
theorem within_beq_within (rules others : FilterTree) :
    (Rule.within rules == Rule.within others) = (rules == others) := by
  show Rule.same.sameEntries rules others = (rules == others)
  induction rules generalizing others with
  | nil => cases others <;> rfl
  | cons entry rest inductionHypothesis =>
    cases others with
    | nil => rfl
    | cons other remaining =>
      rw [Rule.same.sameEntries, List.cons_beq_cons, inductionHypothesis]
      rfl

/-- What compares equal with a rule is of the same kind. -/
theorem cases_of_beq {rule other : Rule} (same : rule == other) :
    (rule = .keep ∧ other = .keep) ∨
      (∃ constraint twin, rule = .keepMatching constraint ∧ other = .keepMatching twin ∧
        constraint == twin) ∨
      ∃ rules others, rule = .within rules ∧ other = .within others ∧ Alike rules others := by
  cases rule with
  | keep =>
    cases other with
    | keep => exact Or.inl ⟨rfl, rfl⟩
    | _ => cases same
  | keepMatching constraint =>
    cases other with
    | keepMatching twin => exact Or.inr (Or.inl ⟨constraint, twin, rfl, rfl, same⟩)
    | _ => cases same
  | within rules =>
    cases other with
    | within others =>
      rw [within_beq_within, beq_iff_alike] at same
      exact Or.inr (Or.inr ⟨rules, others, rfl, rfl, same⟩)
    | _ => cases same

namespace Alike

theorem selectsAll_eq (alike : Alike tree twin) : tree.selectsAll = twin.selectsAll := by
  induction alike with
  | nil => rfl
  | cons field _ _ inductionHypothesis =>
    exact congrArg (field == selectAllMarker || ·) inductionHypothesis

theorem named (alike : Alike tree twin) : Alike tree.named twin.named := by
  induction alike with
  | nil => exact .nil
  | cons field here _ inductionHypothesis =>
    rw [FilterTree.named, FilterTree.named, Dictionary.eraseEntry, Dictionary.eraseEntry,
      List.filter_cons, List.filter_cons]
    dsimp only
    split
    · exact .cons field here inductionHypothesis
    · exact inductionHypothesis

/-- A field has rules that compare equal, or none in either tree. -/
theorem rule? (alike : Alike tree twin) (field : String) :
    Option.Rel (fun rule other => rule == other) (tree.rule? field) (twin.rule? field) := by
  induction alike with
  | nil => exact .none
  | cons name here _ inductionHypothesis =>
    rw [FilterTree.rule?, FilterTree.rule?, Dictionary.valueAt?, Dictionary.valueAt?]
    split
    · exact .some here
    · exact inductionHypothesis

theorem inside (alike : Alike tree twin) (field : String) :
    Alike (tree.inside field) (twin.inside field) := by
  rw [FilterTree.inside, FilterTree.inside]
  have rules := alike.rule? field
  -- the relation decides what both look-ups give, so they are taken as unknowns
  generalize tree.rule? field = rule, twin.rule? field = other at rules ⊢
  cases rules with
  | none => exact .nil
  | some same =>
    obtain ⟨rfl, rfl⟩ | ⟨_, _, rfl, rfl, -⟩ | ⟨_, _, rfl, rfl, inner⟩ := cases_of_beq same
    · exact .nil
    · exact .nil
    · exact inner

theorem insertEntry (alike : Alike tree twin) (field : String) {rule other : Rule}
    (same : rule == other) :
    Alike (Dictionary.insertEntry field rule tree) (Dictionary.insertEntry field other twin) := by
  induction alike with
  | nil => exact .cons field same .nil
  | cons name here further inductionHypothesis =>
    rw [Dictionary.insertEntry, Dictionary.insertEntry]
    split
    · exact .cons field same (.cons name here further)
    · split
      · exact .cons field same further
      · exact .cons name here inductionHypothesis

theorem insert (alike : Alike tree twin) (path : List String) {rule other : Rule}
    (same : rule == other) : Alike (tree.insert path rule) (twin.insert path other) := by
  induction path generalizing tree twin with
  | nil => exact alike
  | cons field rest inductionHypothesis =>
    cases rest with
    | nil => exact alike.insertEntry field same
    | cons next others =>
      refine alike.insertEntry field ?_
      rw [within_beq_within, beq_iff_alike]
      exact inductionHypothesis (alike.inside field)

/-- Carrying out edits looks at the names of the rules only. -/
theorem carryOut_eq (alike : Alike tree twin) (edits : List (String × Except Fault Edit))
    (start : Members) : carryOut edits tree start = carryOut edits twin start := by
  induction alike generalizing start with
  | nil => rfl
  | cons field _ _ inductionHypothesis =>
    rw [carryOut_cons, carryOut_cons]
    simp only [inductionHypothesis]

end Alike

/-! ### What trees that compare equal keep -/

/-- Rules that compare equal do the same to a value of which trees that are alike keep the same. -/
theorem edit_eq_of_beq {rule other : Rule} (same : rule == other) {value : Json}
    (inside : ∀ {rules others : FilterTree}, Alike rules others →
      rules.project value = others.project value) : rule.edit value = other.edit value := by
  obtain ⟨rfl, rfl⟩ | ⟨_, _, rfl, rfl, alike⟩ | ⟨_, _, rfl, rfl, alike⟩ := cases_of_beq same
  · rfl
  · exact Match.edit_eq_of_beq alike value
  · exact congrArg (Except.map Edit.put) (inside alike)

/-- Trees that are alike keep the same of every value, or meet the same fault. -/
theorem Alike.project_eq (alike : Alike tree twin) (value : Json) :
    tree.project value = twin.project value := by
  -- the trees inside are applied to the fields, so the induction is on the value for all trees
  induction value using Json.induction generalizing tree twin with
  | array items inductionHypothesis =>
    rw [project, project, projectItems_eq_mapM, projectItems_eq_mapM]
    refine congrArg (Except.map Json.array) (mapM_eq_of_forall₂ (List.forall₂_same.mpr ?_))
    exact fun item inside => inductionHypothesis item inside alike.named
  | object members inductionHypothesis =>
    rw [project, project, alike.selectsAll_eq, alike.named.carryOut_eq]
    refine congrArg (Except.map Json.object) (carryOut_congr (fun field => ?_) _ _)
    rw [decided_edits, decided_edits]
    cases found : Members.find? members field with
    | none => rfl
    | some value =>
      have rules := alike.named.rule? field
      rw [editOf, editOf]
      generalize tree.named.rule? field = rule, twin.named.rule? field = other at rules ⊢
      cases rules with
      | none => rfl
      | some same =>
        have inObject := Members.mem_of_find? found
        exact edit_eq_of_beq same fun inner => inductionHypothesis _ inObject inner
  | _ => rfl

/-! ### Selectors that compare equal -/

/-- Two attempts to build a tree end alike: in trees that compare equal, or in the same fault. -/
inductive BuiltAlike : Except Fault FilterTree → Except Fault FilterTree → Prop
  | ok {tree twin : FilterTree} (same : tree == twin) : BuiltAlike (.ok tree) (.ok twin)
  | error (fault : Fault) : BuiltAlike (.error fault) (.error fault)

theorem Alike.addSelector (alike : Alike tree twin) {selector other : Selector}
    (same : selector == other) :
    BuiltAlike (tree.addSelector selector) (twin.addSelector other) := by
  cases selector with
  | path segments =>
    cases other with
    | path others =>
      obtain rfl : segments = others := eq_of_beq same
      exact .ok (beq_iff_alike.mpr (alike.insert segments rfl))
    | matching => cases same
  | matching constraint =>
    cases other with
    | path => cases same
    | matching twin =>
      obtain ⟨path, text⟩ := Match.beq_iff.mp same
      rw [FilterTree.addSelector, FilterTree.addSelector, path]
      cases twin.path.getLast? with
      | none => exact .error _
      | some target =>
        refine .ok (beq_iff_alike.mpr (alike.insert twin.path ?_))
        exact Match.beq_iff.mpr ⟨rfl, text⟩

/-- Selectors that compare equal one by one add to trees that are alike in the same way. -/
theorem Alike.foldlM_addSelector {selectors others : List Selector}
    (same : List.Forall₂ (fun selector other => selector == other) selectors others)
    (alike : Alike tree twin) :
    BuiltAlike (selectors.foldlM FilterTree.addSelector tree)
      (others.foldlM FilterTree.addSelector twin) := by
  induction same generalizing tree twin with
  | nil => exact .ok (beq_iff_alike.mpr alike)
  | @cons selector other rest others here _ inductionHypothesis =>
    have first := alike.addSelector here
    rw [List.foldlM_cons, List.foldlM_cons]
    generalize tree.addSelector selector = one, twin.addSelector other = two at first ⊢
    cases first with
    | ok same => exact inductionHypothesis (beq_iff_alike.mp same)
    | error fault => exact .error fault

/-- Selectors that compare equal build trees that do, or meet the same fault. -/
theorem build_alike {selectors others : List Selector} (same : selectors == others) :
    BuiltAlike (build selectors) (build others) :=
  Alike.nil.foldlM_addSelector (beq_iff_forall₂.mp same)

end FilterTree

/-! ### Entries and statements -/

/-- Trees that are alike keep the same of every entry, or meet the same fault. -/
theorem Resource.filter_eq_of_alike {tree twin : FilterTree} (alike : tree.Alike twin)
    (entry : Resource) : entry.filter tree = entry.filter twin := by
  induction entry using Resource.induction with
  | done result => rw [filter, filter, alike.project_eq]
  | multiplexed items inductionHypothesis =>
    rw [filter, filter, filterItems_eq_mapM, filterItems_eq_mapM]
    refine congrArg (Except.map Resource.multiplexed) (mapM_eq_of_forall₂ ?_)
    exact List.forall₂_same.mpr inductionHypothesis
  | pending statement => rfl

namespace Statement

/-- Filtering does not tell the statements apart: they have one identity, and their selectors
compare equal. -/
structure FiltersAs (statement twin : Statement) : Prop where
  id_eq : statement.id = twin.id
  only_beq : statement.only == twin.only

variable {statement twin : Statement}

theorem FiltersAs.isEmpty_eq (alike : statement.FiltersAs twin) :
    statement.only.isEmpty = twin.only.isEmpty := by
  rw [Bool.eq_iff_iff, List.isEmpty_iff_length_eq_zero, List.isEmpty_iff_length_eq_zero,
    (beq_iff_forall₂.mp alike.only_beq).length_eq]

/-- Such statements make the same of every entry, or meet the same fault. -/
theorem FiltersAs.filterEntry_eq (alike : statement.FiltersAs twin) (entry : Option Resource) :
    statement.filterEntry entry = twin.filterEntry entry := by
  have built := FilterTree.build_alike alike.only_beq
  rw [filterEntry.eq_def, filterEntry.eq_def, alike.id_eq, alike.isEmpty_eq]
  generalize FilterTree.build statement.only = one, FilterTree.build twin.only = two at built ⊢
  cases built with
  | error fault => rfl
  | ok same =>
    cases entry with
    | none => rfl
    | some resource =>
      dsimp only
      rw [resource.filter_eq_of_alike (FilterTree.beq_iff_alike.mp same)]

theorem FiltersAs.appliesTo_iff (alike : statement.FiltersAs twin) {entry : Option Resource} :
    statement.AppliesTo entry ↔ twin.AppliesTo entry := by
  rw [← exists_filterEntry_iff, alike.filterEntry_eq, exists_filterEntry_iff]

theorem FiltersAs.filteredLog_eq (alike : statement.FiltersAs twin) :
    statement.filteredLog = twin.filteredLog := by
  rw [filteredLog, filteredLog, alike.isEmpty_eq, alike.id_eq]

end Statement

/-! ### Queries -/

namespace Query

variable {resources : Resources} {statements others : List Statement}

/-- How two lists of statements end alike: with the same results and log, or in failures that are
met at the same place with the same cause, behind the same log. What a failure itself logs tells
how the patterns of its statement are kept, and nothing else of the two logs differs. -/
inductive EndAlike [LibraryReports] (resources : Resources) (statements others : List Statement) :
    Traced (Except FilterFailure Resources) → Traced (Except FilterFailure Resources) → Prop
  | done (filtered : Resources) (log : List LogEntry) :
    EndAlike resources statements others ⟨.ok filtered, log⟩ ⟨.ok filtered, log⟩
  | failed (place : Nat) {statement twin : Statement} (cause : Fault) (log : List LogEntry)
    (here : statements[place]? = some statement) (there : others[place]? = some twin)
    (sound : ∀ earlier ∈ statements.take place ++ others.take place,
      earlier.AppliesTo (resources.find? earlier.id))
    (id_eq : statement.id = twin.id)
    (fails : statement.filterEntry (resources.find? statement.id) = .error cause)
    (twinFails : twin.filterEntry (resources.find? twin.id) = .error cause) :
    EndAlike resources statements others
      ⟨.error (statement.failure resources cause),
        log ++ (statement.failure resources cause).log⟩
      ⟨.error (twin.failure resources cause), log ++ (twin.failure resources cause).log⟩

/-- Statements that can be applied and make the same put off how two lists end. -/
theorem EndAlike.cons [LibraryReports] {statement twin : Statement}
    (alike : statement.FiltersAs twin)
    (applies : statement.AppliesTo (resources.find? statement.id))
    {one two : Traced (Except FilterFailure Resources)}
    (ends : EndAlike resources statements others one two) :
    EndAlike resources (statement :: statements) (twin :: others)
      (one.after statement.filteredLog) (two.after twin.filteredLog) := by
  rw [← alike.filteredLog_eq]
  cases ends with
  | done filtered log => exact .done filtered _
  | failed place cause log here there sound id_eq fails twinFails =>
    rw [Traced.after, Traced.after, ← List.append_assoc, ← List.append_assoc]
    refine .failed (place + 1) cause _ here there ?_ id_eq fails twinFails
    have twinApplies : twin.AppliesTo (resources.find? twin.id) := by
      rw [← alike.id_eq]
      exact alike.appliesTo_iff.mp applies
    obtain ⟨before, twinBefore⟩ := List.forall_mem_append.mp sound
    exact List.forall_mem_append.mpr ⟨List.forall_mem_cons.mpr ⟨applies, before⟩,
      List.forall_mem_cons.mpr ⟨twinApplies, twinBefore⟩⟩

/-- Statements that filtering does not tell apart one by one end alike. -/
theorem filterFrom_alike [LibraryReports]
    (alike : List.Forall₂ Statement.FiltersAs statements others) (filtered : Resources) :
    EndAlike resources statements others (filterFrom resources statements filtered)
      (filterFrom resources others filtered) := by
  induction alike generalizing filtered with
  | nil => exact .done filtered []
  | @cons statement twin rest others alike _ inductionHypothesis =>
    have same := alike.filterEntry_eq (resources.find? statement.id)
    cases outcome : statement.filterEntry (resources.find? statement.id) with
    | error cause =>
      have twinOutcome : twin.filterEntry (resources.find? twin.id) = .error cause := by
        rw [← alike.id_eq, ← same, outcome]
      rw [filterFrom_cons_failure outcome, filterFrom_cons_failure twinOutcome]
      exact .failed 0 cause [] rfl rfl (fun _ none => nomatch none) alike.id_eq outcome twinOutcome
    | ok made =>
      have twinOutcome : twin.filterEntry (resources.find? twin.id) = .ok made := by
        rw [← alike.id_eq, ← same, outcome]
      rw [filterFrom_cons outcome, filterFrom_cons twinOutcome, ← alike.id_eq]
      exact .cons alike (Statement.exists_filterEntry_iff.mp ⟨made, outcome⟩)
        (inductionHypothesis _)

end Query

/-! ### Patterns made ahead of time -/

/-- The second selector is the first one, or what the first one is once its text was made into the
pattern that it writes. -/
inductive Selector.Prepares : Selector → Selector → Prop
  | same (selector : Selector) : Prepares selector selector
  | compiled (path : List String) {text : String} {pattern : Pattern}
    (writes : Pattern.compile? text = some pattern) :
    Prepares (.matching ⟨path, .source text⟩) (.matching ⟨path, .compiled pattern⟩)

theorem Selector.beq_self (selector : Selector) : selector == selector := by
  cases selector with
  | path segments => exact beq_self_eq_true segments
  | matching constraint => exact Match.beq_iff.mpr ⟨rfl, rfl⟩

theorem Selector.Prepares.beq {selector prepared : Selector}
    (prepares : selector.Prepares prepared) : selector == prepared := by
  cases prepares with
  | same selector => exact selector.beq_self
  | compiled path writes => exact Match.beq_iff.mpr ⟨rfl, (Pattern.source_of_compile? writes).symm⟩

/-- The second statement is the first one with prepared selectors. -/
inductive Statement.Prepares : Statement → Statement → Prop
  | intro (statement : Statement) {selectors : List Selector}
    (each : List.Forall₂ Selector.Prepares statement.only selectors) :
    Prepares statement { statement with only := selectors }

theorem Statement.Prepares.filtersAs {statement prepared : Statement}
    (prepares : statement.Prepares prepared) : statement.FiltersAs prepared := by
  cases prepares with
  | intro each =>
    exact ⟨rfl, beq_iff_forall₂.mpr (each.imp fun _ _ prepares => prepares.beq)⟩

/-- Texts of patterns and the patterns made from them are interchangeable. Where any of the texts in
a query that write patterns are made into them, the selectors compare equal to what they were, the
trees that are built of them compare equal, or the same fault stops both, and the query is filtered
with the same results and log, or fails on the same statement with the same cause. -/
theorem Query.interchangeable_of_prepares [LibraryReports] {query prepared : Query}
    (prepares : List.Forall₂ Statement.Prepares query.statements prepared.statements)
    (resources : Resources) :
    List.Forall₂ (fun statement other => statement.only == other.only ∧
        FilterTree.BuiltAlike (FilterTree.build statement.only) (FilterTree.build other.only))
      query.statements prepared.statements ∧
    EndAlike resources query.statements prepared.statements (query.applyFilters resources)
      (prepared.applyFilters resources) := by
  have alike := prepares.imp fun _ _ prepares => prepares.filtersAs
  exact ⟨alike.imp fun _ _ alike => ⟨alike.only_beq, FilterTree.build_alike alike.only_beq⟩,
    filterFrom_alike alike Dictionary.empty⟩

namespace Query

/-- The pattern of the texts that begin with one letter. -/
def beginsWithB : Pattern := (Pattern.compile? "^b").get (by decide +kernel)

/-- Heroes and sidekicks are asked for where their names match, and sidekicks also where another
field matches a pattern that cannot be read. -/
def namedSo (name : MatchPattern) : Query :=
  ⟨[{ resource := "heroes", only := [.matching ⟨["name"], name⟩, .path ["city"]] },
    { resource := "sidekicks",
      only := [.matching ⟨["name"], name⟩, .matching ⟨["id"], .source "("⟩] }]⟩

/-- Both were called, heroes twice. -/
def namedCalls : Resources :=
  let named : Resource :=
    .done ⟨{ status := 200, success := true },
      .value (.object [("name", .text "b"), ("id", .null)])⟩
  (Dictionary.empty.insert "heroes" (.multiplexed [named, named])).insert "sidekicks" named

theorem interchangeable_of_prepares_named :
    List.Forall₂ Statement.Prepares (namedSo (.source "^b")).statements
      (namedSo (.compiled beginsWithB)).statements ∧
    List.Forall₂ (fun statement other => statement.only == other.only ∧
        FilterTree.BuiltAlike (FilterTree.build statement.only) (FilterTree.build other.only))
      (namedSo (.source "^b")).statements (namedSo (.compiled beginsWithB)).statements ∧
    EndAlike namedCalls (namedSo (.source "^b")).statements
      (namedSo (.compiled beginsWithB)).statements
      ((namedSo (.source "^b")).applyFilters namedCalls)
      ((namedSo (.compiled beginsWithB)).applyFilters namedCalls) ∧
    ∃ failure, ((namedSo (.source "^b")).applyFilters namedCalls).value = .error failure ∧
      failure.id = "sidekicks" ∧ failure.cause = .invalidPattern "(" := by
  have writes : Pattern.compile? "^b" = some beginsWithB := (Option.some_get _).symm
  have prepares : List.Forall₂ Statement.Prepares (namedSo (.source "^b")).statements
      (namedSo (.compiled beginsWithB)).statements :=
    .cons (.intro _ (.cons (.compiled ["name"] writes) (.cons (.same _) .nil)))
      (.cons (.intro _ (.cons (.compiled ["name"] writes) (.cons (.same _) .nil))) .nil)
  obtain ⟨selectors, ends⟩ := interchangeable_of_prepares prepares namedCalls
  exact ⟨prepares, selectors, ends, _, rfl, rfl, rfl⟩

end Query

end Gateway
