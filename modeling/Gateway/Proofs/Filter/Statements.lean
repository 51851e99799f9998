/-
This file says what filtering the results of a query means, with several statements of one identity
or without. Each statement is applied to the entry that was stored for it, so whether it fails, and
with which fault, depends on that statement and its entry alone; the first one that fails ends the
query. Where none does, the last statement of an identity decides the entry, since each statement
writes over what earlier ones of its identity have left.
-/

import Gateway.Proofs.Filter.Entries
import Gateway.Proofs.Filter.Selection

namespace Gateway

/-! ### One statement -/

namespace Statement

/-- The statement can be applied to its entry: it asks for everything, or there is an entry, and a
tree of its selectors that can be applied to the entry. -/
def AppliesTo (statement : Statement) (entry : Option Resource) : Prop :=
  statement.only ≠ [] →
    ∃ resource tree kept, entry = some resource ∧ FilterTree.build statement.only = .ok tree ∧
      resource.filter tree = .ok kept

/-- What the statement makes of its entry: the entry itself without selectors, and otherwise what
their tree keeps of it. -/
inductive Makes (statement : Statement) (entry : Resource) : Resource → Prop
  | whole (everything : statement.only = []) : Makes statement entry entry
  | filtered {tree : FilterTree} {kept : Resource} (selective : statement.only ≠ [])
    (built : FilterTree.build statement.only = .ok tree) (done : entry.filter tree = .ok kept) :
    Makes statement entry kept

/-- Why the statement cannot be applied: there is no entry; or else a match names no field; or else
the first fault in the entry, from left to right. -/
inductive FailsOn (statement : Statement) : Option Resource → Fault → Prop
  | missing (selective : statement.only ≠ []) :
    FailsOn statement none (.missingResult statement.id)
  | target {resource : Resource} (lacks : ∃ selector ∈ statement.only, selector.LacksTarget) :
    FailsOn statement (some resource) .emptyTarget
  | entry {resource : Resource} {tree : FilterTree} {fault : Fault}
    (selective : statement.only ≠ []) (built : FilterTree.build statement.only = .ok tree)
    (met : resource.fault? tree = some fault) : FailsOn statement (some resource) fault

variable {statement : Statement}

theorem filterEntry_of_only_eq_nil (everything : statement.only = []) (entry : Option Resource) :
    statement.filterEntry entry = .ok entry :=
  if_pos (List.isEmpty_iff.mpr everything)

theorem filterEntry_none (selective : statement.only ≠ []) :
    statement.filterEntry none = .error (.missingResult statement.id) :=
  if_neg fun empty => selective (List.isEmpty_iff.mp empty)

theorem filterEntry_some (selective : statement.only ≠ []) (resource : Resource) :
    statement.filterEntry (some resource) =
      (FilterTree.build statement.only).bind fun tree => (resource.filter tree).map some := by
  rw [filterEntry, if_neg (fun empty => selective (List.isEmpty_iff.mp empty))]
  cases FilterTree.build statement.only <;> rfl

theorem filterEntry_none_eq_ok_iff {made : Option Resource} :
    statement.filterEntry none = .ok made ↔ statement.only = [] ∧ made = none := by
  by_cases everything : statement.only = []
  · rw [filterEntry_of_only_eq_nil everything, Except.ok.injEq, and_iff_right everything, eq_comm]
  · rw [filterEntry_none everything]
    simp [everything]

theorem filterEntry_some_eq_ok_iff {resource : Resource} {made : Option Resource} :
    statement.filterEntry (some resource) = .ok made ↔
      ∃ kept, made = some kept ∧ statement.Makes resource kept := by
  by_cases everything : statement.only = []
  · rw [filterEntry_of_only_eq_nil everything, Except.ok.injEq]
    constructor
    · rintro rfl
      exact ⟨resource, rfl, .whole everything⟩
    · rintro ⟨kept, rfl, makes⟩
      cases makes with
      | whole => rfl
      | filtered selective => exact absurd everything selective
  · rw [filterEntry_some everything]
    constructor
    · intro done
      obtain ⟨tree, built, mapped⟩ := bind_eq_ok_iff.mp done
      obtain ⟨kept, rfl, filtered⟩ := map_eq_ok_iff.mp mapped
      exact ⟨kept, rfl, .filtered everything built filtered⟩
    · rintro ⟨kept, rfl, makes⟩
      cases makes with
      | whole empty => exact absurd empty everything
      | filtered _ built filtered =>
        exact bind_eq_ok_iff.mpr ⟨_, built, map_eq_ok_iff.mpr ⟨kept, rfl, filtered⟩⟩

/-- A statement makes one thing of an entry. -/
theorem Makes.unique {entry first second : Resource} (one : statement.Makes entry first)
    (other : statement.Makes entry second) : first = second := by
  have made := filterEntry_some_eq_ok_iff.mpr ⟨first, rfl, one⟩
  have again := filterEntry_some_eq_ok_iff.mpr ⟨second, rfl, other⟩
  exact Option.some.inj (Except.ok.inj (made.symm.trans again))

theorem exists_filterEntry_iff {entry : Option Resource} :
    (∃ made, statement.filterEntry entry = .ok made) ↔ statement.AppliesTo entry := by
  constructor
  · rintro ⟨made, done⟩ selective
    cases entry with
    | none => exact absurd (filterEntry_none_eq_ok_iff.mp done).1 selective
    | some resource =>
      obtain ⟨kept, -, makes⟩ := filterEntry_some_eq_ok_iff.mp done
      cases makes with
      | whole everything => exact absurd everything selective
      | filtered _ built filtered => exact ⟨resource, _, kept, rfl, built, filtered⟩
  · intro applies
    by_cases everything : statement.only = []
    · exact ⟨entry, filterEntry_of_only_eq_nil everything entry⟩
    · obtain ⟨resource, tree, kept, rfl, built, filtered⟩ := applies everything
      exact ⟨some kept,
        filterEntry_some_eq_ok_iff.mpr ⟨kept, rfl, .filtered everything built filtered⟩⟩

theorem failsOn_of_filterEntry {entry : Option Resource} {fault : Fault}
    (failed : statement.filterEntry entry = .error fault) : statement.FailsOn entry fault := by
  by_cases everything : statement.only = []
  · rw [filterEntry_of_only_eq_nil everything] at failed
    cases failed
  · cases entry with
    | none =>
      rw [filterEntry_none everything] at failed
      exact Except.error.inj failed ▸ .missing everything
    | some resource =>
      rw [filterEntry_some everything] at failed
      by_cases complete : ∀ selector ∈ statement.only, ¬ selector.LacksTarget
      · have built := FilterTree.build_of_complete complete
        rw [built] at failed
        refine .entry everything built ?_
        rw [← Resource.of?_filter, ← Fault.of?_map _ some]
        exact Fault.of?_eq_some_iff.mpr failed
      · have lacks : ∃ selector ∈ statement.only, selector.LacksTarget := by
          simpa using complete
        rw [FilterTree.build_of_lacksTarget lacks] at failed
        exact Except.error.inj failed ▸ .target lacks

/-- The failure of the statement with the fault. -/
def failure (statement : Statement) (resources : Resources) (cause : Fault) : FilterFailure :=
  ⟨statement.id, statement, resources.find? statement.id, cause⟩

end Statement

/-- The last of the statements with the identity. -/
def LastOf (statements : List Statement) (id : ResourceId) (last : Statement) : Prop :=
  ∃ before after, statements = before ++ last :: after ∧ last.id = id ∧
    ∀ later ∈ after, later.id ≠ id

theorem lastOf_cons_iff {statement last : Statement} {rest : List Statement} {id : ResourceId} :
    LastOf (statement :: rest) id last ↔
      (statement = last ∧ last.id = id ∧ ∀ later ∈ rest, later.id ≠ id) ∨ LastOf rest id last := by
  constructor
  · rintro ⟨before, after, split, facts⟩
    cases before with
    | nil =>
      obtain ⟨rfl, rfl⟩ := List.cons.inj split
      exact Or.inl ⟨rfl, facts⟩
    | cons first others =>
      obtain ⟨-, remaining⟩ := List.cons.inj split
      exact Or.inr ⟨others, after, remaining, facts⟩
  · rintro (⟨rfl, facts⟩ | ⟨before, after, rfl, facts⟩)
    · exact ⟨[], rest, rfl, facts⟩
    · exact ⟨statement :: before, after, rfl, facts⟩

theorem LastOf.mem {statements : List Statement} {id : ResourceId} {last : Statement}
    (isLast : LastOf statements id last) : last ∈ statements := by
  obtain ⟨before, after, rfl, -⟩ := isLast
  exact List.mem_append_right before List.mem_cons_self

theorem LastOf.id_eq {statements : List Statement} {id : ResourceId} {last : Statement}
    (isLast : LastOf statements id last) : last.id = id := by
  obtain ⟨-, -, -, own, -⟩ := isLast
  exact own

/-- Where some statement has the identity, one of them is the last. -/
theorem exists_lastOf {statements : List Statement} {id : ResourceId}
    (present : ∃ statement ∈ statements, statement.id = id) :
    ∃ last, LastOf statements id last := by
  induction statements with
  | nil =>
    obtain ⟨statement, inside, -⟩ := present
    cases inside
  | cons statement rest inductionHypothesis =>
    by_cases further : ∃ later ∈ rest, later.id = id
    · obtain ⟨last, isLast⟩ := inductionHypothesis further
      exact ⟨last, lastOf_cons_iff.mpr (Or.inr isLast)⟩
    · obtain ⟨own, inside, same⟩ := present
      have here : own = statement := by
        rcases List.mem_cons.mp inside with first | inRest
        · exact first
        · exact absurd ⟨own, inRest, same⟩ further
      refine ⟨statement, lastOf_cons_iff.mpr (Or.inl ⟨rfl, here ▸ same, ?_⟩)⟩
      exact fun later inRest equal => further ⟨later, inRest, equal⟩

/-! ### One statement after the other -/

namespace Query

variable {resources filtered result : Resources}

/-- The entries with what a statement has made, if it has made something. -/
def put (filtered : Resources) (id : ResourceId) : Option Resource → Resources
  | none => filtered
  | some kept => filtered.insert id kept

theorem find?_put (filtered : Resources) (id key : ResourceId) (made : Option Resource) :
    (put filtered id made).find? key =
      if id = key then made.or (filtered.find? key) else filtered.find? key := by
  cases made with
  | none => exact (ite_self _).symm
  | some kept => exact Dictionary.find?_insert filtered id key kept

/-- A statement that can be applied adds what it makes, and is logged in front of the others. -/
theorem filterFrom_cons [LibraryReports] {statement : Statement} {made : Option Resource}
    (done : statement.filterEntry (resources.find? statement.id) = .ok made)
    (rest : List Statement) (filtered : Resources) :
    filterFrom resources (statement :: rest) filtered =
      (filterFrom resources rest (put filtered statement.id made)).after statement.filteredLog := by
  rw [filterFrom]
  dsimp only
  rw [done]
  cases made <;> rfl

/-- A statement that cannot be applied ends the query, and only its failure is logged. -/
theorem filterFrom_cons_failure [LibraryReports] {statement : Statement} {cause : Fault}
    (failed : statement.filterEntry (resources.find? statement.id) = .error cause)
    (rest : List Statement) (filtered : Resources) :
    filterFrom resources (statement :: rest) filtered =
      ⟨.error (statement.failure resources cause), (statement.failure resources cause).log⟩ := by
  rw [filterFrom]
  dsimp only
  rw [failed]
  rfl

theorem filterFrom_cons_of_ok [LibraryReports] {statement : Statement} {made : Option Resource}
    (done : statement.filterEntry (resources.find? statement.id) = .ok made)
    (rest : List Statement) (filtered : Resources) :
    (filterFrom resources (statement :: rest) filtered).value =
      (filterFrom resources rest (put filtered statement.id made)).value := by
  rw [filterFrom_cons done]
  rfl

theorem filterFrom_cons_of_error [LibraryReports] {statement : Statement} {cause : Fault}
    (failed : statement.filterEntry (resources.find? statement.id) = .error cause)
    (rest : List Statement) (filtered : Resources) :
    (filterFrom resources (statement :: rest) filtered).value =
      .error (statement.failure resources cause) := by
  rw [filterFrom_cons_failure failed]

theorem filterFrom_cons_eq_ok [LibraryReports] {statement : Statement} {rest : List Statement}
    (done : (filterFrom resources (statement :: rest) filtered).value = .ok result) :
    ∃ made, statement.filterEntry (resources.find? statement.id) = .ok made ∧
      (filterFrom resources rest (put filtered statement.id made)).value = .ok result := by
  cases outcome : statement.filterEntry (resources.find? statement.id) with
  | error cause =>
    rw [filterFrom_cons_of_error outcome] at done
    cases done
  | ok made =>
    rw [filterFrom_cons_of_ok outcome] at done
    exact ⟨made, rfl, done⟩

/-- The statements can be filtered exactly where each of them can be applied to its own entry. -/
theorem exists_filterFrom_iff [LibraryReports] {statements : List Statement} :
    (∃ result, (filterFrom resources statements filtered).value = .ok result) ↔
      ∀ statement ∈ statements, statement.AppliesTo (resources.find? statement.id) := by
  induction statements generalizing filtered with
  | nil => exact iff_of_true ⟨filtered, rfl⟩ fun _ inside => nomatch inside
  | cons statement rest inductionHypothesis =>
    rw [List.forall_mem_cons, ← Statement.exists_filterEntry_iff]
    constructor
    · rintro ⟨result, done⟩
      obtain ⟨made, first, remaining⟩ := filterFrom_cons_eq_ok done
      exact ⟨⟨made, first⟩, inductionHypothesis.mp ⟨result, remaining⟩⟩
    · rintro ⟨⟨made, first⟩, further⟩
      rw [filterFrom_cons_of_ok first]
      exact inductionHypothesis.mpr further

/-- The failure of a query is that of the first statement that cannot be applied. -/
theorem failsOn_of_filterFrom [LibraryReports]
    {statements : List Statement} {failure : FilterFailure}
    (failed : (filterFrom resources statements filtered).value = .error failure) :
    ∃ before statement after, statements = before ++ statement :: after ∧
      (∀ earlier ∈ before, earlier.AppliesTo (resources.find? earlier.id)) ∧
      ¬ statement.AppliesTo (resources.find? statement.id) ∧
      ∃ cause, statement.FailsOn (resources.find? statement.id) cause ∧
        failure = statement.failure resources cause := by
  induction statements generalizing filtered with
  | nil => cases failed
  | cons statement rest inductionHypothesis =>
    cases outcome : statement.filterEntry (resources.find? statement.id) with
    | error cause =>
      rw [filterFrom_cons_of_error outcome] at failed
      refine ⟨[], statement, rest, rfl, fun _ inside => (nomatch inside), fun applies => ?_, cause,
        Statement.failsOn_of_filterEntry outcome, (Except.error.inj failed).symm⟩
      obtain ⟨made, done⟩ := Statement.exists_filterEntry_iff.mpr applies
      cases outcome.symm.trans done
    | ok made =>
      rw [filterFrom_cons_of_ok outcome] at failed
      obtain ⟨before, own, after, rfl, sound, fails⟩ := inductionHypothesis failed
      refine ⟨statement :: before, own, after, rfl, List.forall_mem_cons.mpr ⟨?_, sound⟩, fails⟩
      exact Statement.exists_filterEntry_iff.mp ⟨made, outcome⟩

/-- The first statement that fails ends the query in its failure. -/
theorem filterFrom_append_of_error [LibraryReports] {before : List Statement}
    {statement : Statement} {cause : Fault}
    (sound : ∀ earlier ∈ before, earlier.AppliesTo (resources.find? earlier.id))
    (failed : statement.filterEntry (resources.find? statement.id) = .error cause)
    (after : List Statement) (filtered : Resources) :
    (filterFrom resources (before ++ statement :: after) filtered).value =
      .error (statement.failure resources cause) := by
  induction before generalizing filtered with
  | nil => exact filterFrom_cons_of_error failed after filtered
  | cons earlier rest inductionHypothesis =>
    obtain ⟨applies, further⟩ := List.forall_mem_cons.mp sound
    obtain ⟨made, done⟩ := Statement.exists_filterEntry_iff.mpr applies
    rw [List.cons_append, filterFrom_cons_of_ok done]
    exact inductionHypothesis further _

/-- Statements of other identities do not touch an entry, and without an entry nothing is made. -/
theorem find?_filterFrom_other [LibraryReports] {statements : List Statement} {id : ResourceId}
    (done : (filterFrom resources statements filtered).value = .ok result)
    (other : ∀ statement ∈ statements, statement.id = id → resources.find? id = none) :
    result.find? id = filtered.find? id := by
  induction statements generalizing filtered with
  | nil => rw [Except.ok.inj done]
  | cons statement rest inductionHypothesis =>
    obtain ⟨here, further⟩ := List.forall_mem_cons.mp other
    obtain ⟨made, first, remaining⟩ := filterFrom_cons_eq_ok done
    rw [inductionHypothesis remaining further, find?_put]
    by_cases same : statement.id = id
    · rw [same, here same, Statement.filterEntry_none_eq_ok_iff] at first
      rw [if_pos same, first.2, Option.none_or]
    · rw [if_neg same]

/-- The last statement of an identity decides its entry, from the entry that was stored. -/
theorem find?_filterFrom_last [LibraryReports] {statements : List Statement} {id : ResourceId}
    {last : Statement} {entry : Resource} (isLast : LastOf statements id last)
    (found : resources.find? id = some entry)
    (done : (filterFrom resources statements filtered).value = .ok result) :
    ∃ kept, result.find? id = some kept ∧ last.Makes entry kept := by
  induction statements generalizing filtered with
  | nil => cases isLast.mem
  | cons statement rest inductionHypothesis =>
    obtain ⟨made, first, remaining⟩ := filterFrom_cons_eq_ok done
    rcases lastOf_cons_iff.mp isLast with ⟨rfl, same, absent⟩ | inRest
    · rw [same, found, Statement.filterEntry_some_eq_ok_iff] at first
      obtain ⟨kept, rfl, makes⟩ := first
      refine ⟨kept, ?_, makes⟩
      -- nothing behind the last one writes over what it makes
      have kept := find?_filterFrom_other remaining
        fun later inside equal => absurd equal (absent later inside)
      rw [kept, find?_put, if_pos same, Option.some_or]
    · exact inductionHypothesis inRest remaining

/-! ### Whole queries -/

/-- The query can be filtered exactly where each statement can be applied to its own entry. -/
theorem exists_applyFilters_iff [LibraryReports] {query : Query} :
    (∃ filtered, (query.applyFilters resources).value = .ok filtered) ↔
      ∀ statement ∈ query.statements, statement.AppliesTo (resources.find? statement.id) :=
  exists_filterFrom_iff

/-- An entry of the filtered results is what the last statement of its identity makes of the entry
that was stored. -/
theorem find?_applyFilters_iff [LibraryReports] {query : Query}
    (done : (query.applyFilters resources).value = .ok filtered) {id : ResourceId}
    {kept : Resource} :
    filtered.find? id = some kept ↔
      ∃ last entry, LastOf query.statements id last ∧ resources.find? id = some entry ∧
        last.Makes entry kept := by
  constructor
  · intro here
    by_cases other : ∀ statement ∈ query.statements, statement.id = id → resources.find? id = none
    · cases here.symm.trans (find?_filterFrom_other done other)
    · push Not at other
      obtain ⟨statement, inside, same, stored⟩ := other
      obtain ⟨entry, found⟩ := Option.ne_none_iff_exists'.mp stored
      obtain ⟨last, isLast⟩ := exists_lastOf ⟨statement, inside, same⟩
      obtain ⟨made, there, makes⟩ := find?_filterFrom_last isLast found done
      obtain rfl : made = kept := Option.some.inj (there.symm.trans here)
      exact ⟨last, entry, isLast, found, makes⟩
  · rintro ⟨last, entry, isLast, found, makes⟩
    obtain ⟨made, there, madeSo⟩ := find?_filterFrom_last isLast found done
    rw [there, madeSo.unique makes]

/-- The filtered results hold an entry for an identity exactly where some statement has it and an
entry was stored. -/
theorem isSome_find?_applyFilters_iff [LibraryReports] {query : Query}
    (done : (query.applyFilters resources).value = .ok filtered) {id : ResourceId} :
    (filtered.find? id).isSome ↔
      (∃ statement ∈ query.statements, statement.id = id) ∧ (resources.find? id).isSome := by
  simp only [Option.isSome_iff_exists]
  constructor
  · rintro ⟨kept, here⟩
    obtain ⟨last, entry, isLast, found, -⟩ := (find?_applyFilters_iff done).mp here
    exact ⟨⟨last, isLast.mem, isLast.id_eq⟩, entry, found⟩
  · rintro ⟨present, entry, found⟩
    obtain ⟨last, isLast⟩ := exists_lastOf present
    obtain ⟨kept, here, -⟩ := find?_filterFrom_last isLast found done
    exact ⟨kept, here⟩

/-- What filtering the results of a query means. It succeeds exactly where every statement can be
applied to its own entry; then it holds an entry for every identity that has a statement and a
stored entry, and what the last such statement makes of the stored entry. Otherwise it ends in the
failure of the first statement that cannot be applied, with its stored entry and the first fault. -/
theorem applyFilters_meaning [LibraryReports] (query : Query) (resources : Resources) :
    ((∃ filtered, (query.applyFilters resources).value = .ok filtered) ↔
      ∀ statement ∈ query.statements, statement.AppliesTo (resources.find? statement.id)) ∧
    match (query.applyFilters resources).value with
    | .ok filtered =>
      ∀ id,
        ((filtered.find? id).isSome ↔
          (∃ statement ∈ query.statements, statement.id = id) ∧ (resources.find? id).isSome) ∧
        ∀ kept, filtered.find? id = some kept ↔
          ∃ last entry, LastOf query.statements id last ∧ resources.find? id = some entry ∧
            last.Makes entry kept
    | .error failure =>
      ∃ before statement after, query.statements = before ++ statement :: after ∧
        (∀ earlier ∈ before, earlier.AppliesTo (resources.find? earlier.id)) ∧
        ¬ statement.AppliesTo (resources.find? statement.id) ∧
        ∃ cause, statement.FailsOn (resources.find? statement.id) cause ∧
          failure = ⟨statement.id, statement, resources.find? statement.id, cause⟩ := by
  refine ⟨exists_applyFilters_iff, ?_⟩
  cases outcome : (query.applyFilters resources).value with
  | ok filtered =>
    exact fun id => ⟨isSome_find?_applyFilters_iff outcome, fun _ => find?_applyFilters_iff outcome⟩
  | error failure => exact failsOn_of_filterFrom outcome

end Query

end Gateway
