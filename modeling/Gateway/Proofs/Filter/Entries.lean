/-
This file lifts the facts about one body to the entries of a query. An entry is a record, a
statement that was not answered, or a list of entries to any depth, and a tree is applied to each of
its records alone. So filtering keeps the shape of an entry and the details of every record, ends in
the first fault among the records and the unanswered statements from left to right, and filtering
again changes nothing.
-/

import Gateway.Filter.Results
import Gateway.Proofs.Filter.Containment
import Gateway.Proofs.Filter.Repetition
import Gateway.Proofs.Json.Reading

namespace Gateway

/-! ### The ends of an entry -/

/-- An end of an entry: a record, or a statement that was not answered. -/
inductive ResourceEnd
  | record (result : Record)
  | unanswered (statement : Statement)

/-- Why a tree cannot be applied to the end of an entry, if it cannot. -/
def ResourceEnd.fault? (tree : FilterTree) : ResourceEnd → Option Fault
  | .record result => tree.fault? result.body.content
  | .unanswered statement => some (.unknownShape (.pending statement))

namespace Resource

/-- What holds of records and of unanswered statements, and of a list of entries whenever it holds
of each of them, holds of every entry. -/
theorem induction {motive : Resource → Prop} (done : ∀ result, motive (.done result))
    (multiplexed : ∀ items, (∀ item ∈ items, motive item) → motive (.multiplexed items))
    (pending : ∀ statement, motive (.pending statement)) (resource : Resource) :
    motive resource :=
  Resource.rec (motive_1 := motive) (motive_2 := fun items => ∀ item ∈ items, motive item)
    done multiplexed pending (fun _ inside => nomatch inside)
    (fun _ _ head tail => List.forall_mem_cons.mpr ⟨head, tail⟩) resource

/-- The ends of the entry, from left to right. -/
def ends : Resource → List ResourceEnd
  | .done result => [.record result]
  | .multiplexed items => itemEnds items
  | .pending statement => [.unanswered statement]
where
  itemEnds : List Resource → List ResourceEnd
    | [] => []
    | item :: rest => item.ends ++ itemEnds rest

theorem ends_multiplexed (items : List Resource) :
    (multiplexed items).ends = items.flatMap ends := by
  rw [ends]
  induction items with
  | nil => rfl
  | cons item rest inductionHypothesis =>
    rw [ends.itemEnds, List.flatMap_cons, inductionHypothesis]

theorem mem_ends_multiplexed_iff {part : ResourceEnd} {items : List Resource} :
    part ∈ (multiplexed items).ends ↔ ∃ item ∈ items, part ∈ item.ends := by
  rw [ends_multiplexed, List.mem_flatMap]

/-- What holds of the ends of a list of entries is what holds of those of each of them. -/
theorem forall_mem_ends_multiplexed_iff {holds : ResourceEnd → Prop} {items : List Resource} :
    (∀ part ∈ (multiplexed items).ends, holds part) ↔
      ∀ item ∈ items, ∀ part ∈ item.ends, holds part := by
  rw [ends_multiplexed, List.forall_mem_flatMap]

/-- The first fault that the tree meets in the entry, from left to right. -/
def fault? (tree : FilterTree) (resource : Resource) : Option Fault :=
  resource.ends.findSome? (ResourceEnd.fault? tree)

/-- The body of every record in the entry is well-formed. -/
def WellFormed (resource : Resource) : Prop :=
  ∀ result, .record result ∈ resource.ends → result.body.WellFormed

theorem wellFormed_done_iff {result : Record} :
    (done result).WellFormed ↔ result.body.WellFormed := by
  refine ⟨fun wellFormed => wellFormed result List.mem_cons_self, fun wellFormed own isEnd => ?_⟩
  obtain rfl : own = result := ResourceEnd.record.inj (List.mem_singleton.mp isEnd)
  exact wellFormed

theorem wellFormed_multiplexed_iff {items : List Resource} :
    (multiplexed items).WellFormed ↔ ∀ item ∈ items, item.WellFormed := by
  simp only [WellFormed, mem_ends_multiplexed_iff]
  exact ⟨fun wellFormed item inside result isEnd => wellFormed result ⟨item, inside, isEnd⟩,
    fun wellFormed result ⟨item, inside, isEnd⟩ => wellFormed item inside result isEnd⟩

end Resource

/-- What holds of every stored entry and of one more holds when that one is stored too. -/
theorem Resources.forall_find?_insert {resources : Resources} {holds : Resource → Prop}
    (each : ∀ id entry, resources.find? id = some entry → holds entry) {id : ResourceId}
    {entry : Resource} (added : holds entry) :
    ∀ key found, (resources.insert id entry).find? key = some found → holds found := by
  intro key found here
  rw [Dictionary.find?_insert] at here
  split at here
  · exact Option.some.inj here ▸ added
  · exact each key found here

/-- The body of every stored record is well-formed. -/
def Resources.WellFormed (resources : Resources) : Prop :=
  ∀ id entry, resources.find? id = some entry → entry.WellFormed

theorem Resources.wellFormed_empty : Resources.WellFormed Dictionary.empty :=
  fun _ _ found => nomatch found

theorem Resources.WellFormed.insert {resources : Resources} (wellFormed : resources.WellFormed)
    {id : ResourceId} {entry : Resource} (added : entry.WellFormed) :
    Resources.WellFormed (resources.insert id entry) :=
  Resources.forall_find?_insert wellFormed added

/-! ### What becomes of an entry -/

namespace Resource

theorem filter_done_eq_ok_iff {tree : FilterTree} {result : Record} {kept : Resource} :
    (done result).filter tree = .ok kept ↔
      ∃ left, kept = .done { result with body := .value left } ∧
        tree.project result.body.content = .ok left := by
  rw [filter]
  exact map_eq_ok_iff

theorem filterItems_eq_mapM (tree : FilterTree) (items : List Resource) :
    filter.filterItems tree items = items.mapM (filter tree) := by
  induction items with
  | nil => rfl
  | cons item rest inductionHypothesis =>
    rw [filter.filterItems, List.mapM_cons, inductionHypothesis]
    cases filter tree item <;> rfl

theorem filter_multiplexed_eq_ok_iff {tree : FilterTree} {items : List Resource}
    {kept : Resource} :
    (multiplexed items).filter tree = .ok kept ↔
      ∃ left, kept = .multiplexed left ∧
        List.Forall₂ (fun item itemKept => item.filter tree = .ok itemKept) items left := by
  rw [filter]
  simp only [map_eq_ok_iff, filterItems_eq_mapM, mapM_eq_ok_iff]

/-- Filtering an entry ends in the first fault in it, from left to right. -/
theorem of?_filter (tree : FilterTree) (resource : Resource) :
    Fault.of? (resource.filter tree) = resource.fault? tree := by
  induction resource using Resource.induction with
  | done result =>
    rw [filter, Fault.of?_map, FilterTree.of?_project]
    exact List.findSome?_singleton.symm
  | multiplexed items inductionHypothesis =>
    rw [filter, Fault.of?_map, filterItems_eq_mapM, Fault.of?_mapM, fault?, ends_multiplexed,
      findSome?_flatMap]
    exact findSome?_congr inductionHypothesis
  | pending statement => rfl

theorem exists_filter_iff {tree : FilterTree} {resource : Resource} :
    (∃ kept, resource.filter tree = .ok kept) ↔
      ∀ part ∈ resource.ends, part.fault? tree = none := by
  rw [← Fault.of?_eq_none_iff, of?_filter, fault?, List.findSome?_eq_none_iff]

theorem exists_filter_multiplexed_iff {tree : FilterTree} {items : List Resource} :
    (∃ kept, (multiplexed items).filter tree = .ok kept) ↔
      ∀ item ∈ items, ∃ kept, item.filter tree = .ok kept := by
  simp only [exists_filter_iff, forall_mem_ends_multiplexed_iff]

end Resource

/-! ### What is left of an entry -/

/-- The first record is the second with some of its body left out. -/
structure Record.LeftOf (kept source : Record) : Prop where
  details : kept.details = source.details
  body : kept.body.content.Within source.body.content

namespace Resource

/-- The entries have one shape, and each record of the first is left of the one in its place. -/
inductive LeftOf : Resource → Resource → Prop
  | done {kept source : Record} (record : kept.LeftOf source) : LeftOf (.done kept) (.done source)
  | multiplexed {kept source : List Resource} (each : List.Forall₂ LeftOf kept source) :
    LeftOf (.multiplexed kept) (.multiplexed source)
  | pending (statement : Statement) : LeftOf (.pending statement) (.pending statement)

theorem leftOf_refl (resource : Resource) : resource.LeftOf resource := by
  induction resource using Resource.induction with
  | done result => exact .done ⟨rfl, .refl _⟩
  | multiplexed items inductionHypothesis =>
    exact .multiplexed (List.forall₂_same.mpr inductionHypothesis)
  | pending statement => exact .pending statement

/-- Filtering leaves an entry in its shape, and a record with its details and some of its body. -/
theorem filter_leftOf {tree : FilterTree} {source kept : Resource} (wellFormed : source.WellFormed)
    (done : source.filter tree = .ok kept) : kept.LeftOf source := by
  induction source using Resource.induction generalizing kept with
  | done result =>
    obtain ⟨left, rfl, projected⟩ := filter_done_eq_ok_iff.mp done
    have wellFormedContent := (wellFormed_done_iff.mp wellFormed).content
    exact .done ⟨rfl, FilterTree.project_within wellFormedContent projected⟩
  | multiplexed items inductionHypothesis =>
    obtain ⟨left, rfl, each⟩ := filter_multiplexed_eq_ok_iff.mp done
    exact .multiplexed (forall₂_flip_of_mem (fun item inside itemKept =>
      inductionHypothesis item inside (wellFormed_multiplexed_iff.mp wellFormed item inside)) each)
  | pending statement => cases done

/-- A tree that can be applied to an entry can be applied to what is left of it. -/
theorem exists_filter_of_leftOf {tree : FilterTree} {kept source : Resource}
    (left : kept.LeftOf source) (done : ∃ result, source.filter tree = .ok result) :
    ∃ result, kept.filter tree = .ok result := by
  induction kept using Resource.induction generalizing source with
  | done result =>
    cases left with
    | done record =>
      obtain ⟨filtered, done⟩ := done
      obtain ⟨projection, -, projected⟩ := filter_done_eq_ok_iff.mp done
      obtain ⟨again, projectedAgain⟩ :=
        FilterTree.exists_project_of_within record.body ⟨projection, projected⟩
      exact ⟨_, filter_done_eq_ok_iff.mpr ⟨again, rfl, projectedAgain⟩⟩
  | multiplexed items inductionHypothesis =>
    cases left with
    | multiplexed each =>
      rw [exists_filter_multiplexed_iff] at done ⊢
      intro item inside
      obtain ⟨original, isOriginal, itemLeft⟩ := exists_mem_of_forall₂ each inside
      exact inductionHypothesis item inside itemLeft (done original isOriginal)
  | pending statement =>
    cases left with
    | pending => exact done

/-- What filtering has left of an entry it leaves again. -/
theorem filter_again {tree : FilterTree} {source kept : Resource} (wellFormed : source.WellFormed)
    (done : source.filter tree = .ok kept) : kept.filter tree = .ok kept := by
  induction source using Resource.induction generalizing kept with
  | done result =>
    obtain ⟨left, rfl, projected⟩ := filter_done_eq_ok_iff.mp done
    have wellFormedContent := (wellFormed_done_iff.mp wellFormed).content
    exact filter_done_eq_ok_iff.mpr
      ⟨left, rfl, FilterTree.project_again tree wellFormedContent projected⟩
  | multiplexed items inductionHypothesis =>
    obtain ⟨left, rfl, each⟩ := filter_multiplexed_eq_ok_iff.mp done
    refine filter_multiplexed_eq_ok_iff.mpr ⟨left, rfl, ?_⟩
    exact forall₂_again (fun item inside itemKept =>
      inductionHypothesis item inside (wellFormed_multiplexed_iff.mp wellFormed item inside)) each
  | pending statement => cases done

end Resource

end Gateway
