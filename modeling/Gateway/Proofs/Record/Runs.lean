/-
This file follows stored results through runs of any length. A run starts from nothing; in each step
it stores the record of a call, alone or in a list, filters all entries or one of them, or hides
some. Callers rely on three facts about a record when they cache it or let it fail a query: success
is of statuses of success only, a call that failed with such a status says nothing about caching,
and what must not be cached has no age. The facts hold of every record that a call ends in, and
since filtering and hiding do not touch the details of records, they hold wherever a run can come
to. A run never stores a statement without an answer, so none is ever met in filtering either.
-/

import Gateway.Proofs.Filter.Hiding
import Gateway.Proofs.Record.Caching

namespace Gateway

/-! ### Sound details -/

/-- What callers rely on in the details of a record. -/
structure Details.Sound (details : Details) : Prop where
  status_of_success : details.success = true → 200 ≤ details.status ∧ details.status < 400
  /-- A failure behind a status of success says nothing about caching. -/
  silent : 200 ≤ details.status → details.status < 400 → details.success = false →
    details.cachePolicy = {}
  ageless : details.cachePolicy.noCache = true →
    details.cachePolicy.maxAge = none ∧ details.cachePolicy.sharedMaxAge = none

theorem Details.sound_of_failed {details : Details} (failed : details.success = false)
    (silent : details.cachePolicy = {}) : details.Sound where
  status_of_success success := nomatch failed.symm.trans success
  silent _ _ _ := silent
  ageless noCache := by
    rw [silent] at noCache
    cases noCache

/-- How a call ends, with all that its record is made of. -/
inductive CallEnd
  | answered (request : Request) (response : Response) (options : CallOptions)
  | failed (reason : String) (request : Request) (response : Response) (options : CallOptions)
  | skipped (missing : List String) (options : CallOptions)

namespace CallEnd

/-- The record of the call. -/
def record : CallEnd → Record
  | .answered request response options => (Record.ofResponse request response options).value
  | .failed reason request response options =>
    (Record.ofFailure reason request response options).value
  | .skipped missing options => (Record.ofSkipped missing options).value

/-- Every record that a call ends in has sound details. -/
theorem sound_record (call : CallEnd) : call.record.details.Sound := by
  cases call with
  | answered request response options =>
    have settled := CachePolicy.settled_merge (response.header Record.cacheControlHeader)
      (options.maxAge.bind Json.asInt64?) (options.sharedMaxAge.bind Json.asInt64?)
    exact {
      status_of_success := isSuccess_iff.mp
      silent := fun least most failed =>
        nomatch failed.symm.trans (isSuccess_iff.mpr ⟨least, most⟩)
      ageless := settled.ageless }
  | failed reason request response options => exact Details.sound_of_failed rfl rfl
  | skipped missing options => exact Details.sound_of_failed rfl rfl

end CallEnd

/-! ### Sound entries -/

/-- The end is a record with sound details, and not a statement without an answer. -/
def ResourceEnd.Sound : ResourceEnd → Prop
  | .record result => result.details.Sound
  | .unanswered _ => False

namespace Resource

/-- Every end of the entry, at any depth, is sound. -/
def Sound (entry : Resource) : Prop :=
  ∀ part ∈ entry.ends, part.Sound

theorem sound_done_iff {result : Record} : (done result).Sound ↔ result.details.Sound :=
  List.forall_mem_singleton

theorem sound_multiplexed_iff {items : List Resource} :
    (multiplexed items).Sound ↔ ∀ item ∈ items, item.Sound :=
  forall_mem_ends_multiplexed_iff

theorem sound_call (call : CallEnd) : (done call.record).Sound :=
  sound_done_iff.mpr call.sound_record

/-- Filtering does not touch the details of records. -/
theorem Sound.filter {tree : FilterTree} {source kept : Resource} (sound : source.Sound)
    (done : source.filter tree = .ok kept) : kept.Sound := by
  induction source using Resource.induction generalizing kept with
  | done result =>
    obtain ⟨left, rfl, -⟩ := filter_done_eq_ok_iff.mp done
    have details : result.details.Sound := sound_done_iff.mp sound
    exact sound_done_iff.mpr details
  | multiplexed items inductionHypothesis =>
    obtain ⟨left, rfl, each⟩ := filter_multiplexed_eq_ok_iff.mp done
    refine sound_multiplexed_iff.mpr fun itemKept inLeft => ?_
    obtain ⟨item, inside, itemDone⟩ := exists_mem_of_forall₂ each.flip inLeft
    exact inductionHypothesis item inside (sound_multiplexed_iff.mp sound item inside) itemDone
  | pending statement => cases done

theorem Sound.makes {statement : Statement} {entry kept : Resource} (sound : entry.Sound)
    (makes : statement.Makes entry kept) : kept.Sound := by
  cases makes with
  | whole => exact sound
  | filtered _ _ done => exact sound.filter done

/-- In a sound entry filtering meets no shape that it does not know. -/
theorem Sound.fault?_ne_unknownShape {entry : Resource} (sound : entry.Sound) {tree : FilterTree}
    {fault : Fault} (met : entry.fault? tree = some fault) (other : Resource) :
    fault ≠ .unknownShape other := by
  obtain ⟨part, isEnd, faulty⟩ := List.exists_of_findSome?_eq_some met
  cases part with
  | record result =>
    obtain ⟨source, rfl⟩ := FilterTree.exists_source_of_fault? faulty
    exact Fault.noConfusion
  | unanswered statement => exact (sound _ isEnd).elim

/-- The items of an entry; one that is no list is its own only item. -/
def items : Resource → List Resource
  | .multiplexed items => items
  | entry => [entry]

/-- The entry with one more record behind its items. A place that is not empty leads on into the
item at its first position, or into a new list behind the last item where there is none. -/
def append (record : Record) : List Nat → Resource → Resource
  | [], entry => .multiplexed (entry.items ++ [.done record])
  | position :: place, entry =>
    let item := entry.items[position]?.getD (.multiplexed [])
    .multiplexed
      (entry.items.take position ++ append record place item :: entry.items.drop (position + 1))

theorem sound_nil : (multiplexed []).Sound :=
  sound_multiplexed_iff.mpr fun _ inside => nomatch inside

theorem Sound.items {entry : Resource} (sound : entry.Sound) :
    ∀ item ∈ entry.items, item.Sound := by
  cases entry with
  | done result => exact List.forall_mem_singleton.mpr sound
  | multiplexed items => exact sound_multiplexed_iff.mp sound
  | pending statement => exact List.forall_mem_singleton.mpr sound

theorem Sound.append {entry : Resource} (sound : entry.Sound) (call : CallEnd)
    (place : List Nat) : (entry.append call.record place).Sound := by
  induction place generalizing entry with
  | nil =>
    refine sound_multiplexed_iff.mpr (List.forall_mem_append.mpr ⟨sound.items, ?_⟩)
    exact List.forall_mem_singleton.mpr (sound_call call)
  | cons position place inductionHypothesis =>
    have item : (entry.items[position]?.getD (.multiplexed [])).Sound := by
      cases found : entry.items[position]? with
      | none => exact sound_nil
      | some item => exact sound.items item (List.mem_of_getElem? found)
    refine sound_multiplexed_iff.mpr (List.forall_mem_append.mpr ⟨fun other inside => ?_, ?_⟩)
    · exact sound.items other (List.mem_of_mem_take inside)
    · refine List.forall_mem_cons.mpr ⟨inductionHypothesis item, fun other inside => ?_⟩
      exact sound.items other (List.mem_of_mem_drop inside)

end Resource

/-! ### Runs -/

/-- A step of a run. -/
inductive Action
  /-- A call ends, and its record is stored alone, in place of what was there. -/
  | store (id : ResourceId) (call : CallEnd)
  /-- A call ends, and its record joins a list at the place. -/
  | append (id : ResourceId) (place : List Nat) (call : CallEnd)
  | applyFilters (query : Query)
  | applyHidden (query : Query)
  | filterEntry (id : ResourceId) (tree : FilterTree)

namespace Resources

/-- Every stored entry is sound. -/
def Sound (resources : Resources) : Prop :=
  ∀ id entry, resources.find? id = some entry → entry.Sound

/-- The results after the step. One that fails leaves them as they are. -/
def perform [LibraryReports] (resources : Resources) : Action → Resources
  | .store id call => resources.insert id (.done call.record)
  | .append id place call =>
    let entry := (resources.find? id).getD (.multiplexed [])
    resources.insert id (entry.append call.record place)
  | .applyFilters query =>
    match (query.applyFilters resources).value with
    | .ok filtered => filtered
    | .error _ => resources
  | .applyHidden query => (query.applyHidden resources).value
  | .filterEntry id tree =>
    match (resources.find? id).map (Resource.filter tree) with
    | some (.ok kept) => resources.insert id kept
    | _ => resources

/-- The results after the steps, one after the other, from none at all. -/
def after [LibraryReports] (actions : List Action) : Resources :=
  actions.foldl perform Dictionary.empty

variable {resources : Resources}

theorem sound_empty : Sound Dictionary.empty :=
  fun _ _ found => nomatch found

theorem Sound.insert (sound : resources.Sound) {id : ResourceId} {entry : Resource}
    (added : entry.Sound) : Sound (resources.insert id entry) :=
  forall_find?_insert sound added

theorem Sound.applyFilters [LibraryReports] (sound : resources.Sound) {query : Query}
    {filtered : Resources} (done : (query.applyFilters resources).value = .ok filtered) :
    filtered.Sound := by
  intro id kept here
  obtain ⟨last, entry, -, found, makes⟩ := (Query.find?_applyFilters_iff done).mp here
  exact (sound id entry found).makes makes

theorem Sound.applyHidden (sound : resources.Sound) (query : Query) :
    Sound (query.applyHidden resources).value :=
  fun id entry here => sound id entry (Query.find?_visibleResults_iff.mp here).2

/-- A step keeps every stored entry sound. -/
theorem Sound.perform [LibraryReports] (sound : resources.Sound) (action : Action) :
    (resources.perform action).Sound := by
  cases action with
  | store id call => exact sound.insert (Resource.sound_call call)
  | append id place call =>
    have entry : ((resources.find? id).getD (.multiplexed [])).Sound := by
      cases found : resources.find? id with
      | none => exact Resource.sound_nil
      | some entry => exact sound id entry found
    exact sound.insert (entry.append call place)
  | applyFilters query =>
    rw [Resources.perform]
    cases outcome : (query.applyFilters resources).value with
    | ok filtered => exact sound.applyFilters outcome
    | error failure => exact sound
  | applyHidden query => exact sound.applyHidden query
  | filterEntry id tree =>
    rw [Resources.perform]
    split
    · next kept outcome =>
      obtain ⟨entry, found, done⟩ := Option.map_eq_some_iff.mp outcome
      exact sound.insert ((sound id entry found).filter done)
    · exact sound

theorem Sound.foldl [LibraryReports] (sound : resources.Sound) (actions : List Action) :
    Sound (actions.foldl Resources.perform resources) := by
  induction actions generalizing resources with
  | nil => exact sound
  | cons action rest inductionHypothesis => exact inductionHypothesis (sound.perform action)

/-- Filtering sound results never ends in a shape that it does not know. -/
theorem Sound.cause_ne_unknownShape [LibraryReports] (sound : resources.Sound) {query : Query}
    {failure : FilterFailure} (failed : (query.applyFilters resources).value = .error failure)
    (other : Resource) : failure.cause ≠ .unknownShape other := by
  obtain ⟨-, statement, -, -, -, -, cause, fails, rfl⟩ := Query.failsOn_of_filterFrom failed
  show cause ≠ .unknownShape other
  cases found : resources.find? statement.id with
  | none =>
    rw [found] at fails
    cases fails with
    | missing => exact Fault.noConfusion
  | some entry =>
    rw [found] at fails
    cases fails with
    | target => exact Fault.noConfusion
    | entry _ _ met => exact (sound statement.id entry found).fault?_ne_unknownShape met other

/-- Wherever a run comes to, every record at any depth has sound details, there is no statement
without an answer, and filtering does not end in a shape that it does not know. -/
theorem sound_after [LibraryReports] (actions : List Action) :
    (∀ id entry, (after actions).find? id = some entry → ∀ part ∈ entry.ends,
      ∃ result, part = .record result ∧ result.details.Sound) ∧
    ∀ query failure, (Query.applyFilters query (after actions)).value = .error failure →
      ∀ other, failure.cause ≠ .unknownShape other := by
  have sound : Sound (after actions) := sound_empty.foldl actions
  refine ⟨fun id entry found part isEnd => ?_, fun _ _ failed => sound.cause_ne_unknownShape failed⟩
  cases part with
  | record result => exact ⟨result, rfl, sound id entry found _ isEnd⟩
  | unanswered statement => exact (sound id entry found _ isEnd).elim

end Resources

end Gateway
