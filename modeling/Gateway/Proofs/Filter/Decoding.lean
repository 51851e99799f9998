/-
This file proves that it cannot be observed when the octets of a body are read. A query is filtered
step by step on the results as they arrived and on the same results once read. Each statement makes
entries of which the second is the first once read, or both runs end in the same fault; what is
shown and written of two such entries is the same.
-/

import Gateway.Proofs.Filter.Hiding
import Gateway.Proofs.Resource.Decoded

namespace Gateway

/-! ### Dictionaries -/

namespace Dictionary

variable {α β : Type}

/-- The dictionary with every value replaced by what is built of it. -/
def map (build : α → β) (dictionary : Dictionary α) : Dictionary β :=
  ⟨dictionary.entries.map fun entry => (entry.1, build entry.2), by
    rw [List.map_map]
    exact dictionary.ascending⟩

theorem valueAt?_map (build : α → β) (entries : List (String × α)) (name : String) :
    valueAt? name (entries.map fun entry => (entry.1, build entry.2)) =
      (valueAt? name entries).map build := by
  induction entries with
  | nil => rfl
  | cons entry rest inductionHypothesis =>
    rw [List.map_cons, valueAt?, valueAt?, inductionHypothesis, apply_ite (Option.map build)]
    rfl

theorem find?_map (build : α → β) (dictionary : Dictionary α) (name : String) :
    (dictionary.map build).find? name = (dictionary.find? name).map build :=
  valueAt?_map build dictionary.entries name

theorem map_insert (build : α → β) (dictionary : Dictionary α) (name : String) (value : α) :
    (dictionary.insert name value).map build =
      (dictionary.map build).insert name (build value) := by
  refine ext_find? fun key => ?_
  rw [find?_map, find?_insert, find?_insert, find?_map, apply_ite (Option.map build),
    Option.map_some]

end Dictionary

/-- The results with every body in them read. -/
def Resources.decoded (resources : Resources) : Resources :=
  resources.map Resource.decoded

/-! ### Filtering and hiding -/

/-- What a statement makes of an entry that was read is, once read, what it makes of the entry. -/
theorem Statement.filterEntry_decoded (statement : Statement) (entry : Option Resource) :
    statement.filterEntry (entry.map Resource.decoded) =
      (statement.filterEntry entry).map (Option.map Resource.decoded) := by
  by_cases everything : statement.only = []
  · rw [filterEntry_of_only_eq_nil everything, filterEntry_of_only_eq_nil everything, Except.map]
  · cases entry with
    | none => rw [Option.map_none, filterEntry_none everything, Except.map]
    | some resource =>
      rw [Option.map_some, filterEntry_some everything, filterEntry_some everything]
      cases FilterTree.build statement.only with
      | error fault => rfl
      | ok tree =>
        rw [Except.bind, Except.bind, Resource.filter_decoded]
        cases done : resource.filter tree with
        | error fault => rfl
        | ok kept =>
          rw [Except.map, Except.map, Option.map_some, Resource.decoded_of_filter done]

namespace Query

theorem put_decoded (filtered : Resources) (id : ResourceId) (made : Option Resource) :
    put filtered.decoded id (made.map Resource.decoded) = (put filtered id made).decoded := by
  cases made with
  | none => rfl
  | some kept => exact (Dictionary.map_insert Resource.decoded filtered id kept).symm

/-- Two runs of filtering that cannot be told apart: both have filtered, and the results of the
second are those of the first once read, or both have failed, with the same statement and cause. -/
inductive Alike : Except FilterFailure Resources → Except FilterFailure Resources → Prop
  | filtered (resources : Resources) : Alike (.ok resources) (.ok resources.decoded)
  | failed {failure other : FilterFailure} (id : other.id = failure.id)
    (statement : other.statement = failure.statement) (cause : other.cause = failure.cause) :
    Alike (.error failure) (.error other)

theorem alike_filterFrom [LibraryReports] (resources : Resources) (statements : List Statement)
    (filtered : Resources) :
    Alike (filterFrom resources statements filtered).value
      (filterFrom resources.decoded statements filtered.decoded).value := by
  induction statements generalizing filtered with
  | nil => exact .filtered filtered
  | cons statement rest inductionHypothesis =>
    -- both runs look the entry up in what was stored, not in what earlier statements have made
    have entry : statement.filterEntry (resources.decoded.find? statement.id) =
        (statement.filterEntry (resources.find? statement.id)).map
          (Option.map Resource.decoded) := by
      rw [Resources.decoded, Dictionary.find?_map, Statement.filterEntry_decoded]
    cases outcome : statement.filterEntry (resources.find? statement.id) with
    | error cause =>
      rw [outcome, Except.map] at entry
      rw [filterFrom_cons_of_error outcome, filterFrom_cons_of_error entry]
      exact .failed rfl rfl rfl
    | ok made =>
      rw [outcome, Except.map] at entry
      rw [filterFrom_cons_of_ok outcome, filterFrom_cons_of_ok entry, put_decoded]
      exact inductionHypothesis _

/-- The results that are shown of results that were read are, once read, those that are shown. -/
theorem visibleResults_decoded (query : Query) (resources : Resources) :
    query.visibleResults resources.decoded = (query.visibleResults resources).decoded := by
  refine Dictionary.ext_find? fun id => ?_
  rw [Resources.decoded, Resources.decoded, Dictionary.find?_map, find?_visibleResults,
    find?_visibleResults, Dictionary.find?_map, apply_ite (Option.map Resource.decoded),
    Option.map_none]

/-- Nothing tells whether the bodies of the results were read before a query is answered: the query
can be filtered either way or neither way; its answers hold the same identities and are written as
the same JSON; and its failures agree in the identity, the statement and the cause. -/
theorem applyFilters_decoded [LibraryReports] (query : Query) (resources : Resources) :
    match (query.applyFilters resources).value, (query.applyFilters resources.decoded).value with
    | .ok filtered, .ok filteredDecoded =>
      ∀ id, ((query.applyHidden filteredDecoded).value.find? id).map Resource.toJson =
        ((query.applyHidden filtered).value.find? id).map Resource.toJson
    | .error failure, .error failureDecoded =>
      failureDecoded.id = failure.id ∧ failureDecoded.statement = failure.statement ∧
        failureDecoded.cause = failure.cause
    | _, _ => False := by
  have alike : Alike (query.applyFilters resources).value
      (query.applyFilters resources.decoded).value :=
    alike_filterFrom resources query.statements Dictionary.empty
  generalize (query.applyFilters resources).value = first at alike ⊢
  generalize (query.applyFilters resources.decoded).value = second at alike ⊢
  cases alike with
  | filtered filtered =>
    intro id
    rw [applyHidden, applyHidden, visibleResults_decoded, Resources.decoded, Dictionary.find?_map,
      Option.map_map]
    exact congrArg (Option.map · _) (funext Resource.toJson_decoded)
  | failed id statement cause => exact ⟨id, statement, cause⟩

end Query

end Gateway
