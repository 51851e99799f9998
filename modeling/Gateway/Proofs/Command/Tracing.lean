/-
This file says what is logged while a query is filtered. Each statement with selectors is logged
once they were applied, so the log names those in front of the first statement that cannot be
applied, and all of them where there is none; the failure ends the log, and what it tells is what
the error tells. The command goes on to hide only what was filtered, and logs that once, with the
number of the statements that ask for it.
-/

import Gateway.Proofs.Command.Protocol
import Gateway.Proofs.Filter.Statements

namespace Gateway

namespace Query

variable {resources : Resources}

/-! ### The log of a failure and of what comes before it -/

/-- What is logged of statements that can all be applied. -/
def appliedLog (statements : List Statement) : List LogEntry :=
  (statements.filter fun statement => !statement.only.isEmpty).map fun statement =>
    ⟨.trace, "FILTER_APPLIED", [("resource", statement.id)]⟩

theorem appliedLog_cons (statement : Statement) (rest : List Statement) :
    appliedLog (statement :: rest) = statement.filteredLog ++ appliedLog rest := by
  rw [appliedLog, List.filter_cons, Statement.filteredLog]
  cases statement.only.isEmpty <;> rfl

/-- What is logged of a failure. -/
def failedLog [LibraryReports] (failure : FilterFailure) : List LogEntry :=
  [⟨.error, "FILTER_APPLY_FAILED",
    [("code", failure.code.name),
      ("done_resource", Text.Dump.option (failure.resource.map Resource.dump)),
      ("error", failure.cause.message),
      ("resource", failure.id),
      ("statement", failure.statement.dump)]⟩]

/-- Statements that can be applied are logged, and the others go on from what they have made. -/
theorem exists_filterFrom_append [LibraryReports] {before : List Statement}
    (sound : ∀ earlier ∈ before, earlier.AppliesTo (resources.find? earlier.id))
    (rest : List Statement) (filtered : Resources) :
    ∃ made, filterFrom resources (before ++ rest) filtered =
      (filterFrom resources rest made).after (appliedLog before) := by
  induction before generalizing filtered with
  | nil => exact ⟨filtered, rfl⟩
  | cons statement others inductionHypothesis =>
    obtain ⟨applies, further⟩ := List.forall_mem_cons.mp sound
    obtain ⟨entry, done⟩ := Statement.exists_filterEntry_iff.mpr applies
    obtain ⟨made, remaining⟩ := inductionHypothesis further (put filtered statement.id entry)
    refine ⟨made, ?_⟩
    rw [List.cons_append, filterFrom_cons done, remaining, appliedLog_cons]
    simp only [Traced.after, List.append_assoc]

/-- A statement that cannot be applied is logged as its failure, and no other statement is. -/
theorem exists_filterFrom_of_not_appliesTo [LibraryReports] {statement : Statement}
    (fails : ¬ statement.AppliesTo (resources.find? statement.id)) (rest : List Statement)
    (filtered : Resources) :
    ∃ cause, filterFrom resources (statement :: rest) filtered =
      ⟨.error (statement.failure resources cause),
        failedLog (statement.failure resources cause)⟩ := by
  cases outcome : statement.filterEntry (resources.find? statement.id) with
  | error cause => exact ⟨cause, filterFrom_cons_failure outcome rest filtered⟩
  | ok made => exact absurd (Statement.exists_filterEntry_iff.mp ⟨made, outcome⟩) fails

theorem log_applyFilters_of_ok [LibraryReports] {query : Query} {filtered : Resources}
    (done : (query.applyFilters resources).value = .ok filtered) :
    (query.applyFilters resources).log = appliedLog query.statements := by
  obtain ⟨made, run⟩ := exists_filterFrom_append (exists_applyFilters_iff.mp ⟨filtered, done⟩) []
    Dictionary.empty
  rw [List.append_nil] at run
  rw [applyFilters, run]
  exact List.append_nil _

/-- The log of a query that fails ends in the failure. -/
theorem exists_log_applyFilters_of_error [LibraryReports] {query : Query} {failure : FilterFailure}
    (failed : (query.applyFilters resources).value = .error failure) :
    ∃ before statement after, query.statements = before ++ statement :: after ∧
      (∀ earlier ∈ before, earlier.AppliesTo (resources.find? earlier.id)) ∧
      ¬ statement.AppliesTo (resources.find? statement.id) ∧
      failure.statement = statement ∧ failure.id = statement.id ∧
      (query.applyFilters resources).log = appliedLog before ++ failedLog failure := by
  obtain ⟨before, statement, after, split, sound, fails, -⟩ := failsOn_of_filterFrom failed
  obtain ⟨made, run⟩ := exists_filterFrom_append sound (statement :: after) Dictionary.empty
  obtain ⟨cause, ended⟩ := exists_filterFrom_of_not_appliesTo fails after made
  rw [applyFilters, split, run, ended] at failed ⊢
  obtain rfl := Except.error.inj failed
  exact ⟨before, statement, after, rfl, sound, fails, rfl, rfl, rfl⟩

/-! ### The log of hiding -/

/-- What is logged of hiding, by how filtering has ended. -/
def hiddenLog (query : Query) : Except FilterFailure Resources → List LogEntry
  | .ok _ =>
    [⟨.trace, "HIDDEN_APPLIED", [("hidden", toString (query.statements.countP Statement.hidden))]⟩]
  | .error _ => []

/-- Whether the entry tells that the results of hidden statements were left out. -/
def tellsHiding (entry : LogEntry) : Bool :=
  entry.event == "HIDDEN_APPLIED"

/-- Filtering itself does not tell of hiding, however it ends. -/
theorem filter_tellsHiding_log [LibraryReports] (query : Query) (resources : Resources) :
    (query.applyFilters resources).log.filter tellsHiding = [] := by
  have applied (statements : List Statement) : (appliedLog statements).filter tellsHiding = [] := by
    refine List.filter_eq_nil_iff.mpr fun entry inside => ?_
    obtain ⟨statement, -, rfl⟩ := List.mem_map.mp inside
    exact Bool.false_ne_true
  cases outcome : (query.applyFilters resources).value with
  | ok filtered => rw [log_applyFilters_of_ok outcome, applied]
  | error failure =>
    obtain ⟨before, -, -, -, -, -, -, -, logged⟩ := exists_log_applyFilters_of_error outcome
    rw [logged, List.filter_append, applied]
    rfl

theorem filter_tellsHiding_hiddenLog (query : Query) (outcome : Except FilterFailure Resources) :
    (query.hiddenLog outcome).filter tellsHiding = query.hiddenLog outcome := by
  cases outcome <;> rfl

end Query

open Query (hiddenLog tellsHiding)

/-- What is logged of hiding in answer to a request: nothing where the request is not one to
filter. -/
def hidingLog [LibraryReports] (request : Json) : List LogEntry :=
  match FilterRequest.decode request with
  | .error _ => []
  | .ok ⟨query, resources⟩ => query.hiddenLog (query.applyFilters resources).value

theorem log_filterResults_of_decode [LibraryReports] {request : Json} {query : Query}
    {resources : Resources} (decoded : FilterRequest.decode request = .ok ⟨query, resources⟩) :
    (filterResults request).log =
      (query.applyFilters resources).log ++
        query.hiddenLog (query.applyFilters resources).value := by
  rw [filterResults, decoded]
  dsimp only
  cases (query.applyFilters resources).value with
  | error failure => exact (List.append_nil _).symm
  | ok filtered =>
    rw [hiddenLog, List.countP_eq_length_filter]
    rfl

theorem filter_tellsHiding_filterResults [LibraryReports] (request : Json) :
    (filterResults request).log.filter tellsHiding = hidingLog request := by
  rw [hidingLog]
  cases decoded : FilterRequest.decode request with
  | error error => rw [filterResults, decoded]; rfl
  | ok filtering =>
    rw [log_filterResults_of_decode decoded, List.filter_append, Query.filter_tellsHiding_log,
      Query.filter_tellsHiding_hiddenLog, List.nil_append]

namespace Command

/-- What a command logs of itself does not tell of hiding. -/
theorem filter_tellsHiding_enclose (inner : List LogEntry) (ending : ScopeEnd) :
    (Scope.enclose filter.scopeName inner ending).filter tellsHiding =
      inner.filter tellsHiding := by
  have opening : tellsHiding (Scope.beginEntry filter.scopeName) = false := rfl
  have closing : tellsHiding (Scope.endEntry filter.scopeName ending) = false := by
    cases ending <;> rfl
  rw [Scope.enclose, List.filter_cons, opening, List.filter_append, List.filter_singleton, closing]
  simp

/-- A command to filter tells of hiding what it tells in answer to its request. -/
theorem filter_tellsHiding_run [LibraryReports] (source : ConfigSource) (input : List UInt8) :
    (filter.run source input).log.filter tellsHiding =
      match source.load.value, RequestLine.read input with
      | .ok _, .ok request => hidingLog request
      | _, _ => [] := by
  have loading : source.load.log.filter tellsHiding = [] := by
    refine List.filter_eq_nil_iff.mpr fun entry inside => ?_
    rw [tellsHiding, source.event_of_mem_load entry inside]
    decide
  rw [run]
  cases source.load.value with
  | error error => exact loading
  | ok config =>
    have own : (filter.runWith config input).log.filter tellsHiding =
        (filter.answerInput config input).log.filter tellsHiding := by
      rw [runWith]
      split <;> exact filter_tellsHiding_enclose _ _
    dsimp only
    rw [List.filter_append, loading, List.nil_append, own, answerInput]
    cases RequestLine.read input with
    | error error => rfl
    | ok request => exact filter_tellsHiding_filterResults request

end Command

/-- What is logged while a query is filtered. Filtering logs the statements with selectors in front
of the first statement that cannot be applied, each once and in order, and all of them where every
statement can be; a failure is logged behind them, with its code and its identity, and ends the log.
The command logs the same, and hiding behind it where filtering has succeeded, with the number of
hidden statements; whatever its input is, it tells of hiding nowhere else. -/
theorem filter_trace [LibraryReports] (query : Query) (resources : Resources) :
    (match (query.applyFilters resources).value with
      | .ok _ => (query.applyFilters resources).log = Query.appliedLog query.statements
      | .error failure =>
        ∃ before statement after, query.statements = before ++ statement :: after ∧
          (∀ earlier ∈ before, earlier.AppliesTo (resources.find? earlier.id)) ∧
          ¬ statement.AppliesTo (resources.find? statement.id) ∧
          failure.statement = statement ∧ failure.id = statement.id ∧
          (query.applyFilters resources).log =
            Query.appliedLog before ++ Query.failedLog failure) ∧
    (∀ request, FilterRequest.decode request = .ok ⟨query, resources⟩ →
      (filterResults request).log =
        (query.applyFilters resources).log ++
          match (query.applyFilters resources).value with
          | .ok _ =>
            [⟨.trace, "HIDDEN_APPLIED",
              [("hidden", toString (query.statements.countP Statement.hidden))]⟩]
          | .error _ => []) ∧
    ∀ source input,
      (Command.filter.run source input).log.filter tellsHiding =
        match source.load.value, RequestLine.read input with
        | .ok _, .ok request => hidingLog request
        | _, _ => [] := by
  refine ⟨?_, fun request decoded => ?_, Command.filter_tellsHiding_run⟩
  · cases outcome : (query.applyFilters resources).value with
    | ok filtered => exact Query.log_applyFilters_of_ok outcome
    | error failure => exact Query.exists_log_applyFilters_of_error outcome
  · rw [log_filterResults_of_decode decoded]
    cases (query.applyFilters resources).value <;> rfl

/-- Heroes are asked for their names, and sidekicks, which have no entry, are hidden. -/
def tracedRequest : Json :=
  .object
    [("query", .object [("statements", .array
        [.object [("resource", .text "heroes"), ("only", .array [.text "name"])],
          .object [("resource", .text "sidekicks"), ("hidden", .bool true)]])]),
      ("resources", .object [("heroes", (Resource.done
        ⟨{ status := 200, success := true }, .value (.object [("name", .text "x")])⟩).toJson)])]

theorem filter_trace_heroes :
    ∃ query resources, FilterRequest.decode tracedRequest = .ok ⟨query, resources⟩ ∧
      (filterResults tracedRequest).log =
        [⟨.trace, "FILTER_APPLIED", [("resource", "heroes")]⟩,
          ⟨.trace, "HIDDEN_APPLIED", [("hidden", "1")]⟩] := by
  refine ⟨_, _, rfl, ?_⟩
  rw [(filter_trace _ _).2.1 _ rfl]
  rfl

end Gateway
