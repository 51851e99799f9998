/-
This file says when the command to filter fails, and with which code. A request that does not have
the shape of one is invalid. In any other request every entry is made of records, since only records
can be written, so a query fails for nothing but its statements: the first faulty one decides the
code, by whether its entry is missing or its selectors cannot be applied to the entry.
-/

import Gateway.Command.Run
import Gateway.Proofs.Command.Reception

namespace Gateway

/-! ### Codes -/

/-- Codes that are reported alike are the same. -/
theorem CommandErrorCode.name_injective {first second : CommandErrorCode}
    (same : first.name = second.name) : first = second := by
  rcases first with - | - | - | (- | -) <;> rcases second with - | - | - | (- | -) <;>
    first
    | rfl
    | simp [name, FaultCode.name] at same

/-- Filtering the request fails with the code. -/
def FailsWith [LibraryReports] (request : Json) (code : String) : Prop :=
  ∃ error, (filterResults request).value = .error error ∧ error.code.name = code

theorem failsWith_iff [LibraryReports] {request : Json} {error : CommandError}
    (failed : (filterResults request).value = .error error) {code : String} :
    FailsWith request code ↔ error.code.name = code := by
  constructor
  · rintro ⟨other, same, named⟩
    obtain rfl := Except.error.inj (failed.symm.trans same)
    exact named
  · exact fun named => ⟨error, failed, named⟩

/-! ### Requests that do not have the shape -/

theorem filterResults_of_undecoded [LibraryReports] {request : Json} {reason : ShapeError}
    (undecoded : FilterRequest.decode request = .error reason) :
    (filterResults request).value =
      .error ⟨.invalidRequest, "Invalid filter request: " ++ reason.message⟩ := by
  rw [filterResults, undecoded]

section Decoded

variable {request : Json} {query : Query} {resources : Resources}

/-- A request that has the shape fails exactly where its query does, with the same fault. -/
theorem filterResults_eq_error_iff [LibraryReports]
    (decoded : FilterRequest.decode request = .ok ⟨query, resources⟩) {error : CommandError} :
    (filterResults request).value = .error error ↔
      ∃ failure, (query.applyFilters resources).value = .error failure ∧
        error = .ofFailure failure := by
  rw [filterResults, decoded]
  dsimp only
  cases (query.applyFilters resources).value with
  | error failure => simp [eq_comm]
  | ok results =>
    refine iff_of_false (fun failed => nomatch failed) ?_
    rintro ⟨failure, failed, -⟩
    cases failed

/-- No code of a fault is that of an invalid request. -/
theorem failsWith_invalidRequest_iff [LibraryReports] :
    FailsWith request "GATE_CLI_INVALID_REQUEST" ↔
      ∃ reason, FilterRequest.decode request = .error reason := by
  constructor
  · rintro ⟨error, failed, named⟩
    cases outcome : FilterRequest.decode request with
    | error reason => exact ⟨reason, rfl⟩
    | ok decoded =>
      obtain ⟨failure, -, rfl⟩ := (filterResults_eq_error_iff outcome).mp failed
      have same : (CommandErrorCode.filtering failure.code).name =
          CommandErrorCode.invalidRequest.name := named
      cases CommandErrorCode.name_injective same
  · rintro ⟨reason, undecoded⟩
    exact ⟨_, filterResults_of_undecoded undecoded, rfl⟩

/-! ### Faulty statements of a request -/

theorem answered_of_decode (decoded : FilterRequest.decode request = .ok ⟨query, resources⟩)
    (id : ResourceId) :
    ∀ entry, resources.find? id = some entry → entry.Answered :=
  fun _ found => FilterRequest.answered_of_decode decoded found

theorem exists_error_iff_faulty [LibraryReports]
    (decoded : FilterRequest.decode request = .ok ⟨query, resources⟩) :
    (∃ error, (filterResults request).value = .error error) ↔
      ∃ statement ∈ query.statements, statement.Faulty (resources.find? statement.id) := by
  have applies : (∃ filtered, (query.applyFilters resources).value = .ok filtered) ↔
      ∀ statement ∈ query.statements, ¬ statement.Faulty (resources.find? statement.id) := by
    simp only [Query.exists_applyFilters_iff,
      Statement.appliesTo_iff_not_faulty (answered_of_decode decoded _)]
  simp only [filterResults_eq_error_iff decoded]
  cases outcome : (query.applyFilters resources).value with
  | ok filtered =>
    refine iff_of_false ?_ ?_
    · rintro ⟨error, failure, failed, -⟩
      cases failed
    · rintro ⟨statement, inside, faulty⟩
      exact applies.mp ⟨filtered, outcome⟩ statement inside faulty
  | error failure =>
    refine iff_of_true ⟨_, failure, rfl, rfl⟩ ?_
    by_contra sound
    obtain ⟨filtered, done⟩ := applies.mpr fun statement inside faulty =>
      sound ⟨statement, inside, faulty⟩
    cases outcome.symm.trans done

/-- The first faulty statement decides the code: its entry is missing, or its selectors cannot be
applied to its entry. -/
theorem failsWith_of_first_faulty [LibraryReports]
    (decoded : FilterRequest.decode request = .ok ⟨query, resources⟩)
    {before after : List Statement} {statement : Statement}
    (split : query.statements = before ++ statement :: after)
    (sound : ∀ earlier ∈ before, ¬ earlier.Faulty (resources.find? earlier.id))
    (faulty : statement.Faulty (resources.find? statement.id)) (code : String) :
    FailsWith request code ↔
      (if resources.find? statement.id = none then FaultCode.dataInconsistent
        else FaultCode.filterInvalid).name = code := by
  have answered := answered_of_decode decoded
  have fails : ¬ ∃ made, statement.filterEntry (resources.find? statement.id) = .ok made := by
    rw [Statement.exists_filterEntry_iff, Statement.appliesTo_iff_not_faulty (answered _)]
    exact not_not_intro faulty
  cases outcome : statement.filterEntry (resources.find? statement.id) with
  | ok made => exact absurd ⟨made, outcome⟩ fails
  | error cause =>
    have failed : (query.applyFilters resources).value =
        .error (statement.failure resources cause) := by
      rw [Query.applyFilters, split]
      refine Query.filterFrom_append_of_error (fun earlier inside => ?_) outcome _ _
      exact (Statement.appliesTo_iff_not_faulty (answered _)).mpr (sound earlier inside)
    have own := ((Statement.failsOn_of_filterEntry outcome).code_eq (answered _)).2
    rw [failsWith_iff ((filterResults_eq_error_iff decoded).mpr ⟨_, failed, rfl⟩), ← own]
    rfl

/-- How filtering a request fails. The request is invalid exactly where it does not have the shape.
Otherwise no entry holds a statement that was not answered, so no failure is for the shape of an
entry; it fails exactly where a statement is faulty; and the first faulty one decides the code. -/
theorem filterResults_faults [LibraryReports] (request : Json) :
    (FailsWith request "GATE_CLI_INVALID_REQUEST" ↔
      ∃ reason, FilterRequest.decode request = .error reason) ∧
    ∀ query resources, FilterRequest.decode request = .ok ⟨query, resources⟩ →
      (∀ id entry, resources.find? id = some entry →
        ∀ pending, .unanswered pending ∉ entry.ends) ∧
      (∀ failure, (query.applyFilters resources).value = .error failure →
        ∀ entry, failure.cause ≠ .unknownShape entry) ∧
      ((∃ error, (filterResults request).value = .error error) ↔
        ∃ statement ∈ query.statements, statement.Faulty (resources.find? statement.id)) ∧
      ∀ before statement after, query.statements = before ++ statement :: after →
        (∀ earlier ∈ before, ¬ earlier.Faulty (resources.find? earlier.id)) →
        statement.Faulty (resources.find? statement.id) →
        (FailsWith request "GATE_DATA_INCONSISTENT" ↔ resources.find? statement.id = none) ∧
        (FailsWith request "GATE_FILTER_INVALID" ↔
          ∃ entry, resources.find? statement.id = some entry ∧ statement.InvalidOn entry) := by
  refine ⟨failsWith_invalidRequest_iff, fun query resources decoded => ?_⟩
  have answered := answered_of_decode decoded
  refine ⟨answered, fun failure failed => ?_, exists_error_iff_faulty decoded, ?_⟩
  · obtain ⟨-, statement, -, -, -, -, cause, fails, rfl⟩ := Query.failsOn_of_filterFrom failed
    exact (fails.code_eq (answered _)).1
  · intro before statement after split sound faulty
    rw [failsWith_of_first_faulty decoded split sound faulty,
      failsWith_of_first_faulty decoded split sound faulty]
    rcases faulty with ⟨-, missing | ⟨entry, found, invalid⟩⟩
    · simp [missing, FaultCode.name]
    · simp [found, invalid, FaultCode.name]

end Decoded

/-- A match with a pattern that cannot be read. -/
def brokenMatch : Statement :=
  { resource := "heroes", only := [.matching ⟨["name"], .source "("⟩] }

/-- One record, in a list within a list. -/
def nestedCalls : Resource :=
  .multiplexed [.multiplexed
    [.done ⟨{ status := 200, success := true }, .value (.object [("name", .text "x")])⟩]]

/-- All villains are asked for, then heroes by the broken match, then sidekicks, which have no
entry. -/
def brokenRequest : Json :=
  .object
    [("query", .object [("statements", .array
        [.object [("resource", .text "villains")],
          .object [("resource", .text "heroes"),
            ("only", .array [.object [("path", .text "name"), ("match", .text "(")]])],
          .object [("resource", .text "sidekicks"), ("only", .array [.text "name"])]])]),
      ("resources", .object [("heroes", nestedCalls.toJson)])]

theorem filterResults_faults_brokenRequest :
    FailsWith brokenRequest "GATE_FILTER_INVALID" ∧
      ¬ FailsWith brokenRequest "GATE_DATA_INCONSISTENT" := by
  have decoded : FilterRequest.decode brokenRequest =
      .ok ⟨⟨[{ resource := "villains" }, brokenMatch,
        { resource := "sidekicks", only := [.path ["name"]] }]⟩,
        Dictionary.empty.insert "heroes" nestedCalls⟩ := rfl
  have settles : Settles brokenMatch.only ["name"] (.keepMatching ⟨["name"], .source "("⟩) :=
    ⟨[], _, [], rfl, rfl, List.cons_ne_nil _ _, rfl, nofun⟩
  have unread : (Pattern.compile? "(").isNone = true := by decide +kernel
  have broken : brokenMatch.MeetsBroken nestedCalls :=
    ⟨_, _, _, settles, by decide, .head _, ⟨[.field "name"], _, rfl, rfl⟩,
      Option.isNone_iff_eq_none.mp unread⟩
  obtain ⟨-, -, -, first⟩ := (filterResults_faults brokenRequest).2 _ _ decoded
  obtain ⟨inconsistent, invalid⟩ := first [{ resource := "villains" }] brokenMatch _ rfl
    (fun earlier inside faulty => faulty.1 (List.mem_singleton.mp inside ▸ rfl))
    ⟨nofun, Or.inr ⟨nestedCalls, rfl, Or.inr broken⟩⟩
  exact ⟨invalid.mpr ⟨nestedCalls, rfl, Or.inr broken⟩,
    fun fails => nomatch inconsistent.mp fails⟩

end Gateway
