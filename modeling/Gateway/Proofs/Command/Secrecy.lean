/-
This file proves that the record of a call tells nothing of the request unless debug output is on.
Two calls are compared that may differ in the request with its headers and its body, in the input of
the query, and in the address, the other headers and the duration of the response. Without debug
output their options are the same, and each maker of records looks at the request and at those parts
of the response for the snapshot alone. A call that is skipped takes no snapshot at all, so nothing
but the statement counts for its record.
-/

import Gateway.Proofs.Command.Assembly

namespace Gateway

/-! ### The makers of records -/

/-- The responses agree in what a record holds of them beside a snapshot. -/
structure Response.Agree (first second : Response) : Prop where
  status : first.status = second.status
  body : first.body = second.body
  cacheControl : first.header "Cache-Control" = second.header "Cache-Control"

namespace Record

variable {options : CallOptions} {first second : Response}

theorem snapshot?_eq_none (quiet : options.debugging = false) (request : Request)
    (response : Response) : snapshot? request response options = none := by
  rw [snapshot?, quiet]
  rfl

theorem value_ofResponse_eq (quiet : options.debugging = false) (agree : first.Agree second)
    (request other : Request) :
    (ofResponse request first options).value = (ofResponse other second options).value := by
  have policy : responsePolicy? first = responsePolicy? second :=
    congrArg (Option.bind · CacheHeader.policy?) agree.cacheControl
  rw [ofResponse, ofResponse, snapshot?_eq_none quiet, snapshot?_eq_none quiet, agree.status,
    agree.body, policy]

theorem value_ofFailure_eq (quiet : options.debugging = false) (agree : first.Agree second)
    (reason : String) (request other : Request) :
    (ofFailure reason request first options).value =
      (ofFailure reason other second options).value := by
  rw [ofFailure, ofFailure, snapshot?_eq_none quiet, snapshot?_eq_none quiet, agree.status]

/-- A record that takes no snapshot is the same whatever the request is. -/
theorem value_ofCall_eq (quiet : options.debugging = false) (agree : first.Agree second)
    (missing : List String) (error : Option String) (request other : Request) :
    (ofCall missing error request first options).value =
      (ofCall missing error other second options).value := by
  rw [ofCall.eq_def, ofCall.eq_def]
  split
  · cases error with
    | some reason => exact value_ofFailure_eq quiet agree reason request other
    | none => exact value_ofResponse_eq quiet agree request other
  · rfl

end Record

/-! ### Two calls of one statement -/

namespace AssembleRequest

variable {first second : AssembleRequest} {config : Config}

/-- Debug output is on: the query asks for it and the configuration allows it. -/
def Debugged (call : AssembleRequest) (config : Config) : Prop :=
  call.context.debugRequested = true ∧ config.debugEnabled = true

theorem debugging_eq_false (quiet : ¬ first.Debugged config) :
    (first.context.debugRequested && config.debugEnabled) = false :=
  Bool.eq_false_iff.mpr fun both => quiet (Bool.and_eq_true_iff.mp both)

/-- Without debug output the options depend on the statement and on the configuration alone. -/
theorem options_eq (statement : first.statement = second.statement)
    (quiet : ¬ first.Debugged config) (quietOther : ¬ second.Debugged config) :
    first.options config = second.options config := by
  rw [options, options, CallOptions.resolve, CallOptions.resolve, debugging_eq_false quiet,
    debugging_eq_false quietOther, statement]

theorem value_assembleRecord_eq (statement : first.statement = second.statement)
    (error : first.error = second.error) (agree : first.response.Agree second.response)
    (quiet : ¬ first.Debugged config) (quietOther : ¬ second.Debugged config) :
    (assembleRecord config first).value = (assembleRecord config second).value := by
  have same := options_eq statement quiet quietOther
  have off : (first.options config).debugging = false := debugging_eq_false quiet
  rw [options, options] at same
  rw [assembleRecord, assembleRecord, ← same, ← statement, ← error]
  exact Record.value_ofCall_eq off agree _ _ _ _

/-- The record of a call that is skipped depends on the statement alone. -/
theorem value_assembleRecord_eq_of_missing (statement : first.statement = second.statement)
    (missing : first.statement.missingParameters ≠ []) :
    (assembleRecord config first).value = (assembleRecord config second).value := by
  have notEmpty : ¬ first.statement.missingParameters.isEmpty = true := fun empty =>
    missing (List.isEmpty_iff.mp empty)
  rw [assembleRecord, assembleRecord, ← statement, Record.ofCall.eq_def, Record.ofCall.eq_def,
    if_neg notEmpty, if_neg notEmpty]
  rfl

end AssembleRequest

/-- What the command answers to two requests with the same statement. Where parameters are missing
the answers are one record, with debug output or without. Elsewhere they are one record if debug
output is on for neither call and the calls have the same error and responses of the same status,
body and cache header: nothing else in the requests counts. -/
theorem assembleResult_independent {config : Config} {request other : Json}
    {first second : AssembleRequest} (decoded : AssembleRequest.decode request = .ok first)
    (decodedOther : AssembleRequest.decode other = .ok second)
    (statement : first.statement = second.statement) :
    (first.statement.missingParameters ≠ [] →
      ∃ record : Record, (assembleResult config request).value = .ok record.toJson ∧
        (assembleResult config other).value = .ok record.toJson) ∧
    (first.error = second.error → first.response.Agree second.response →
      ¬ first.Debugged config → ¬ second.Debugged config →
      ∃ record : Record, (assembleResult config request).value = .ok record.toJson ∧
        (assembleResult config other).value = .ok record.toJson) := by
  have answers (same : (assembleRecord config first).value = (assembleRecord config second).value) :
      ∃ record : Record, (assembleResult config request).value = .ok record.toJson ∧
        (assembleResult config other).value = .ok record.toJson := by
    refine ⟨(assembleRecord config first).value, ?_, ?_⟩
    · rw [assembleResult, decoded]
      rfl
    · rw [assembleResult, decodedOther, same]
      rfl
  constructor
  · exact fun missing =>
      answers (AssembleRequest.value_assembleRecord_eq_of_missing statement missing)
  · exact fun error agree quiet quietOther =>
      answers (AssembleRequest.value_assembleRecord_eq statement error agree quiet quietOther)

/-- A call of heroes with a token in its request, for a query that asks for debug output. -/
def tokenRequest (parameters : Json) (token : String) : Json :=
  .object
    [("statement", .object [("resource", .text "heroes"), ("with", parameters)]),
      ("context", .object [("params", .object [("_debug", .text "true")])]),
      ("request", .object
        [("method", .text "GET"), ("headers", .object [("Authorization", .text token)])])]

/-- The call that the request describes. -/
def tokenCall (parameters : List (String × Parameter)) (token : String) : AssembleRequest where
  statement := { resource := "heroes", parameters }
  context := { parameters := Dictionary.empty.insert "_debug" (.text "true") }
  request := { method := "GET", headers := Dictionary.empty.insert "Authorization" token }

/-- Parameters of which one is an empty chained value. -/
def chainedParameters : Json := .object [("id", .object [("$emptyChained", .bool true)])]

theorem assembleResult_independent_token :
    let chained (token : String) := tokenRequest chainedParameters token
    let complete (token : String) := tokenRequest (.object []) token
    let quietConfig : Config := { debugEnabled := false }
    ((tokenCall [("id", .emptyChained)] "a").statement.missingParameters ≠ [] ∧
      ∃ record : Record, (assembleResult {} (chained "a")).value = .ok record.toJson ∧
        (assembleResult {} (chained "b")).value = .ok record.toJson) ∧
    (¬ (tokenCall [] "a").Debugged quietConfig ∧ ¬ (tokenCall [] "b").Debugged quietConfig ∧
      ∃ record : Record, (assembleResult quietConfig (complete "a")).value = .ok record.toJson ∧
        (assembleResult quietConfig (complete "b")).value = .ok record.toJson) := by
  intro chained complete quietConfig
  have chainedCall (token : String) : AssembleRequest.decode (chained token) =
      .ok (tokenCall [("id", .emptyChained)] token) := rfl
  have completeCall (token : String) : AssembleRequest.decode (complete token) =
      .ok (tokenCall [] token) := rfl
  have missing : (tokenCall [("id", .emptyChained)] "a").statement.missingParameters ≠ [] := by
    decide
  have quiet (token : String) : ¬ (tokenCall [] token).Debugged quietConfig :=
    fun both => nomatch both.2
  exact ⟨⟨missing, (assembleResult_independent (chainedCall "a") (chainedCall "b") rfl).1 missing⟩,
    quiet "a", quiet "b",
    (assembleResult_independent (completeCall "a") (completeCall "b") rfl).2 rfl ⟨rfl, rfl, rfl⟩
      (quiet "a") (quiet "b")⟩

end Gateway
