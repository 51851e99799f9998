/-
This file makes records. Every call ends in exactly one: a success record from its response, an
error record when the transport failed, or a skipped record when its parameters were missing. A
record tells of the request only by its snapshot, which is taken when debug output is on.
-/

import Gateway.Cache.Header
import Gateway.Exchange
import Gateway.Log.Event
import Gateway.Record.Options
import Gateway.Resource.Basic

namespace Gateway

/-- Whether a status counts as success. -/
def isSuccess (status : UInt16) : Bool :=
  200 ≤ status && status < 400

theorem isSuccess_iff {status : UInt16} :
    isSuccess status = true ↔ 200 ≤ status ∧ status < 400 := by
  simp [isSuccess]

namespace Snapshot

/-- The snapshot of an exchange. -/
def ofExchange (request : Request) (response : Response) : Snapshot where
  method := request.method
  url := response.url
  parameters := request.parameters
  requestBody := request.body
  requestHeaders := request.headers
  responseHeaders := Dictionary.ofList response.headers
  responseTime := response.milliseconds

end Snapshot

namespace Record

/-- The header that holds a cache policy. -/
def cacheControlHeader : String := "Cache-Control"

/-- The policy that the headers of a response ask for. -/
def responsePolicy? (response : Response) : Option CachePolicy :=
  (response.header cacheControlHeader).bind CacheHeader.policy?

/-- The snapshot of an exchange, when debug output is on. -/
def snapshot? (request : Request) (response : Response) (options : CallOptions) : Option Snapshot :=
  if options.debugging then some (Snapshot.ofExchange request response) else none

/-- The record of a call that was answered. -/
def ofResponse (request : Request) (response : Response) (options : CallOptions) :
    Traced Record where
  value :=
    { details :=
        { status := response.status
          success := isSuccess response.status
          ignoreErrors := options.ignoreErrors
          cachePolicy := CachePolicy.merge (responsePolicy? response) options.cachePolicy?
          snapshot := snapshot? request response options }
      body := response.body }
  log :=
    [Event.resourceAssembled.entry
      [("status", String.ofList (Decimal.naturalText response.status.toNat)),
        ("url", response.url)]]

/-- The record of a call whose transport failed. -/
def ofFailure (reason : String) (request : Request) (response : Response) (options : CallOptions) :
    Traced Record where
  value :=
    { details :=
        { status := response.status
          success := false
          ignoreErrors := options.ignoreErrors
          snapshot := snapshot? request response options }
      body := .value (.text reason) }
  log := [Event.resourceFailed.entry [("error", reason), ("url", response.url)]]

/-- The status of a call that was skipped. -/
def skippedStatus : UInt16 := 400

/-- The words for a call that was skipped for its missing parameters. -/
def skippedMessage (missing : List String) : String :=
  "The request was skipped due to missing \x7b " ++
    String.join (missing.map fun parameter => ":" ++ parameter ++ " ") ++ "\x7d param value"

/-- The record of a call that was skipped. -/
def ofSkipped (missing : List String) (options : CallOptions) : Traced Record where
  value :=
    { details :=
        { status := skippedStatus
          success := false
          ignoreErrors := options.ignoreErrors }
      body := .value (.text (skippedMessage missing)) }
  log := [Event.resourceSkipped.entry [("params", ",".intercalate missing)]]

/-- The record of one call: skipped where parameters are missing, failed where there is an error,
and made from the response elsewhere. -/
def ofCall (missing : List String) (error : Option String) (request : Request) (response : Response)
    (options : CallOptions) : Traced Record :=
  if missing.isEmpty then
    match error with
    | some reason => ofFailure reason request response options
    | none => ofResponse request response options
  else ofSkipped missing options

end Record

end Gateway
