/-
This file defines the results of resources. A record is the normalized outcome of one call: its
details and its body. The entry of a statement is one record, a list of entries when the statement
was called several times, or the statement itself while it has not been answered.
-/

import Gateway.Cache.Policy
import Gateway.Query.Statement
import Gateway.Resource.Body
import Gateway.Resource.Snapshot

namespace Gateway

/-- The outcome of a call apart from its body. -/
structure Details where
  status : UInt16
  success : Bool
  ignoreErrors : Bool := false
  cachePolicy : CachePolicy := {}
  snapshot : Option Snapshot := none

/-- The normalized outcome of one call. -/
structure Record where
  details : Details
  body : Body := .value .null

/-- The entry of a statement. -/
inductive Resource
  | done (result : Record)
  /-- The entries of a statement that was called several times, in the order of the calls. -/
  | multiplexed (items : List Resource)
  /-- A statement that was not answered. -/
  | pending (statement : Statement)

/-- The entries of a query by the identities of its statements. -/
abbrev Resources := Dictionary Resource

namespace Details

/-- Whether two sets of details hold the same content. -/
def sameContent (first second : Details) : Bool :=
  first.status == second.status && first.success == second.success &&
    first.ignoreErrors == second.ignoreErrors && first.cachePolicy == second.cachePolicy &&
    (match first.snapshot, second.snapshot with
      | some snapshot, some other => snapshot.sameContent other
      | none, none => true
      | _, _ => false)

/-- The text for diagnostics. -/
def dump (details : Details) : String :=
  Text.Dump.record "Details"
    [("status", String.ofList (Decimal.naturalText details.status.toNat)),
      ("success", Text.Dump.bool details.success),
      ("ignore_errors", Text.Dump.bool details.ignoreErrors),
      ("cache_control", details.cachePolicy.dump),
      ("debug", Text.Dump.option (details.snapshot.map Snapshot.dump))]

end Details

namespace Record

/-- The text for diagnostics. -/
def dump (result : Record) : String :=
  Text.Dump.record "DoneResource"
    [("details", result.details.dump), ("result", result.body.dump)]

end Record

namespace Resource

/-- The name of the kind of the entry. -/
def kind : Resource → String
  | .done _ => "DoneResource"
  | .multiplexed _ => "DoneResources"
  | .pending _ => "Statement"

/-- The record of an entry that is one. -/
def record? : Resource → Option Record
  | .done result => some result
  | _ => none

/-- Whether two entries hold the same content. Statements that were not answered never do. -/
def sameContent : Resource → Resource → Bool
  | .done first, .done second =>
    first.details.sameContent second.details && first.body.sameContent second.body
  | .multiplexed first, .multiplexed second => sameItems first second
  | _, _ => false
where
  sameItems : List Resource → List Resource → Bool
    | [], [] => true
    | first :: firstRest, second :: secondRest =>
      first.sameContent second && sameItems firstRest secondRest
    | _, _ => false

/-- The text for diagnostics. -/
def dump : Resource → String
  | .done result => Text.Dump.wrap "Done" result.dump
  | .multiplexed items => Text.Dump.wrap "Multiplexed" (Text.Dump.list (itemDumps items))
  | .pending statement => Text.Dump.wrap "Pending" statement.dump
where
  itemDumps : List Resource → List String
    | [] => []
    | item :: rest => item.dump :: itemDumps rest

end Resource

end Gateway
