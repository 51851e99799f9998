/-
This file names the events of the gateway's life and says how severe each is: the failure of a
query is an error, what happens once for every statement is a detail, and all others inform.
-/

import Gateway.Log.Entry

namespace Gateway

/-- An event of the gateway's life. -/
inductive Event
  | configLoaded
  /-- A record was made from an answered call. -/
  | resourceAssembled
  /-- A record was made from a failed call. -/
  | resourceFailed
  /-- A call was skipped because its parameters were missing. -/
  | resourceSkipped
  /-- The selectors of a statement were applied to its result. -/
  | filterApplied
  /-- The selectors of a statement could not be applied, which ends the query. -/
  | filterApplyFailed
  /-- The results of hidden statements were left out. -/
  | hiddenApplied
  deriving DecidableEq, Repr

namespace Event

/-- Every event. -/
def all : List Event :=
  [configLoaded, resourceAssembled, resourceFailed, resourceSkipped, filterApplied,
    filterApplyFailed, hiddenApplied]

/-- The name of the event in the log. -/
def name : Event → String
  | .configLoaded => "CONFIG_LOADED"
  | .resourceAssembled => "RESOURCE_ASSEMBLED"
  | .resourceFailed => "RESOURCE_FAILED"
  | .resourceSkipped => "RESOURCE_SKIPPED"
  | .filterApplied => "FILTER_APPLIED"
  | .filterApplyFailed => "FILTER_APPLY_FAILED"
  | .hiddenApplied => "HIDDEN_APPLIED"

/-- The event of a name. -/
def ofName? (name : String) : Option Event :=
  all.find? fun event => event.name == name

/-- Whether the event says that a query failed. -/
def isFailure : Event → Bool
  | .filterApplyFailed => true
  | _ => false

/-- Whether the event happens for single statements. -/
def isDetail : Event → Bool
  | .resourceAssembled | .filterApplied | .hiddenApplied => true
  | _ => false

/-- How severe the event is. -/
def severity (event : Event) : Severity :=
  if event.isFailure then .error else if event.isDetail then .trace else .info

/-- The log entry of the event. -/
def entry (event : Event) (fields : List (String × String)) : LogEntry :=
  ⟨event.severity, event.name, fields⟩

end Event

end Gateway
