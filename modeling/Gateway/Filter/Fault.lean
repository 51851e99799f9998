/-
This file names the faults that stop a query from being filtered. A fault lies in the query, when a
pattern cannot be read or a match names no field, or in the results, when one is missing or was
never answered.
-/

import Gateway.Reports
import Gateway.Resource.Basic

namespace Gateway

/-- Where a fault lies. -/
inductive FaultCode
  | filterInvalid
  | dataInconsistent
  deriving DecidableEq, Repr

/-- The code as it is reported. -/
def FaultCode.name : FaultCode → String
  | .filterInvalid => "GATE_FILTER_INVALID"
  | .dataInconsistent => "GATE_DATA_INCONSISTENT"

/-- Why the selectors of a statement cannot be applied. -/
inductive Fault
  /-- The text of a pattern that writes none. -/
  | invalidPattern (source : String)
  /-- A match without a path. -/
  | emptyTarget
  /-- A result that is no record and no list of results. -/
  | unknownShape (resource : Resource)
  | missingResult (id : ResourceId)

namespace Fault

/-- Where the fault lies. -/
def code : Fault → FaultCode
  | .invalidPattern _ | .emptyTarget => .filterInvalid
  | .unknownShape _ | .missingResult _ => .dataInconsistent

/-- The name of the kind of the fault. -/
def kind : Fault → String
  | .invalidPattern _ => "InvalidMatchArg"
  | .emptyTarget => "EmptyMatchTarget"
  | .unknownShape _ => "UnknownResultShape"
  | .missingResult _ => "MissingResult"

/-- The words for the fault. -/
def message [LibraryReports] : Fault → String
  | .invalidPattern source =>
    "failed to parse match argument '" ++ source ++ "': " ++ LibraryReports.pattern source
  | .emptyTarget => "match filter has no target field"
  | .unknownShape resource =>
    "resource result has unknown type " ++ resource.kind ++ " with value: " ++ resource.dump
  | .missingResult id => "no result found for resource " ++ id

/-- No fault goes away when the query is asked again. -/
def isRetryable (_ : Fault) : Bool := false

end Fault

/-- Why a query cannot be filtered: the fault, and the statement and the result that it was met
with. -/
structure FilterFailure where
  id : ResourceId
  statement : Statement
  resource : Option Resource
  cause : Fault

namespace FilterFailure

/-- Where the fault lies. -/
def code (failure : FilterFailure) : FaultCode := failure.cause.code

/-- The words for the failure. -/
def message [LibraryReports] (failure : FilterFailure) : String :=
  "[" ++ failure.code.name ++ "] failed to apply filter on statement " ++ failure.id ++ ": " ++
    failure.cause.message

end FilterFailure

end Gateway
