/-
This file defines log entries and the lines that they are written as. A line is one JSON object of
texts: the event, the severity, and the fields in ascending order of keys, where fields of one key
keep their order. All that could end the line or a text early is escaped.
-/

import Gateway.Text.Quoted

namespace Gateway

/-- How severe a log entry is. -/
inductive Severity
  /-- Detail of single statements. -/
  | trace
  | info
  /-- Answered, but degraded. -/
  | warn
  /-- A query could not be answered. -/
  | error
  deriving DecidableEq, Repr

namespace Severity

/-- The name of the severity. -/
def name : Severity → String
  | .trace => "TRACE"
  | .info => "INFO"
  | .warn => "WARN"
  | .error => "ERROR"

/-- The place of the severity in ascending order. -/
def rank : Severity → Nat
  | .trace => 0
  | .info => 1
  | .warn => 2
  | .error => 3

/-- The severity of a name. -/
def ofName? (name : String) : Option Severity :=
  [trace, info, warn, error].find? fun severity => severity.name == name

end Severity

/-- What was logged at one time. -/
structure LogEntry where
  severity : Severity
  event : String
  fields : List (String × String) := []
  deriving DecidableEq, Repr

namespace LogEntry

/-- The fields with one more, behind those of smaller and equal keys. -/
def insertField (field : String × String) : List (String × String) → List (String × String)
  | [] => [field]
  | other :: rest =>
    if field.1 < other.1 then field :: other :: rest else other :: insertField field rest

/-- The fields in ascending order of keys; those of one key keep their order. -/
def sortFields (fields : List (String × String)) : List (String × String) :=
  fields.foldl (fun sorted field => insertField field sorted) []

/-- The members of the line, in their order. -/
def members (entry : LogEntry) : List (String × String) :=
  ("event", entry.event) :: ("severity", entry.severity.name) :: sortFields entry.fields

/-- A member of the line. -/
def memberChars (member : String × String) : List Char :=
  Text.QuotingStyle.log.quote member.1 ++ ':' :: Text.QuotingStyle.log.quote member.2

/-- The members after the first, each behind a comma, and the end of the line. -/
def restChars : List (String × String) → List Char
  | [] => ['\x7d', '\n']
  | member :: rest => ',' :: (memberChars member ++ restChars rest)

/-- The line of the entry. -/
def line (entry : LogEntry) : String :=
  String.ofList
    ('\x7b' :: (memberChars ("event", entry.event) ++
      restChars (("severity", entry.severity.name) :: sortFields entry.fields)))

end LogEntry

/-- A value together with what was logged while it was made. -/
structure Traced (α : Type) where
  value : α
  log : List LogEntry := []

namespace Traced

/-- The value with these entries logged before it was made. -/
def after {α : Type} (entries : List LogEntry) (traced : Traced α) : Traced α :=
  { traced with log := entries ++ traced.log }

/-- A function of the value, with the same log. -/
def map {α β : Type} (function : α → β) (traced : Traced α) : Traced β :=
  ⟨function traced.value, traced.log⟩

end Traced

end Gateway
