/-
This file defines statements and queries. A statement calls one resource and says what of its
result is wanted; its result is stored under its alias, or under the name of the resource where
there is no alias or an empty one. A query is a list of statements in the order of declaration.
-/

import Gateway.Json.Members
import Gateway.Query.Parameter
import Gateway.Query.Selector

namespace Gateway

/-- The cache directives that a statement or a configuration declares. They are kept as they are
written, since only integers take effect. -/
structure Directives where
  maxAge : Option Json := none
  sharedMaxAge : Option Json := none

namespace Directives

/-- Sets one directive by its member. A null leaves it out. -/
def set (directives : Directives) (field : String) (value : Json) : Decoded Directives := do
  match field with
  | "maxAge" => return { directives with maxAge := ← Json.decodeOption .ok value }
  | "sMaxAge" => return { directives with sharedMaxAge := ← Json.decodeOption .ok value }
  | _ => return directives

/-- The shape of directives under the name of the record that holds them. -/
def shape (name : String) : RecordShape := ⟨name, ["maxAge", "sMaxAge"], []⟩

/-- The directives as JSON, with null for a missing one. -/
def toJson (directives : Directives) : Json :=
  .object
    [("maxAge", Json.ofOption directives.maxAge),
      ("sMaxAge", Json.ofOption directives.sharedMaxAge)]

end Directives

/-- The identity under which the result of a statement is stored. -/
abbrev ResourceId := String

/-- One clause of a query. -/
structure Statement where
  resource : String
  /-- The alias that tells repeated calls of one resource apart. -/
  calledAs : Option String := none
  /-- The parameters of the call in the order of declaration. -/
  parameters : List (String × Parameter) := []
  /-- What is wanted of the result; nothing said means all of it. -/
  only : List Selector := []
  /-- The result is left out of the answer. -/
  hidden : Bool := false
  /-- A failure of the call does not fail the query. -/
  ignoreErrors : Bool := false
  directives : Directives := {}

namespace Statement

/-- The identity of the statement's result. -/
def id (statement : Statement) : ResourceId :=
  match statement.calledAs with
  | some name => if name.isEmpty then statement.resource else name
  | none => statement.resource

/-- The names of the parameters that hold an empty chained value, in the order of declaration. -/
def missingParameters (statement : Statement) : List String :=
  (statement.parameters.filter fun parameter => parameter.2.holdsEmpty).map Prod.fst

/-- The parameters that an object writes, in the order of its members. -/
def decodeParameters (value : Json) : Decoded (List (String × Parameter)) :=
  Json.decodeMembers (fun member => .ok (Parameter.ofJson member)) value

/-- The shape of a statement. -/
def shape : RecordShape where
  name := "Statement"
  fields := ["resource", "alias", "with", "only", "hidden", "ignoreErrors", "cacheControl"]
  required := ["resource"]

/-- Sets one part of the statement by its member. -/
def set (statement : Statement) (field : String) (value : Json) : Decoded Statement := do
  match field with
  | "resource" => return { statement with resource := ← value.decodeText }
  | "alias" => return { statement with calledAs := ← Json.decodeOption Json.decodeText value }
  | "with" => return { statement with parameters := ← decodeParameters value }
  | "only" => return { statement with only := ← Json.decodeList Selector.decode value }
  | "hidden" => return { statement with hidden := ← value.decodeBool }
  | "ignoreErrors" => return { statement with ignoreErrors := ← value.decodeBool }
  | "cacheControl" =>
    return { statement with
      directives := ← (Directives.shape "StatementCacheControl").decode {} Directives.set value }
  | _ => return statement

/-- The statement that a JSON value writes. -/
def decode (value : Json) : Decoded Statement :=
  shape.decode { resource := "" } set value

/-- The text for diagnostics. -/
def dump (statement : Statement) : String :=
  Text.Dump.record "Statement"
    [("resource", Text.Dump.quoted statement.resource),
      ("alias", Text.Dump.option (statement.calledAs.map Text.Dump.quoted)),
      ("with", Text.Dump.list (statement.parameters.map fun parameter =>
        "(" ++ Text.Dump.commaList [Text.Dump.quoted parameter.1, parameter.2.dump] ++ ")")),
      ("only", Text.Dump.list (statement.only.map Selector.dump)),
      ("hidden", Text.Dump.bool statement.hidden),
      ("ignore_errors", Text.Dump.bool statement.ignoreErrors),
      ("cache_control", Text.Dump.record "StatementCacheControl"
        [("max_age", Text.Dump.option (statement.directives.maxAge.map Json.dump)),
          ("s_max_age", Text.Dump.option (statement.directives.sharedMaxAge.map Json.dump))])]

end Statement

/-- A query, by its statements in the order of declaration. -/
structure Query where
  statements : List Statement := []

namespace Query

/-- The shape of a query. -/
def shape : RecordShape := ⟨"Query", ["statements"], ["statements"]⟩

/-- Sets the statements by their member. -/
def set (query : Query) (field : String) (value : Json) : Decoded Query := do
  match field with
  | "statements" => return { statements := ← Json.decodeList Statement.decode value }
  | _ => return query

/-- The query that a JSON value writes. -/
def decode (value : Json) : Decoded Query :=
  shape.decode {} set value

end Query

end Gateway
