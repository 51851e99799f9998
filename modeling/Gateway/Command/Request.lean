/-
This file reads the requests of commands. A request is the first line of the input: what follows its
line feed does not count. Its line must be UTF-8, hold more than white space, and be one JSON text.
-/

import Gateway.Command.Error
import Gateway.Exchange
import Gateway.Record.Options
import Gateway.Resource.Wire

namespace Gateway

namespace RequestLine

/-- The octet that ends a line. -/
def lineFeed : UInt8 := 0x0A

/-- The octets up to the first line feed, and the line feed if there is one. -/
def firstLine : List UInt8 → List UInt8
  | [] => []
  | octet :: rest => if octet = lineFeed then [octet] else octet :: firstLine rest

/-- The words for octets that are not UTF-8. -/
def notUtf8 : String := "stream did not contain valid UTF-8"

/-- The request on the first line of the input. -/
def read [LibraryReports] (input : List UInt8) : Except CommandError Json :=
  match Text.ofUtf8? (firstLine input) with
  | none => .error ⟨.io, notUtf8⟩
  | some line =>
    if line.toList.all Text.isWhiteSpace then .error ⟨.io, "Empty input"⟩
    else
      match Json.ofText? line with
      | none => .error ⟨.io, withReason "JSON error" (LibraryReports.request line)⟩
      | some request => .ok request

end RequestLine

/-- The request to filter the results of a query. -/
structure FilterRequest where
  query : Query := {}
  resources : Resources := Dictionary.empty

namespace FilterRequest

/-- The shape of a request to filter. -/
def shape : RecordShape := ⟨"FilterRequest", ["query", "resources"], ["query"]⟩

/-- Sets one part of the request by its member. -/
def set (request : FilterRequest) (field : String) (value : Json) : Decoded FilterRequest := do
  match field with
  | "query" => return { request with query := ← Query.decode value }
  | "resources" => return { request with resources := ← Resources.decode value }
  | _ => return request

/-- The request that a JSON value writes. -/
def decode (value : Json) : Decoded FilterRequest :=
  shape.decode {} set value

end FilterRequest

namespace Response

/-- The shape of a response. -/
def shape : RecordShape :=
  ⟨"ResponseInput", ["statusCode", "url", "headers", "body", "durationMs"], []⟩

/-- Sets one part of a response by its member. -/
def set (response : Response) (field : String) (value : Json) : Decoded Response := do
  match field with
  | "statusCode" => return { response with status := ← value.decodeUInt16 }
  | "url" => return { response with url := ← value.decodeText }
  | "headers" => return { response with headers := ← Json.decodeMembers Json.decodeText value }
  | "body" => return { response with body := .value value }
  | "durationMs" => return { response with duration := (← value.decodeUInt64).toNat * 1000 }
  | _ => return response

/-- The response that a JSON value writes. -/
def decode (value : Json) : Decoded Response :=
  shape.decode {} set value

end Response

/-- The request to make the record of a call. -/
structure AssembleRequest where
  statement : Statement := { resource := "" }
  context : QueryInput := {}
  request : Request := {}
  response : Response := {}
  /-- Why the transport failed, if it did. -/
  error : Option String := none

namespace AssembleRequest

/-- The shape of a request for a record. -/
def shape : RecordShape :=
  ⟨"AssembleRequest", ["statement", "context", "request", "response", "error"], ["statement"]⟩

/-- Sets one part of the request by its member. -/
def set (request : AssembleRequest) (field : String) (value : Json) : Decoded AssembleRequest := do
  match field with
  | "statement" => return { request with statement := ← Statement.decode value }
  | "context" => return { request with context := ← QueryInput.decode value }
  | "request" => return { request with request := ← Request.decode value }
  | "response" => return { request with response := ← Response.decode value }
  | "error" => return { request with error := ← Json.decodeOption Json.decodeText value }
  | _ => return request

/-- The request that a JSON value writes. -/
def decode (value : Json) : Decoded AssembleRequest :=
  shape.decode {} set value

end AssembleRequest

end Gateway
