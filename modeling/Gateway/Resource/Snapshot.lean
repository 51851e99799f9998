/-
This file defines snapshots: what is kept of an exchange for a query that asks for debug output.
The maps of a snapshot have no order of their own and are written in ascending order of names.
-/

import Gateway.Json.Dump
import Gateway.Json.Shape

namespace Gateway

namespace Dictionary

/-- A dictionary of values as JSON. -/
def toJson (dictionary : Dictionary Json) : Json :=
  .object dictionary.entries

/-- A dictionary of texts as JSON. -/
def textsToJson (dictionary : Dictionary String) : Json :=
  .object (dictionary.entries.map fun entry => (entry.1, .text entry.2))

end Dictionary

/-- The request and the response of one call. -/
structure Snapshot where
  method : String
  url : String
  parameters : Dictionary Json := Dictionary.empty
  requestBody : Option Json := none
  requestHeaders : Dictionary String := Dictionary.empty
  responseHeaders : Dictionary String := Dictionary.empty
  /-- In milliseconds. -/
  responseTime : UInt64 := 0

namespace Snapshot

/-- The snapshot as JSON. A request without a body leaves it out. -/
def toJson (snapshot : Snapshot) : Json :=
  .object
    ([("method", .text snapshot.method), ("url", .text snapshot.url),
      ("queryParams", snapshot.parameters.toJson)] ++
      (snapshot.requestBody.map fun body => ("requestBody", body)).toList ++
      [("requestHeaders", snapshot.requestHeaders.textsToJson),
        ("responseHeaders", snapshot.responseHeaders.textsToJson),
        ("responseTimeMillis", Json.ofUInt64 snapshot.responseTime)])

/-- The shape of a snapshot. -/
def shape : RecordShape where
  name := "Debugging"
  fields := ["method", "url", "queryParams", "requestBody", "requestHeaders", "responseHeaders",
    "responseTimeMillis"]
  required := ["method", "url"]

/-- Sets one part of the snapshot by its member. -/
def set (snapshot : Snapshot) (field : String) (value : Json) : Decoded Snapshot := do
  match field with
  | "method" => return { snapshot with method := ← value.decodeText }
  | "url" => return { snapshot with url := ← value.decodeText }
  | "queryParams" => return { snapshot with parameters := ← Json.decodeDictionary .ok value }
  | "requestBody" => return { snapshot with requestBody := ← Json.decodeOption .ok value }
  | "requestHeaders" =>
    return { snapshot with requestHeaders := ← Json.decodeDictionary Json.decodeText value }
  | "responseHeaders" =>
    return { snapshot with responseHeaders := ← Json.decodeDictionary Json.decodeText value }
  | "responseTimeMillis" => return { snapshot with responseTime := ← value.decodeUInt64 }
  | _ => return snapshot

/-- The snapshot that a JSON value writes. -/
def decode (value : Json) : Decoded Snapshot :=
  shape.decode { method := "", url := "" } set value

/-- Whether two snapshots hold the same content. -/
def sameContent (first second : Snapshot) : Bool :=
  first.method == second.method && first.url == second.url &&
    first.parameters.toJson.sameContent second.parameters.toJson &&
    (match first.requestBody, second.requestBody with
      | some body, some other => body.sameContent other
      | none, none => true
      | _, _ => false) &&
    first.requestHeaders.entries == second.requestHeaders.entries &&
    first.responseHeaders.entries == second.responseHeaders.entries &&
    first.responseTime == second.responseTime

/-- The text of a dictionary of texts for diagnostics. -/
def dumpTexts (dictionary : Dictionary String) : String :=
  Text.Dump.map (dictionary.entries.map fun entry => (entry.1, Text.Dump.quoted entry.2))

/-- The text for diagnostics. -/
def dump (snapshot : Snapshot) : String :=
  Text.Dump.record "Debugging"
    [("method", Text.Dump.quoted snapshot.method),
      ("url", Text.Dump.quoted snapshot.url),
      ("params", Text.Dump.map (snapshot.parameters.entries.map fun entry =>
        (entry.1, entry.2.dump))),
      ("request_body", Text.Dump.option (snapshot.requestBody.map Json.dump)),
      ("request_headers", dumpTexts snapshot.requestHeaders),
      ("response_headers", dumpTexts snapshot.responseHeaders),
      ("response_time", String.ofList (Decimal.naturalText snapshot.responseTime.toNat))]

end Snapshot

end Gateway
