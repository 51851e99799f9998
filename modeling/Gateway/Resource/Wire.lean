/-
This file writes results as JSON and reads them back. A body is written as the value that it holds,
so octets come back as a value; a statement that was not answered is written as null, which is no
result and does not come back.
-/

import Gateway.Resource.Basic

namespace Gateway

namespace Details

/-- The details as JSON. An empty cache policy and a missing snapshot are left out. -/
def toJson (details : Details) : Json :=
  .object
    ([("status", Json.ofUInt16 details.status), ("success", .bool details.success),
      ("ignoreErrors", .bool details.ignoreErrors)] ++
      (details.cachePolicy.nonempty?.map fun policy => ("cacheControl", policy.toJson)).toList ++
      (details.snapshot.map fun snapshot => ("debug", snapshot.toJson)).toList)

/-- The shape of details. -/
def shape : RecordShape where
  name := "Details"
  fields := ["status", "success", "ignoreErrors", "cacheControl", "debug"]
  required := ["status", "success"]

/-- Sets one part of the details by its member. -/
def set (details : Details) (field : String) (value : Json) : Decoded Details := do
  match field with
  | "status" => return { details with status := ← value.decodeUInt16 }
  | "success" => return { details with success := ← value.decodeBool }
  | "ignoreErrors" => return { details with ignoreErrors := ← value.decodeBool }
  | "cacheControl" => return { details with cachePolicy := ← CachePolicy.decode value }
  | "debug" => return { details with snapshot := ← Json.decodeOption Snapshot.decode value }
  | _ => return details

/-- The details that a JSON value writes. -/
def decode (value : Json) : Decoded Details :=
  shape.decode { status := 0, success := false } set value

end Details

namespace Record

/-- The record as JSON. -/
def toJson (result : Record) : Json :=
  .object [("details", result.details.toJson), ("result", result.body.content)]

/-- The shape of a record. -/
def shape : RecordShape := ⟨"DoneResource", ["details", "result"], ["details"]⟩

/-- Sets one part of the record by its member. -/
def set (result : Record) (field : String) (value : Json) : Decoded Record := do
  match field with
  | "details" => return { result with details := ← Details.decode value }
  | "result" => return { result with body := .value value }
  | _ => return result

/-- The record that a JSON value writes. -/
def decode (value : Json) : Decoded Record :=
  shape.decode { details := { status := 0, success := false } } set value

end Record

namespace Resource

/-- The entry as JSON. -/
def toJson : Resource → Json
  | .done result => result.toJson
  | .multiplexed items => .array (itemsToJson items)
  | .pending _ => .null
where
  itemsToJson : List Resource → List Json
    | [] => []
    | item :: rest => item.toJson :: itemsToJson rest

/-- The entry that a JSON value writes: a record, or a list of entries. -/
def decode : Json → Decoded Resource
  | .array items => (decodeItems items).map .multiplexed
  | .object members =>
    match Record.decode (.object members) with
    | .ok result => .ok (.done result)
    | .error reason => .error (.notAResult reason.message)
  | other => .error (.notAResult other.render)
where
  decodeItems : List Json → Decoded (List Resource)
    | [] => .ok []
    | item :: rest =>
      match decode item with
      | .error reason => .error reason
      | .ok entry => (decodeItems rest).map (entry :: ·)

end Resource

namespace Resources

/-- The entries as JSON, in ascending order of identities. -/
def toJson (resources : Resources) : Json :=
  .object (resources.entries.map fun entry => (entry.1, entry.2.toJson))

/-- The entries that a JSON value writes. -/
def decode (value : Json) : Decoded Resources :=
  Json.decodeDictionary Resource.decode value

end Resources

end Gateway
