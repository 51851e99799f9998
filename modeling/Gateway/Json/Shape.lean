/-
This file decodes JSON values into values of a fixed shape, and says what is wrong with a value
that does not have the shape. A record is read from an object, member by member in their order, or
from an array that lists its fields in the order of their declaration. The first member with a
wrong value decides the error; a field that is missing is noticed after all members were read.
-/

import Gateway.Dictionary
import Gateway.Json.Printer
import Gateway.Text.Dump

namespace Gateway

/-- What was found in a place where something else was expected. -/
inductive Found
  | null
  | bool (value : Bool)
  | number (value : Number)
  | text (value : String)
  | sequence
  | map
  deriving DecidableEq

namespace Found

/-- What a value is found to be. -/
def ofJson : Json → Found
  | .null => .null
  | .bool value => .bool value
  | .number value => .number value
  | .text value => .text value
  | .array _ => .sequence
  | .object _ => .map

/-- The words for what was found. -/
def phrase : Found → String
  | .null => "null"
  | .bool value => "boolean `" ++ Text.Dump.bool value ++ "`"
  | .number (.integer value fits) =>
    "integer `" ++ String.ofList (Number.integer value fits).chars ++ "`"
  | .number (.real value) => "floating point `" ++ String.ofList value.text ++ "`"
  | .text value => "string " ++ Text.Dump.quoted value
  | .sequence => "sequence"
  | .map => "map"

end Found

/-- Why a value does not have the expected shape. -/
inductive ShapeError
  /-- A value of another kind than the expected one. -/
  | wrongKind (found : Found) (expected : String)
  /-- A value of the right kind that is out of bounds. -/
  | wrongValue (found : Found) (expected : String)
  /-- A sequence that is too short or too long. -/
  | wrongLength (length : Nat) (expected : String)
  | missingField (name : String)
  | duplicateField (name : String)
  /-- A value that none of the forms of the named type accepts. -/
  | noForm (name : String)
  /-- A value that is no result of a resource, and why. -/
  | notAResult (reason : String)
  deriving DecidableEq

/-- The words for the error. -/
def ShapeError.message : ShapeError → String
  | .wrongKind found expected => "invalid type: " ++ found.phrase ++ ", expected " ++ expected
  | .wrongValue found expected => "invalid value: " ++ found.phrase ++ ", expected " ++ expected
  | .wrongLength length expected =>
    "invalid length " ++ toString length ++ ", expected " ++ expected
  | .missingField name => "missing field `" ++ name ++ "`"
  | .duplicateField name => "duplicate field `" ++ name ++ "`"
  | .noForm name => "data did not match any variant of untagged enum " ++ name
  | .notAResult reason => "invalid resource result: " ++ reason

/-- The outcome of decoding. -/
abbrev Decoded (α : Type) := Except ShapeError α

namespace Json

/-- The error of a value that is of another kind than the expected one. -/
def unexpected (value : Json) (expected : String) : ShapeError :=
  .wrongKind (.ofJson value) expected

/-- A boolean. -/
def decodeBool : Json → Decoded Bool
  | .bool value => .ok value
  | other => .error (other.unexpected "a boolean")

/-- A text. -/
def decodeText : Json → Decoded String
  | .text value => .ok value
  | other => .error (other.unexpected "a string")

/-- An integer from `low` on and below `high`, where `name` names the type. -/
def decodeInteger (low high : Int) (name : String) : Json → Decoded Int
  | .number (.integer value fits) =>
    if low ≤ value ∧ value < high then .ok value
    else .error (.wrongValue (.number (.integer value fits)) name)
  | other => .error (other.unexpected name)

/-- An unsigned integer of 16 bits. -/
def decodeUInt16 (value : Json) : Decoded UInt16 :=
  (decodeInteger 0 0x10000 "u16" value).map fun integer => UInt16.ofNat integer.toNat

/-- An unsigned integer of 64 bits. -/
def decodeUInt64 (value : Json) : Decoded UInt64 :=
  (decodeInteger 0 0x10000000000000000 "u64" value).map fun integer => UInt64.ofNat integer.toNat

/-- A signed integer of 64 bits. -/
def decodeInt64 (value : Json) : Decoded Int64 :=
  (decodeInteger (-0x8000000000000000) 0x8000000000000000 "i64" value).map Int64.ofInt

/-- A value that null leaves out. -/
def decodeOption {α : Type} (decode : Json → Decoded α) : Json → Decoded (Option α)
  | .null => .ok none
  | value => (decode value).map some

/-- The items of an array, decoded in their order. -/
def decodeList {α : Type} (decode : Json → Decoded α) : Json → Decoded (List α)
  | .array items => items.mapM decode
  | other => .error (other.unexpected "a sequence")

/-- The members of an object in their order, with their values decoded. -/
def decodeMembers {α : Type} (decode : Json → Decoded α) : Json → Decoded (List (String × α))
  | .object members =>
    members.mapM fun member => (decode member.2).map fun value => (member.1, value)
  | other => .error (other.unexpected "a map")

/-- The members of an object, decoded in their order and then kept by their names. -/
def decodeDictionary {α : Type} (decode : Json → Decoded α) (value : Json) :
    Decoded (Dictionary α) :=
  (decodeMembers decode value).map Dictionary.ofList

end Json

/-- The shape of a record: its name, its fields in the order of their declaration, and those that
must be there. -/
structure RecordShape where
  name : String
  fields : List String
  required : List String

namespace RecordShape

/-- The words for a value of the shape. -/
def phrase (shape : RecordShape) : String :=
  "struct " ++ shape.name

/-- The words for a sequence that holds all fields of the shape. -/
def sequencePhrase (shape : RecordShape) : String :=
  shape.phrase ++ " with " ++ toString shape.fields.length ++
    if shape.fields.length = 1 then " element" else " elements"

/-- The fields that a value gives, with their values, in the order in which they are read. -/
def given (shape : RecordShape) : Json → Decoded (List (String × Json))
  | .object members => .ok (members.filter fun member => shape.fields.contains member.1)
  | .array items => .ok (shape.fields.zip items)
  | other => .error (other.unexpected shape.phrase)

/-- The error of a value that lacks a field: by its name, or by its place. -/
def absent (shape : RecordShape) (field : String) : Json → ShapeError
  | .array _ => .wrongLength (shape.fields.idxOf field) shape.sequencePhrase
  | _ => .missingField field

/-- The error of a sequence that goes on behind the last field. -/
def excess (shape : RecordShape) : Json → Option ShapeError
  | .array items =>
    if shape.fields.length < items.length then
      some (.wrongLength items.length "fewer elements in array")
    else none
  | _ => none

/-- Reads a record: sets the given fields one after the other, starting from a record with the
default of every field, then looks for missing fields and for a sequence that is too long. -/
def decode {α : Type} (shape : RecordShape) (defaults : α)
    (set : α → String → Json → Decoded α) (value : Json) : Decoded α := do
  let members ← shape.given value
  let record ← members.foldlM (fun record member => set record member.1 member.2) defaults
  match shape.required.find? fun field => !(members.map Prod.fst).contains field with
  | some field => throw (shape.absent field value)
  | none =>
    match shape.excess value with
    | some error => throw error
    | none => return record

end RecordShape

end Gateway
