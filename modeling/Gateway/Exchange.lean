/-
This file defines the two halves of a call, as the transport hands them over. The names of headers
are looked up without regard to the case of ASCII letters; of several names that differ in nothing
else the one that is visited first is taken.
-/

import Gateway.Json.Shape
import Gateway.Resource.Body

namespace Gateway

/-- The request of a call. -/
structure Request where
  method : String := ""
  url : String := ""
  parameters : Dictionary Json := Dictionary.empty
  body : Option Json := none
  headers : Dictionary String := Dictionary.empty

/-- The response of a call. -/
structure Response where
  status : UInt16 := 0
  /-- The final address, after redirects. -/
  url : String := ""
  /-- The headers in the order in which a look-up visits them. -/
  headers : List (String × String) := []
  body : Body := .value .null
  /-- How long the call took, in microseconds. -/
  duration : Nat := 0

namespace Request

/-- The shape of a request. -/
def shape : RecordShape where
  name := "HttpRequest"
  fields := ["method", "url", "query", "body", "headers"]
  required := ["method"]

/-- Sets one part of the request by its member. -/
def set (request : Request) (field : String) (value : Json) : Decoded Request := do
  match field with
  | "method" => return { request with method := ← value.decodeText }
  | "url" => return { request with url := ← value.decodeText }
  | "query" => return { request with parameters := ← Json.decodeDictionary .ok value }
  | "body" => return { request with body := ← Json.decodeOption .ok value }
  | "headers" => return { request with headers := ← Json.decodeDictionary Json.decodeText value }
  | _ => return request

/-- The request that a JSON value writes. -/
def decode (value : Json) : Decoded Request :=
  shape.decode {} set value

end Request

namespace Response

/-- Whether two names differ in nothing but the case of ASCII letters. -/
def sameName (first second : String) : Bool :=
  first.toList.map Char.toLower == second.toList.map Char.toLower

/-- The value of the first header of the name. -/
def lookUp (headers : List (String × String)) (name : String) : Option String :=
  (headers.find? fun header => sameName header.1 name).map Prod.snd

/-- The value of the header of the name. -/
def header (response : Response) (name : String) : Option String :=
  lookUp response.headers name

/-- The milliseconds that the call took, at most as many as 64 bits hold. -/
def milliseconds (response : Response) : UInt64 :=
  UInt64.ofNat (min (response.duration / 1000) 0xFFFFFFFFFFFFFFFF)

end Response

end Gateway
