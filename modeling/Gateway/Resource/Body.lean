/-
This file defines the bodies of results. A body arrives as octets and is read only when a stage
looks inside it: blank octets hold null, octets that are JSON text hold its value, and all others
hold themselves as a text, with broken pieces replaced.
-/

import Gateway.Json.Dump
import Gateway.Json.Reader

namespace Gateway

/-- The body of a result. -/
inductive Body
  /-- The octets as they arrived. -/
  | raw (octets : List UInt8)
  /-- A value that was read or made. -/
  | value (content : Json)

namespace Body

instance : Inhabited Body := ⟨.value .null⟩

/-- The value that octets hold. -/
def contentOf (octets : List UInt8) : Json :=
  if octets.all Text.isBlankOctet then .null
  else
    match Json.ofOctets? octets with
    | some content => content
    | none => .text (Text.forgiving octets)

/-- The value that the body holds. -/
def content : Body → Json
  | .raw octets => contentOf octets
  | .value content => content

/-- Whether two bodies are equal: octets for octets, or values of the same content. A raw body
never equals a value. -/
def sameContent : Body → Body → Bool
  | .raw first, .raw second => first == second
  | .value first, .value second => first.sameContent second
  | _, _ => false

/-- The text for diagnostics. -/
def dump : Body → String
  | .raw octets =>
    Text.Dump.wrap "Raw"
      (Text.Dump.list (octets.map fun octet => String.ofList (Decimal.naturalText octet.toNat)))
  | .value content => Text.Dump.wrap "Value" content.dump

end Body

end Gateway
