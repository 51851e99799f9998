/-
This file defines the parameters of a call. A parameter that was chained to a result which gave
nothing usable is written as an object with a single marker member; it may stand inside other
values. A call whose parameters hold such a marker anywhere cannot be made.
-/

import Gateway.Dictionary
import Gateway.Json.Dump

namespace Gateway

/-- A parameter of a call. -/
inductive Parameter
  | value (content : Json)
  | list (items : List Parameter)
  /-- Parameters by name, in ascending order of names. -/
  | keyed (entries : List (String × Parameter))
  /-- A chained value whose source gave nothing. -/
  | emptyChained

namespace Parameter

/-- The name of the marker's only member. -/
def emptyChainedMarker : String := "$emptyChained"

/-- Whether the members are the marker of an empty chained value. -/
def isMarker : List (String × Json) → Bool
  | [(key, .bool true)] => key == emptyChainedMarker
  | _ => false

/-- The parameter that a JSON value writes. -/
def ofJson : Json → Parameter
  | .array items => .list (ofItems items)
  | .object members =>
    if isMarker members then .emptyChained else .keyed (ofMembers members)
  | scalar => .value scalar
where
  ofItems : List Json → List Parameter
    | [] => []
    | item :: rest => ofJson item :: ofItems rest
  /-- The entries of the members, each put where its order belongs. -/
  ofMembers : List (String × Json) → List (String × Parameter)
    | [] => []
    | (key, content) :: rest => Dictionary.insertEntry key (ofJson content) (ofMembers rest)

/-- Whether an empty chained value stands anywhere in the parameter. -/
def holdsEmpty : Parameter → Bool
  | .value _ => false
  | .list items => itemsHoldEmpty items
  | .keyed entries => entriesHoldEmpty entries
  | .emptyChained => true
where
  itemsHoldEmpty : List Parameter → Bool
    | [] => false
    | item :: rest => item.holdsEmpty || itemsHoldEmpty rest
  entriesHoldEmpty : List (String × Parameter) → Bool
    | [] => false
    | (_, parameter) :: rest => parameter.holdsEmpty || entriesHoldEmpty rest

/-- The text for diagnostics. -/
def dump : Parameter → String
  | .value content => Text.Dump.wrap "Value" content.dump
  | .list items => Text.Dump.wrap "List" (Text.Dump.list (itemDumps items))
  | .keyed entries => Text.Dump.wrap "Object" (Text.Dump.map (entryDumps entries))
  | .emptyChained => "EmptyChained"
where
  itemDumps : List Parameter → List String
    | [] => []
    | item :: rest => item.dump :: itemDumps rest
  entryDumps : List (String × Parameter) → List (String × String)
    | [] => []
    | (key, parameter) :: rest => (key, parameter.dump) :: entryDumps rest

end Parameter

end Gateway
