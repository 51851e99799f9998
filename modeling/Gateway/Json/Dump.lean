/-
This file writes JSON values for diagnostics, where every value is marked with its kind.
-/

import Gateway.Json.Printer
import Gateway.Text.Dump

namespace Gateway.Json

/-- The text for diagnostics. -/
def dump : Json → String
  | .null => "Null"
  | .bool value => Text.Dump.wrap "Bool" (Text.Dump.bool value)
  | .number value => Text.Dump.wrap "Number" (String.ofList value.chars)
  | .text value => Text.Dump.wrap "String" (Text.Dump.quoted value)
  | .array items => "Array " ++ Text.Dump.list (itemDumps items)
  | .object members => "Object " ++ Text.Dump.map (memberDumps members)
where
  itemDumps : List Json → List String
    | [] => []
    | item :: rest => item.dump :: itemDumps rest
  memberDumps : List (String × Json) → List (String × String)
    | [] => []
    | (key, value) :: rest => (key, value.dump) :: memberDumps rest

end Gateway.Json
