/-
This file writes a JSON value as compact text: members in their order, no blanks, and only the
quote, the backslash and the control characters below the space escaped.
-/

import Gateway.Json.Basic
import Gateway.Text.Quoted

namespace Gateway

open Text (QuotingStyle)

/-- The text of a number. -/
def Number.chars : Number → List Char
  | .integer value _ => Decimal.integerText value
  | .real value => value.text

namespace Json

/-- The characters of a value's text. -/
def chars : Json → List Char
  | .null => ['n', 'u', 'l', 'l']
  | .bool true => ['t', 'r', 'u', 'e']
  | .bool false => ['f', 'a', 'l', 's', 'e']
  | .number value => value.chars
  | .text value => QuotingStyle.json.quote value
  | .array [] => ['[', ']']
  | .array (item :: rest) => '[' :: (item.chars ++ itemsChars rest)
  | .object [] => ['\x7b', '\x7d']
  | .object ((key, value) :: rest) =>
    '\x7b' :: (QuotingStyle.json.quote key ++ ':' :: (value.chars ++ membersChars rest))
where
  /-- The items after the first, each behind a comma, and the closing bracket. -/
  itemsChars : List Json → List Char
    | [] => [']']
    | item :: rest => ',' :: (item.chars ++ itemsChars rest)
  /-- The members after the first, each behind a comma, and the closing brace. -/
  membersChars : List (String × Json) → List Char
    | [] => ['\x7d']
    | (key, value) :: rest =>
      ',' :: (QuotingStyle.json.quote key ++ ':' :: (value.chars ++ membersChars rest))

/-- The text of a value. -/
def render (value : Json) : String :=
  String.ofList value.chars

end Json

end Gateway
