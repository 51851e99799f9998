/-
This file reads JSON values from tokens. While a value is awaited, the containers around it stand
on a stack, the innermost first, each with what was read of it, so reading is one pass over the
tokens and the height of the stack is the depth of nesting. A member that is named again keeps its
first place and takes its last value. A text is a value when its tokens are one value and no more.
-/

import Gateway.Json.Members
import Gateway.Json.Token
import Gateway.Text.Utf8

namespace Gateway

namespace Reading

/-- A container that awaits a value. -/
inductive Frame
  /-- An array and its items so far, the last one first. -/
  | item (reversed : List Json)
  /-- An object, its members so far, and the key of the value. -/
  | member (members : Members) (key : String)

/-- What may come next. -/
inductive Stage
  | value
  /-- The first item of an array, or its end. -/
  | itemOrEnd
  /-- A comma or the end of an array with these items, the last one first. -/
  | afterItem (reversed : List Json)
  /-- The first key of an object, or its end. -/
  | keyOrEnd
  /-- A key of an object with these members. -/
  | key (members : Members)
  /-- The colon behind a key. -/
  | colon (members : Members) (key : String)
  /-- A comma or the end of an object with these members. -/
  | afterMember (members : Members)

/-- What a token leads to. -/
inductive Progress
  | refused
  | reading (stage : Stage) (stack : List Frame)
  | finished (value : Json)

/-- A value is handed to the container that awaits it, and ends the reading where none does. -/
def deliver (value : Json) : List Frame → Progress
  | [] => .finished value
  | .item reversed :: stack => .reading (.afterItem (value :: reversed)) stack
  | .member members key :: stack => .reading (.afterMember (members.insert key value)) stack

/-- The first token of a value. At most `room` containers may be open at once. -/
def beginValue (room : Nat) (stack : List Frame) : Token → Progress
  | .null => deliver .null stack
  | .bool value => deliver (.bool value) stack
  | .numeral numeral =>
    match numeral.number? with
    | some number => deliver (.number number) stack
    | none => .refused
  | .text units =>
    match TextUnit.text? units with
    | some text => deliver (.text text) stack
    | none => .refused
  | .openArray => if stack.length < room then .reading .itemOrEnd stack else .refused
  | .openObject => if stack.length < room then .reading .keyOrEnd stack else .refused
  | _ => .refused

/-- The key of a member of an object. -/
def beginMember (members : Members) (stack : List Frame) : Token → Progress
  | .text units =>
    match TextUnit.text? units with
    | some key => .reading (.colon members key) stack
    | none => .refused
  | _ => .refused

/-- One token more. -/
def step (room : Nat) (stack : List Frame) : Stage → Token → Progress
  | .value, token => beginValue room stack token
  | .itemOrEnd, .closeArray => deliver (.array []) stack
  | .itemOrEnd, token => beginValue room (.item [] :: stack) token
  | .afterItem reversed, .comma => .reading .value (.item reversed :: stack)
  | .afterItem reversed, .closeArray => deliver (.array reversed.reverse) stack
  | .keyOrEnd, .closeObject => deliver (.object []) stack
  | .keyOrEnd, token => beginMember [] stack token
  | .key members, token => beginMember members stack token
  | .colon members key, .colon => .reading .value (.member members key :: stack)
  | .afterMember members, .comma => .reading (.key members) stack
  | .afterMember members, .closeObject => deliver (.object members) stack
  | _, _ => .refused

/-- Reads the tokens until a value is finished, and gives it with the tokens behind it. -/
def run (room : Nat) (stage : Stage) (stack : List Frame) : List Token → Option (Json × List Token)
  | [] => none
  | token :: rest =>
    match step room stack stage token with
    | .refused => none
    | .reading next inside => run room next inside rest
    | .finished value => some (value, rest)

end Reading

namespace Json

/-- How deep a text may nest its containers. -/
def nestingLimit : Nat := 127

/-- The value at the front of the tokens and the tokens behind it. -/
def ofTokens? (room : Nat) (input : List Token) : Option (Json × List Token) :=
  Reading.run room .value [] input

/-- The value of a text that is one value and no more. -/
def ofText? (text : String) : Option Json :=
  match ofTokens? nestingLimit (tokens text.toList) with
  | some (value, []) => some value
  | _ => none

/-- The value of octets that spell such a text. -/
def ofOctets? (octets : List UInt8) : Option Json := do
  ofText? (← Text.ofUtf8? octets)

end Json

end Gateway
