/-
This file lays out values for diagnostics: a name with its fields in braces, a name with its
content in parentheses, lists, maps, and quoted text. Diagnostics quote a text so that every
character in it can be seen: what does not print, or would attach itself to the character before
it, is written by its number.
-/

import Gateway.Unicode.Recent

namespace Gateway.Text

open Unicode (CharSet)

/-- The characters that diagnostics write by their numbers: those without a shape of their own,
blanks other than the space, and those that extend the character before them. Two voicing marks
that stand in a place of their own are not among them. -/
def hiddenCharacters : CharSet :=
  let shapeless := CharSet.unions
    (["Cc", "Cf", "Cs", "Co", "Cn", "Zl", "Zp", "Zs"].map Unicode.category)
  let extending := CharSet.unions
    (["graphemeextend", "defaultignorablecodepoint"].filterMap Unicode.propertyNamed?)
  let shown := CharSet.unions
    [Unicode.recentShapes, CharSet.singleton ' ', CharSet.interval 0xFF9E 0xFF9F]
  (shapeless.union extending).difference shown

namespace Dump

/-- A character between the quotes of a quoted text. -/
def escape (character : Char) : String :=
  match character with
  | '\x00' => "\\0"
  | '\t' => "\\t"
  | '\r' => "\\r"
  | '\n' => "\\n"
  | '"' => "\\\""
  | '\\' => "\\\\"
  | _ =>
    if hiddenCharacters.contains character then
      "\\u\x7b" ++ String.ofList (Nat.toDigits 16 character.toNat) ++ "\x7d"
    else String.singleton character

/-- A text in quotes. -/
def quoted (text : String) : String :=
  "\"" ++ String.join (text.toList.map escape) ++ "\""

/-- Parts with commas between them. -/
def commaList (parts : List String) : String :=
  ", ".intercalate parts

/-- A list of values. -/
def list (items : List String) : String :=
  "[" ++ commaList items ++ "]"

/-- A map, given its keys and its values. -/
def map (entries : List (String × String)) : String :=
  "\x7b" ++ commaList (entries.map fun entry => quoted entry.1 ++ ": " ++ entry.2) ++ "\x7d"

/-- A name with its content. -/
def wrap (name content : String) : String :=
  name ++ "(" ++ content ++ ")"

/-- A name with its fields. -/
def record (name : String) (fields : List (String × String)) : String :=
  name ++ " \x7b " ++ commaList (fields.map fun field => field.1 ++ ": " ++ field.2) ++ " \x7d"

/-- A value that may be absent. -/
def option (content : Option String) : String :=
  match content with
  | none => "None"
  | some value => wrap "Some" value

/-- A yes or no. -/
def bool (value : Bool) : String :=
  if value then "true" else "false"

end Dump

end Gateway.Text
