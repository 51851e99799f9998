/-
This file names sets of characters the way patterns do: by a letter behind a backslash, by a name
between colons in brackets, and by a Unicode category, script or property.
-/

import Gateway.Text.Blank
import Gateway.Unicode.Age
import Gateway.Unicode.Folding
import Gateway.Unicode.Script
import Gateway.Unicode.Segmentation

namespace Gateway.Classes

open Unicode (CharSet)

/-- The characters of words in ASCII. -/
def asciiWord : CharSet :=
  CharSet.ofRanges [(0x30, 0x39), (0x41, 0x5A), (0x5F, 0x5F), (0x61, 0x7A)]

/-- The characters of ASCII. -/
def ascii : CharSet := CharSet.interval 0 0x7F

/-- A set by its letter: decimal digits, white space or the characters of words, in all scripts or
in ASCII. An uppercase letter names the rest. -/
def ofLetter (unicode : Bool) (letter : Char) : CharSet :=
  let named := match letter.toLower with
    | 'd' => if unicode then Unicode.category "Nd" else CharSet.interval 0x30 0x39
    | 's' =>
      if unicode then CharSet.ofRanges Text.whiteSpaceRanges
      else CharSet.ofRanges [(0x09, 0x0D), (0x20, 0x20)]
    | _ => if unicode then Unicode.wordCharacters else asciiWord
  if letter.isUpper then named.complement else named

/-- The sets of ASCII that have a name between colons. -/
def asciiNames : List (String × CharSet) :=
  [("alnum", CharSet.ofRanges [(0x30, 0x39), (0x41, 0x5A), (0x61, 0x7A)]),
    ("alpha", CharSet.ofRanges [(0x41, 0x5A), (0x61, 0x7A)]),
    ("ascii", ascii),
    ("blank", CharSet.ofRanges [(0x09, 0x09), (0x20, 0x20)]),
    ("cntrl", CharSet.ofRanges [(0x00, 0x1F), (0x7F, 0x7F)]),
    ("digit", CharSet.interval 0x30 0x39),
    ("graph", CharSet.interval 0x21 0x7E),
    ("lower", CharSet.interval 0x61 0x7A),
    ("print", CharSet.interval 0x20 0x7E),
    ("punct", CharSet.ofRanges [(0x21, 0x2F), (0x3A, 0x40), (0x5B, 0x60), (0x7B, 0x7E)]),
    ("space", CharSet.ofRanges [(0x09, 0x0D), (0x20, 0x20)]),
    ("upper", CharSet.interval 0x41 0x5A),
    ("word", asciiWord),
    ("xdigit", CharSet.ofRanges [(0x30, 0x39), (0x41, 0x46), (0x61, 0x66)])]

/-- A name without blanks, hyphens, underscores and characters beyond ASCII, in lower case and
without a leading `is`. The name `isc` stands for the category `c` only where it is written so. -/
def normalName (name : List Char) : String :=
  let plain (rest : List Char) : List Char :=
    (rest.filter fun character =>
      character != ' ' && character != '_' && character != '-' && character.toNat < 0x80).map
      Char.toLower
  match name with
  | first :: second :: rest =>
    if (first = 'i' ∨ first = 'I') ∧ (second = 's' ∨ second = 'S') then
      if plain rest = ['c'] then "isc" else String.ofList (plain rest)
    else String.ofList (plain name)
  | _ => String.ofList (plain name)

/-- A general category by its name. Three more names cover everything, everything that is
assigned, and ASCII; the category of surrogates holds no characters and has no set. -/
def categoryNamed? (name : String) : Option CharSet :=
  match name with
  | "cs" | "surrogate" => none
  | "any" => some CharSet.full
  | "assigned" => some (Unicode.category "Cn").complement
  | "ascii" => some ascii
  | _ => Unicode.categoryNamed? name

/-- The names that belong to categories although a property has them too. -/
def reservedForCategories : List String := ["cf", "sc", "lc"]

/-- A set by a name alone: a property, a category or a script. -/
def named? (name : List Char) : Option CharSet :=
  let normal := normalName name
  let property :=
    if reservedForCategories.contains normal then none else Unicode.propertyNamed? normal
  match property with
  | some set => some set
  | none =>
    match categoryNamed? normal with
    | some set => some set
    | none => (Unicode.scriptNamed? normal).map Unicode.Script.set

/-- A set by the name of an aspect of characters and one of its values. -/
def valued? (aspect value : List Char) : Option CharSet :=
  let wanted := normalName value
  match normalName aspect with
  | "gc" | "generalcategory" => categoryNamed? wanted
  | "sc" | "script" => (Unicode.scriptNamed? wanted).map Unicode.Script.set
  | "scx" | "scriptextensions" =>
    (Unicode.scriptNamed? wanted).map Unicode.Script.extendedSet
  | "age" => Unicode.assignedBy? wanted
  | "gcb" | "graphemeclusterbreak" => Unicode.Property.named? wanted Unicode.clusterValues
  | "wb" | "wordbreak" => Unicode.Property.named? wanted Unicode.wordValues
  | "sb" | "sentencebreak" => Unicode.Property.named? wanted Unicode.sentenceValues
  | _ => none

/-- The characters before and behind the first place where one of the separators stands. -/
def splitAt? (separator : List Char) : List Char → Option (List Char × List Char)
  | [] => none
  | character :: rest =>
    if separator.isPrefixOf (character :: rest) then
      some ([], (character :: rest).drop separator.length)
    else (splitAt? separator rest).map fun parts => (character :: parts.1, parts.2)

/-- The set that stands between braces, a name or an aspect and a value of it, and whether a sign
between aspect and value asks for the rest. -/
def braced? (content : List Char) : Option (CharSet × Bool) :=
  match splitAt? ['!', '='] content with
  | some (aspect, value) => (valued? aspect value).map fun set => (set, true)
  | none =>
    match splitAt? [':'] content with
    | some (aspect, value) => (valued? aspect value).map fun set => (set, false)
    | none =>
      match splitAt? ['='] content with
      | some (aspect, value) => (valued? aspect value).map fun set => (set, false)
      | none => (named? content).map fun set => (set, false)

end Gateway.Classes
