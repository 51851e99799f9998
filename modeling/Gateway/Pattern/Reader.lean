/-
This file reads the text of a pattern as an expression. Flags change how the rest of a group is
read, so they travel with the reading; a group restores those that it started with. What is open,
a group or a bracket, stands on a stack, and every step consumes at least one character. Look-around
and references to earlier groups are no part of the language, and a text that uses them is refused.
-/

import Gateway.Pattern.Classes
import Gateway.Pattern.Machine
import Gateway.Text.Hexadecimal
import Gateway.Unicode.Recent

namespace Gateway.PatternReader

open Unicode (CharSet)

/-- How the characters of a pattern are read. -/
structure Flags where
  ignoreCase : Bool := false
  /-- The anchors hold at every line of the text. -/
  multiLine : Bool := false
  /-- The dot takes line feeds too. -/
  dotAll : Bool := false
  /-- A carriage return ends a line too. -/
  anyNewline : Bool := false
  /-- Classes and case speak of all scripts and not only of ASCII. -/
  unicode : Bool := true
  /-- Blanks and comments in the pattern mean nothing. -/
  spaced : Bool := false
  /-- Repetitions try less of their bodies first, unless a mark behind them asks for more. -/
  lazy : Bool := false
  deriving DecidableEq

/-- A set under the flags: closed under case where case is ignored, then negated on demand.
Without the scripts beyond ASCII a set must stay within ASCII. -/
def Flags.closeSet (flags : Flags) (negated : Bool) (set : CharSet) : Option CharSet :=
  let folded :=
    if flags.ignoreCase then
      if flags.unicode then set.foldCase else set.foldAsciiCase
    else set
  let final := if negated then folded.negated else folded
  if flags.unicode ∨ (final.ranges.all fun range => range.2 < 0x80) then some final else none

/-- One character of a set as an expression. -/
def Flags.set (flags : Flags) (characters : CharSet) : Expr :=
  .ofSet characters !flags.unicode

/-- A character as an expression. -/
def Flags.character (flags : Flags) (character : Char) : Expr :=
  let single := CharSet.singleton character
  flags.set
    (if flags.ignoreCase then
      if flags.unicode then single.foldCase else single.foldAsciiCase
    else single)

/-- The characters of words under the flags. -/
def Flags.words (flags : Flags) : CharSet :=
  if flags.unicode then Unicode.wordCharacters else Classes.asciiWord

/-- The dot, which would match broken characters without the scripts beyond ASCII. -/
def Flags.dot? (flags : Flags) : Option CharSet :=
  if !flags.unicode then none
  else if flags.dotAll then some CharSet.full
  else if flags.anyNewline then
    some (CharSet.ofRanges [(0x0A, 0x0A), (0x0D, 0x0D)]).complement
  else some (CharSet.singleton '\n').complement

/-! ### Blanks -/

/-- Skips blanks, and comments from a hash to the end of its line. -/
def skipBlanks (inComment : Bool) : List Char → List Char
  | [] => []
  | character :: rest =>
    if inComment then skipBlanks (character != '\n') rest
    else if character = '#' then skipBlanks true rest
    else if Text.isWhiteSpace character then skipBlanks false rest
    else character :: rest

/-- What is left to read when blanks mean nothing, or as it stands when they do. -/
def Flags.skip (flags : Flags) (input : List Char) : List Char :=
  if flags.spaced then skipBlanks false input else input

/-! ### Escapes -/

/-- What stands behind a backslash. -/
inductive Escape
  | character (value : Char)
  /-- A code point written with exactly two digits, which means an octet where only ASCII is
  spoken of. -/
  | octet (value : Char)
  | look (condition : Look)
  | set (characters : CharSet)

/-- The characters that mean something in a pattern. -/
def isMeta (character : Char) : Bool :=
  ['\\', '.', '+', '*', '?', '(', ')', '|', '[', ']', '\x7b', '\x7d', '^', '$', '#', '&', '-',
    '~'].contains character

/-- The characters that stand for themselves behind a backslash. -/
def isEscapable (character : Char) : Bool :=
  isMeta character ||
    (character.toNat < 0x80 && !character.isAlphanum && character != '<' && character != '>')

/-- The character of a code point that is one. -/
def scalar? (point : Nat) : Option Char :=
  if point < 0xD800 ∨ (0xE000 ≤ point ∧ point ≤ Unicode.lastCodePoint) then
    some (Char.ofNat point)
  else none

/-- So many hexadecimal digits, and what follows them. -/
def fixedHex (flags : Flags) (value : Nat) : Nat → List Char → Option (Nat × List Char)
  | 0, input => some (value, input)
  | count + 1, digit :: rest => do
    fixedHex flags (value * 16 + (← Text.hexValue? digit)) count (flags.skip rest)
  | _ + 1, [] => none

/-- The hexadecimal digits up to the closing brace, of which there is at least one. -/
def bracedHex (flags : Flags) (fuel : Nat) (seen : Bool) (value : Nat) :
    List Char → Option (Nat × List Char)
  | [] => none
  | character :: rest =>
    match fuel with
    | 0 => none
    | fuel + 1 =>
      if character = '\x7d' then
        if seen then some (value, flags.skip rest) else none
      else do
        bracedHex flags fuel true (value * 16 + (← Text.hexValue? character)) (flags.skip rest)

/-- A code point behind the letter that announces it with so many digits, or any number of them
in braces. -/
def readHex (flags : Flags) (digits : Nat) (input : List Char) :
    Option (Escape × List Char) :=
  match flags.skip input with
  | '\x7b' :: rest => do
    let (value, after) ← bracedHex flags (rest.length + 1) false 0 (flags.skip rest)
    return (.character (← scalar? value), after)
  | rest => do
    let (value, after) ← fixedHex flags 0 digits rest
    let character ← scalar? value
    return (if digits = 2 then .octet character else .character character, after)

/-- The characters up to the closing brace. -/
def bracedName (flags : Flags) (fuel : Nat) : List Char → Option (List Char × List Char)
  | [] => none
  | character :: rest =>
    match fuel with
    | 0 => none
    | fuel + 1 =>
      if character = '\x7d' then some ([], rest)
      else (bracedName flags fuel (flags.skip rest)).map fun parts =>
        (character :: parts.1, parts.2)

/-- A Unicode set behind the letter that announces it. -/
def readProperty (flags : Flags) (negated : Bool) (input : List Char) :
    Option (Escape × List Char) :=
  if !flags.unicode then none
  else
    match flags.skip input with
    | [] => none
    | '\x7b' :: rest => do
      let (name, after) ← bracedName flags (rest.length + 1) (flags.skip rest)
      let (set, rest) ← Classes.braced? name
      return (.set (← flags.closeSet (negated != rest) set), after)
    | '\\' :: _ => none
    | letter :: rest => do
      let set ← Classes.named? [letter]
      return (.set (← flags.closeSet negated set), flags.skip rest)

/-- The name of a word condition between braces, when the braces hold a name and no count: the
letters and hyphens, and what follows the last of them. -/
def conditionName (flags : Flags) (fuel : Nat) : List Char → List Char × List Char
  | [] => ([], [])
  | character :: rest =>
    match fuel with
    | 0 => ([], character :: rest)
    | fuel + 1 =>
      if character.isAlpha ∨ character = '-' then
        let (name, after) := conditionName flags fuel (flags.skip rest)
        (character :: name, after)
      else ([], character :: rest)

/-- A word boundary, or the narrower condition that braces behind it name. -/
def readBoundary (flags : Flags) (input : List Char) : Option (Escape × List Char) :=
  let plain := Escape.look (.wordBoundary flags.words)
  match input with
  | '\x7b' :: rest =>
    match flags.skip rest with
    | [] => none
    | inner =>
      match conditionName flags inner.length inner with
      | ([], _) => some (plain, input)
      | (name, '\x7d' :: after) =>
        match String.ofList name with
        | "start" => some (.look (.wordStart flags.words), after)
        | "end" => some (.look (.wordEnd flags.words), after)
        | "start-half" => some (.look (.wordStartHalf flags.words), after)
        | "end-half" => some (.look (.wordEndHalf flags.words), after)
        | _ => none
      | _ => none
  | _ => some (plain, input)

/-- What stands behind a backslash that was read, and what follows it. -/
def readEscape (flags : Flags) : List Char → Option (Escape × List Char)
  | [] => none
  | letter :: rest =>
    match letter with
    | 'x' => readHex flags 2 rest
    | 'u' => readHex flags 4 rest
    | 'U' => readHex flags 8 rest
    | 'p' => readProperty flags false rest
    | 'P' => readProperty flags true rest
    | 'd' | 's' | 'w' => some (.set (Classes.ofLetter flags.unicode letter), rest)
    | 'D' | 'S' | 'W' =>
      if flags.unicode then some (.set (Classes.ofLetter true letter), rest) else none
    | 'a' => some (.character '\x07', rest)
    | 'f' => some (.character '\x0c', rest)
    | 't' => some (.character '\t', rest)
    | 'n' => some (.character '\n', rest)
    | 'r' => some (.character '\r', rest)
    | 'v' => some (.character '\x0b', rest)
    | 'A' => some (.look .textStart, rest)
    | 'z' => some (.look .textEnd, rest)
    | 'b' => readBoundary flags rest
    | 'B' => some (.look (.noWordBoundary flags.words), rest)
    | '<' => some (.look (.wordStart flags.words), rest)
    | '>' => some (.look (.wordEnd flags.words), rest)
    | _ => if isEscapable letter then some (.character letter, rest) else none

/-- The character of an escape that means one. Only ASCII may be written as an octet where only
ASCII is spoken of. -/
def Escape.character? (flags : Flags) : Escape → Option Char
  | .character value => some value
  | .octet value => if flags.unicode ∨ value.toNat < 0x80 then some value else none
  | _ => none

/-- An escape as an expression. -/
def Escape.expr? (flags : Flags) : Escape → Option Expr
  | .look condition => some (.look condition)
  | .set characters => some (flags.set characters)
  | escape => (escape.character? flags).map flags.character

/-! ### Brackets -/

/-- What joins two parts of a bracket. -/
inductive SetOperator
  | inter
  | difference
  | symmetricDifference

/-- The set that the operator makes of its two sides. -/
def SetOperator.apply : SetOperator → CharSet → CharSet → CharSet
  | .inter => CharSet.inter
  | .difference => CharSet.difference
  | .symmetricDifference => CharSet.symmetricDifference

/-- A set that was read inside a bracket, the number of its items, and how deep they nest. -/
structure Items where
  set : CharSet
  count : Nat
  height : Nat

/-- No items. -/
def Items.none : Items := ⟨CharSet.empty, 0, 0⟩

/-- The items with one more, given its set and its nesting. -/
def Items.add (items : Items) (set : CharSet) (height : Nat) : Items :=
  ⟨items.set.union set, items.count + 1, max items.height height⟩

/-- The nesting of the items as one set: several items count as one level more. -/
def Items.level (items : Items) : Nat :=
  if items.count ≤ 1 then items.height else items.height + 1

/-- An open bracket: whether it is negated, the items so far, and the part on the left of the
operator that was read last. -/
structure OpenBracket where
  negated : Bool
  left : Option (SetOperator × CharSet × Nat)
  items : Items

/-- The set of the parts read so far and its nesting. Under the flags that ignore case both sides
of an operator are closed first. -/
def OpenBracket.joined (bracket : OpenBracket) (flags : Flags) : Option (CharSet × Nat) :=
  match bracket.left with
  | none => some (bracket.items.set, bracket.items.level)
  | some (operator, left, height) => do
    let left ← flags.closeSet false left
    let right ← flags.closeSet false bracket.items.set
    return (operator.apply left right, max height bracket.items.level + 1)

/-- The bracket behind an operator: all that was read stands on its left. -/
def OpenBracket.operator (bracket : OpenBracket) (flags : Flags) (operator : SetOperator) :
    Option OpenBracket := do
  let (set, height) ← bracket.joined flags
  return { bracket with left := some (operator, set, height), items := .none }

/-- The opening of a bracket whose first character was read: a negation, hyphens, and a closing
bracket as the first item. -/
def openBracket (flags : Flags) (input : List Char) : Option (OpenBracket × List Char) :=
  let (negated, rest) := match flags.skip input with
    | '^' :: rest => (true, flags.skip rest)
    | rest => (false, rest)
  let hyphens := hyphensFrom flags rest.length Items.none rest
  match hyphens with
  | (_, []) => none
  | (items, ']' :: after) =>
    if items.count = 0 then
      match flags.skip after with
      | [] => none
      | after => some (⟨negated, none, items.add (CharSet.singleton ']') 0⟩, after)
    else some (⟨negated, none, items⟩, ']' :: after)
  | (items, rest) => some (⟨negated, none, items⟩, rest)
where
  hyphensFrom (flags : Flags) (fuel : Nat) (items : Items) : List Char → Items × List Char
    | '-' :: rest =>
      match fuel with
      | 0 => (items, '-' :: rest)
      | fuel + 1 =>
        hyphensFrom flags fuel (items.add (CharSet.singleton '-') 0) (flags.skip rest)
    | rest => (items, rest)

/-- A named set of ASCII behind an opening bracket inside a bracket. -/
def asciiSet (flags : Flags) : List Char → Option (Option CharSet × List Char)
  | ':' :: rest =>
    let (negated, rest) := match rest with
      | '^' :: rest => (true, rest)
      | rest => (false, rest)
    let name := rest.takeWhile fun character => character != ':'
    match rest.drop name.length with
    | ':' :: ']' :: after =>
      (Classes.asciiNames.lookup (String.ofList name)).map fun set =>
        (flags.closeSet negated set, after)
    | _ => none
  | _ => none

/-- One end of a range, or one item: a character, or the set of an escape. -/
def bracketItem (flags : Flags) : List Char → Option (Char ⊕ CharSet) × List Char
  | [] => (none, [])
  | '\\' :: rest =>
    match readEscape flags rest with
    | some (.set characters, after) => (some (.inr characters), after)
    | some (escape, after) => ((escape.character? flags).map .inl, after)
    | none => (none, [])
  | character :: rest => (some (.inl character), rest)

/-- A character may be an item only if the flags speak of it. -/
def itemSet (flags : Flags) (low high : Char) : Option CharSet :=
  if low.toNat ≤ high.toNat ∧ (flags.unicode ∨ high.toNat < 0x80) then
    some (CharSet.interval low.toNat high.toNat)
  else none

/-- The character behind a hyphen that decides whether the hyphen writes a range. Where blanks mean
nothing they are passed over, and so are the hash of a comment and the blanks behind it: the first
character that is left decides, also when it stands inside the comment. -/
def Flags.deciding? (flags : Flags) (behind : List Char) : Option Char :=
  if flags.spaced then
    match behind.dropWhile Text.isWhiteSpace with
    | '#' :: comment => (comment.dropWhile Text.isWhiteSpace).head?
    | rest => rest.head?
  else behind.head?

/-- An item or a range of a bracket, and what follows it. A hyphen before a closing bracket or
another hyphen writes no range. -/
def bracketRange (flags : Flags) (input : List Char) : Option (CharSet × List Char) := do
  let (first, rest) := bracketItem flags input
  let first ← first
  let rest := flags.skip rest
  let single : Option (CharSet × List Char) :=
    match first with
    | .inl character => (itemSet flags character character).map fun set => (set, rest)
    | .inr characters => some (characters, rest)
  match rest with
  | [] => none
  | '-' :: behind =>
    if flags.deciding? behind = some ']' ∨ flags.deciding? behind = some '-' then single
    else
      match flags.skip behind with
      | [] => none
      | behind =>
        let (last, after) := bracketItem flags behind
        match first, ← last with
        | .inl low, .inl high => (itemSet flags low high).map fun set => (set, after)
        | _, _ => none
  | _ => single

/-- A whole bracket whose first character was read: its set, its nesting, and what follows it. -/
def readBracket (flags : Flags) :
    Nat → List OpenBracket → List Char → Option (CharSet × Nat × List Char)
  | 0, _, _ => none
  | _ + 1, [], _ => none
  | fuel + 1, bracket :: outer, input =>
    match flags.skip input with
    | [] => none
    | '[' :: rest =>
      match asciiSet flags rest with
      | some (set, after) => do
        let set ← set
        readBracket flags fuel ({ bracket with items := bracket.items.add set 0 } :: outer) after
      | none => do
        let (inner, after) ← openBracket flags rest
        readBracket flags fuel (inner :: bracket :: outer) after
    | ']' :: rest => do
      let (set, height) ← bracket.joined flags
      let set ← flags.closeSet bracket.negated set
      match outer with
      | [] => some (set, height + 1, rest)
      | next :: others =>
        let next := { next with items := next.items.add set (height + 1) }
        readBracket flags fuel (next :: others) rest
    | '&' :: '&' :: rest => do
      readBracket flags fuel ((← bracket.operator flags .inter) :: outer) rest
    | '-' :: '-' :: rest => do
      readBracket flags fuel ((← bracket.operator flags .difference) :: outer) rest
    | '~' :: '~' :: rest => do
      readBracket flags fuel ((← bracket.operator flags .symmetricDifference) :: outer) rest
    | rest => do
      let (set, after) ← bracketRange flags rest
      readBracket flags fuel ({ bracket with items := bracket.items.add set 0 } :: outer) after

/-! ### Repetitions -/

/-- A decimal count with blanks around it, and what follows it. -/
def readCount (flags : Flags) (input : List Char) : Option (Option Nat × List Char) :=
  let start := input.dropWhile Text.isWhiteSpace
  let (digits, rest) := digitsFrom flags start.length start
  let rest := rest.dropWhile Text.isWhiteSpace
  let value := digits.foldl (fun value digit => value * 10 + (digit.toNat - '0'.toNat)) 0
  if digits.isEmpty then some (none, flags.skip rest)
  else if value < 0x100000000 then some (some value, flags.skip rest)
  else none
where
  digitsFrom (flags : Flags) (fuel : Nat) : List Char → List Char × List Char
    | [] => ([], [])
    | digit :: rest =>
      match fuel with
      | 0 => ([], digit :: rest)
      | fuel + 1 =>
        if digit.isDigit then
          let (digits, after) := digitsFrom flags fuel (flags.skip rest)
          (digit :: digits, after)
        else ([], digit :: rest)

/-- The least and the greatest count between braces whose opening one was read. -/
def readCounts (flags : Flags) (input : List Char) :
    Option (Nat × Option Nat × List Char) := do
  let (least, rest) ← readCount flags (flags.skip input)
  match rest with
  | ',' :: rest =>
    match flags.skip rest with
    | '\x7d' :: after => return (← least, none, after)
    | rest =>
      let least ← least
      let (most, rest) ← readCount flags rest
      let most ← most
      match rest with
      | '\x7d' :: after => if least ≤ most then some (least, some most, after) else none
      | _ => none
  | '\x7d' :: after =>
    let least ← least
    return (least, some least, after)
  | _ => none

/-! ### Groups -/

/-- An expression that was read: how deep it nests, and whether it may be repeated. -/
structure Part where
  expression : Expr
  height : Nat
  repeatable : Bool

/-- An open group: its number if it has one, the flags outside it, its finished branches and the
parts of the branch that is being read, the last one first. -/
structure OpenGroup where
  number : Option Nat
  outside : Flags
  branches : List (Expr × Nat)
  parts : List Part

/-- The branch that is being read, and its nesting. -/
def OpenGroup.branch (group : OpenGroup) : Expr × Nat :=
  match group.parts with
  | [] => (.empty, 0)
  | [part] => (part.expression, part.height)
  | parts =>
    (Expr.catAll (parts.reverse.map Part.expression),
      (parts.map Part.height).foldl max 0 + 1)

/-- All branches, and their nesting. -/
def OpenGroup.all (group : OpenGroup) : Expr × Nat :=
  match group.branches with
  | [] => group.branch
  | branches =>
    let every := group.branch :: branches
    (Expr.altAll (every.reverse.map Prod.fst), (every.map Prod.snd).foldl max 0 + 1)

/-- The group with one more part in its branch. -/
def OpenGroup.add (group : OpenGroup) (expression : Expr) (height : Nat) (repeatable : Bool) :
    OpenGroup :=
  { group with parts := ⟨expression, height, repeatable⟩ :: group.parts }

/-- The group with its last part repeated; there must be one that can be. -/
def OpenGroup.repeat (group : OpenGroup) (least : Nat) (most : Option Nat) (greedy : Bool) :
    Option OpenGroup :=
  match group.parts with
  | part :: rest =>
    if part.repeatable then
      some { group with
        parts := ⟨part.expression.repeatedly least most greedy, part.height + 1, true⟩ :: rest }
    else none
  | [] => none

/-- The group as an expression, and its nesting. -/
def OpenGroup.closed (group : OpenGroup) : Expr × Nat :=
  let (expression, height) := group.all
  match group.number with
  | some number => (.group number expression, height + 1)
  | none => (expression, height + 1)

/-- What was read so far: the flags, the open groups, the innermost first, how many groups have a
number, and the names of groups. -/
structure Reading where
  flags : Flags
  group : OpenGroup
  outer : List OpenGroup
  numbered : Nat
  names : List (List Char)

/-- The flags with the one of a letter set or cleared. -/
def Flags.set? (flags : Flags) (value : Bool) : Char → Option Flags
  | 'i' => some { flags with ignoreCase := value }
  | 'm' => some { flags with multiLine := value }
  | 's' => some { flags with dotAll := value }
  | 'R' => some { flags with anyNewline := value }
  | 'u' => some { flags with unicode := value }
  | 'x' => some { flags with spaced := value }
  | 'U' => some { flags with lazy := value }
  | _ => none

/-- The flags behind a question mark up to the colon or parenthesis that ends them. No letter
stands twice, and one hyphen may clear the letters behind it, of which there is at least one. -/
def readFlags (flags : Flags) (seen : List Char) :
    List Char → Option (Flags × List Char × List Char)
  | [] => none
  | ':' :: rest => if seen.head? = some '-' then none else some (flags, seen, ':' :: rest)
  | ')' :: rest => if seen.head? = some '-' then none else some (flags, seen, ')' :: rest)
  | letter :: rest =>
    if seen.contains letter then none
    else if letter = '-' then readFlags flags ('-' :: seen) rest
    else do
      readFlags (← flags.set? (!seen.contains '-') letter) (letter :: seen) rest

/-- Whether the character may stand in the name of a group, as its first one or behind it. -/
def isNameCharacter (first : Bool) (character : Char) : Bool :=
  character == '_' || Unicode.isAlphabetic character ||
    (!first && (Unicode.isNumeric character || ['.', '[', ']'].contains character))

/-- The name of a group up to the closing angle. -/
def readName (first : Bool) : List Char → Option (List Char × List Char)
  | [] => none
  | '>' :: rest => if first then none else some ([], rest)
  | character :: rest =>
    if isNameCharacter first character then
      (readName false rest).map fun parts => (character :: parts.1, parts.2)
    else none

/-- The reading inside a new group without a number. -/
def Reading.enter (reading : Reading) (flags : Flags) : Reading :=
  { reading with
    flags := flags
    group := ⟨none, reading.flags, [], []⟩
    outer := reading.group :: reading.outer }

/-- The reading inside a new group with the next number. -/
def Reading.enterNumbered (reading : Reading) : Reading :=
  { reading with
    group := ⟨some (reading.numbered + 1), reading.flags, [], []⟩
    outer := reading.group :: reading.outer
    numbered := reading.numbered + 1 }

/-- The reading inside a new group with a name that no other group has. -/
def Reading.enterNamed (reading : Reading) (input : List Char) :
    Option (Reading × List Char) := do
  let (name, after) ← readName true input
  if reading.names.contains name then none
  else return ({ reading.enterNumbered with names := name :: reading.names }, after)

/-- A parenthesis whose opening was read: a group of some kind, or flags for the rest of the
group that it stands in. -/
def Reading.open? (reading : Reading) (input : List Char) : Option (Reading × List Char) :=
  match reading.flags.skip input with
  | '?' :: '=' :: _ | '?' :: '!' :: _ | '?' :: '<' :: '=' :: _ | '?' :: '<' :: '!' :: _ => none
  | '?' :: 'P' :: '<' :: rest => reading.enterNamed rest
  | '?' :: '<' :: rest => reading.enterNamed rest
  | '?' :: rest => do
    match ← readFlags reading.flags [] rest with
    | (flags, seen, ')' :: after) =>
      if seen.isEmpty then none
      else
        return ({ reading with
          flags := flags
          group := reading.group.add .empty 0 false }, after)
    | (flags, _, _ :: after) => return (reading.enter flags, after)
    | _ => none
  | rest => some (reading.enterNumbered, rest)

/-- The reading behind the closing parenthesis of its innermost group. -/
def Reading.close? (reading : Reading) : Option Reading :=
  match reading.outer with
  | [] => none
  | next :: others =>
    let (expression, height) := reading.group.closed
    some { reading with
      flags := reading.group.outside
      group := next.add expression height true
      outer := others }

/-- The reading with one more part in its branch. -/
def Reading.add (reading : Reading) (expression : Expr) (height : Nat) : Reading :=
  { reading with group := reading.group.add expression height true }

/-- The reading with its last part repeated, and what follows a mark that turns over what is tried
first. -/
def Reading.repeat (reading : Reading) (least : Nat) (most : Option Nat) (input : List Char) :
    Option (Reading × List Char) := do
  let (marked, rest) := match input with
    | '?' :: rest => (true, rest)
    | rest => (false, rest)
  let group ← reading.group.repeat least most (reading.flags.lazy == marked)
  return ({ reading with group := group }, rest)

/-- The condition of the sign for the start of a text or line. -/
def Flags.start (flags : Flags) : Look :=
  if !flags.multiLine then .textStart else if flags.anyNewline then .anyLineStart else .lineStart

/-- The condition of the sign for the end of a text or line. -/
def Flags.finish (flags : Flags) : Look :=
  if !flags.multiLine then .textEnd else if flags.anyNewline then .anyLineEnd else .lineEnd

/-- One step: a group opens or closes, a branch ends, the last part is repeated, or a part is
read. -/
def Reading.step (reading : Reading) : List Char → Option (Reading × List Char)
  | [] => none
  | '(' :: rest => reading.open? rest
  | ')' :: rest => reading.close?.map fun closed => (closed, rest)
  | '|' :: rest =>
    some ({ reading with
      group := { reading.group with
        branches := reading.group.branch :: reading.group.branches
        parts := [] } }, rest)
  | '?' :: rest => reading.repeat 0 (some 1) rest
  | '*' :: rest => reading.repeat 0 none rest
  | '+' :: rest => reading.repeat 1 none rest
  | '\x7b' :: rest => do
    let (least, most, after) ← readCounts reading.flags rest
    reading.repeat least most (reading.flags.skip after)
  | '[' :: rest => do
    let (bracket, after) ← openBracket reading.flags rest
    let (set, height, after) ← readBracket reading.flags (after.length + 1) [bracket] after
    return (reading.add (reading.flags.set set) height, after)
  | '\\' :: rest => do
    let (escape, after) ← readEscape reading.flags rest
    return (reading.add (← escape.expr? reading.flags) 0, after)
  | '.' :: rest => do return (reading.add (reading.flags.set (← reading.flags.dot?)) 0, rest)
  | '^' :: rest => some (reading.add (.look reading.flags.start) 0, rest)
  | '$' :: rest => some (reading.add (.look reading.flags.finish) 0, rest)
  | character :: rest => some (reading.add (reading.flags.character character) 0, rest)

/-- How deep the parts of a pattern may nest. -/
def nestingLimit : Nat := 250

/-- Reads on to the end of the pattern, where no group may be open. -/
def readOn : Nat → Reading → List Char → Option Expr
  | 0, _, _ => none
  | fuel + 1, reading, input =>
    match reading.flags.skip input with
    | [] =>
      let (expression, height) := reading.group.all
      if reading.outer.isEmpty ∧ height ≤ nestingLimit ∧ expression.fits then
        some expression
      else none
    | rest => do
      let (next, after) ← reading.step rest
      readOn fuel next after

/-- The expression that a pattern writes, when it writes one. -/
def read (pattern : String) : Option Expr :=
  readOn (pattern.length + 1) ⟨{}, ⟨none, {}, [], []⟩, [], 0, []⟩ pattern.toList

end Gateway.PatternReader
