/-
This file defines the conditions that a regular expression may put on a place between two
characters. A condition sees the two neighbours of the place and nothing else of the text.
-/

import Gateway.Unicode.CharSet

namespace Gateway

open Unicode (CharSet)

/-- A condition on the place between two characters. -/
inductive Look
  | textStart
  | textEnd
  /-- Behind a line feed, or at the start. -/
  | lineStart
  /-- Before a line feed, or at the end. -/
  | lineEnd
  /-- As `lineStart`, where a carriage return, alone or with a line feed, also ends a line. -/
  | anyLineStart
  /-- As `lineEnd`, with the same line ends. -/
  | anyLineEnd
  /-- Between a character of a word and one that is not; `words` says which characters those are. -/
  | wordBoundary (words : CharSet)
  | noWordBoundary (words : CharSet)
  | wordStart (words : CharSet)
  | wordEnd (words : CharSet)
  /-- Not behind a character of a word. -/
  | wordStartHalf (words : CharSet)
  /-- Not before a character of a word. -/
  | wordEndHalf (words : CharSet)
  deriving DecidableEq

namespace Look

/-- Whether the character is there and in the set. -/
def inSet (characters : CharSet) : Option Char → Bool
  | none => false
  | some character => characters.contains character

/-- Whether the condition holds between the two characters, either of which may be missing at an
end of the text. -/
def holds (before after : Option Char) : Look → Bool
  | .textStart => before.isNone
  | .textEnd => after.isNone
  | .lineStart => before.isNone || before == some '\n'
  | .lineEnd => after.isNone || after == some '\n'
  | .anyLineStart =>
    before.isNone || before == some '\n' || (before == some '\r' && after != some '\n')
  | .anyLineEnd =>
    after.isNone || after == some '\r' || (after == some '\n' && before != some '\r')
  | .wordBoundary words => inSet words before != inSet words after
  | .noWordBoundary words => inSet words before == inSet words after
  | .wordStart words => !inSet words before && inSet words after
  | .wordEnd words => inSet words before && !inSet words after
  | .wordStartHalf words => !inSet words before
  | .wordEndHalf words => !inSet words after

end Look

end Gateway
