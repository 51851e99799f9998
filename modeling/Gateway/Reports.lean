/-
This file takes as given what the libraries behind the gateway say about texts that they cannot
read. Which texts those are is settled by the readers of patterns and of JSON; only the words belong
to the libraries. They are a parameter of all that reports a fault, so what is proved of the gateway
holds whatever the libraries say.
-/

namespace Gateway

/-- What the libraries say about texts that they cannot read. -/
class LibraryReports where
  /-- Why the text writes no pattern. -/
  pattern (source : String) : String
  /-- Why the line of a request is no JSON, unless that is left out. -/
  request (line : String) : Option String
  /-- Why the text of a configuration is no JSON, unless that is left out. -/
  config (text : String) : Option String
  /-- Where the text of a configuration is of another shape, as it stands behind the words for the
  shape. -/
  place (text : String) : String

/-- The words with the reason behind them, if there is one. -/
def withReason (words : String) : Option String → String
  | none => words
  | some reason => words ++ ": " ++ reason

namespace Fault

/-- The words that stand for why a text writes no pattern, where nothing else does. -/
def patternFault : String := "<regex error>"

end Fault

/-- Reports that say as little as they can. -/
instance (priority := low) LibraryReports.brief : LibraryReports where
  pattern _ := Fault.patternFault
  request _ := none
  config _ := none
  place _ := ""

end Gateway
