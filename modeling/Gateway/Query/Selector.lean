/-
This file defines the selectors of a statement: a path into a body, or a path whose end must match
a pattern. A path is written with dots between its segments; dots that stand together, or at an
end, separate nothing. Two patterns are the same when their texts are, whether or not one of them
was made ahead of time.
-/

import Gateway.Json.Members
import Gateway.Json.Shape
import Gateway.Pattern

namespace Gateway

/-! ### Paths -/

/-- The pieces between the dots, empty ones included. -/
def pieces : List Char → List (List Char)
  | [] => [[]]
  | character :: rest =>
    if character = '.' then [] :: pieces rest
    else
      match pieces rest with
      | [] => [[character]]
      | first :: others => (character :: first) :: others

/-- The segments of a path that is written with dots. -/
def splitPath (dotted : String) : List String :=
  ((pieces dotted.toList).filter fun piece => !piece.isEmpty).map String.ofList

theorem pieces_ne_nil (characters : List Char) : pieces characters ≠ [] := by
  cases characters with
  | nil => simp [pieces]
  | cons character rest =>
    simp only [pieces]
    split
    · simp
    · split <;> simp

/-- The pieces of two texts with a dot between them are those of the one, then of the other. -/
theorem pieces_append_dot (first second : List Char) :
    pieces (first ++ '.' :: second) = pieces first ++ pieces second := by
  induction first with
  | nil => simp [pieces]
  | cons character rest inductionHypothesis =>
    simp only [List.cons_append, pieces, inductionHypothesis]
    split
    · rfl
    · cases equal : pieces rest with
      | nil => exact absurd equal (pieces_ne_nil rest)
      | cons head others => rfl

/-! ### Matches and selectors -/

/-- The pattern of a match, as its text or made ahead of time. -/
inductive MatchPattern
  | source (text : String)
  | compiled (pattern : Pattern)

namespace MatchPattern

/-- The text of the pattern. -/
def text : MatchPattern → String
  | .source text => text
  | .compiled pattern => pattern.source

/-- The pattern, when its text writes one. -/
def compile? : MatchPattern → Option Pattern
  | .source text => Pattern.compile? text
  | .compiled pattern => some pattern

/-- A pattern that was made ahead of time is the one that its text gives. -/
theorem compile?_eq (pattern : MatchPattern) :
    pattern.compile? = Pattern.compile? pattern.text := by
  cases pattern with
  | source text => rfl
  | compiled pattern => exact (Pattern.compile?_source pattern).symm

/-- The text for diagnostics. -/
def dump : MatchPattern → String
  | .source text => Text.Dump.wrap "Source" (Text.Dump.quoted text)
  | .compiled pattern =>
    Text.Dump.wrap "Compiled" (Text.Dump.wrap "Regex" (Text.Dump.quoted pattern.source))

end MatchPattern

/-- The condition that the value at the end of a path matches a pattern. -/
structure Match where
  path : List String
  pattern : MatchPattern

namespace Match

/-- Matches are the same when their paths and the texts of their patterns are. -/
instance : BEq Match where
  beq first second := first.path == second.path && first.pattern.text == second.pattern.text

/-- The text for diagnostics. -/
def dump (constraint : Match) : String :=
  Text.Dump.record "Match"
    [("path", Text.Dump.list (constraint.path.map Text.Dump.quoted)),
      ("arg", constraint.pattern.dump)]

end Match

/-- What a statement asks for. -/
inductive Selector
  | path (segments : List String)
  | matching (constraint : Match)

namespace Selector

/-- The path of the selector. -/
def segments : Selector → List String
  | .path segments => segments
  | .matching constraint => constraint.path

instance : BEq Selector where
  beq
    | .path first, .path second => first == second
    | .matching first, .matching second => first == second
    | _, _ => false

/-- A selector is written as a path, or as an object that holds a path and a pattern. -/
def decode (value : Json) : Decoded Selector :=
  match value with
  | .text dotted => .ok (.path (splitPath dotted))
  | .object members =>
    match Members.find? members "path", Members.find? members "match" with
    | some (.text dotted), some (.text pattern) =>
      .ok (.matching ⟨splitPath dotted, .source pattern⟩)
    | _, _ => .error (.noForm "RawSelector")
  | _ => .error (.noForm "RawSelector")

/-- The text for diagnostics. -/
def dump : Selector → String
  | .path segments =>
    Text.Dump.wrap "Path" (Text.Dump.list (segments.map Text.Dump.quoted))
  | .matching constraint => Text.Dump.wrap "Match" constraint.dump

end Selector

end Gateway
