/-
This file defines what it means that a regular expression occurs in a text. An expression is read
as a map of sets of positions: it takes the positions where it may start to the positions where it
may end. A set of positions is a natural with one bit for each, so an alternative is a union, a
character is a shift, and a repetition is iterated until no position is new; no text can make that
take more rounds than it has positions.
-/

import Gateway.Pattern.Expr

namespace Gateway

open Unicode (CharSet)

/-! ### Positions -/

/-- A set of positions of a text: the bit of a position says whether it belongs to the set. -/
abbrev Positions := Nat

namespace Positions

/-- The set of the places in the list that hold true. -/
def ofList : List Bool → Positions
  | [] => 0
  | belongs :: rest => 2 * ofList rest + (if belongs then 1 else 0)

/-- A position belongs to the set exactly if its place in the list holds true. -/
theorem testBit_ofList (places : List Bool) (position : Nat) :
    (ofList places).testBit position = places.getD position false := by
  induction places generalizing position with
  | nil => simp [ofList]
  | cons belongs rest inductionHypothesis =>
    cases position with
    | zero =>
      rw [Nat.testBit_zero, ofList, List.getD_cons_zero]
      cases belongs <;> simp
    | succ position =>
      have half (value : Nat) : (2 * value + if belongs then 1 else 0) / 2 = value := by
        split <;> omega
      rw [Nat.testBit_succ, ofList, half, inductionHypothesis, List.getD_cons_succ]

/-- The first so many positions. -/
def below (count : Nat) : Positions :=
  Nat.pow 2 count - 1

/-- The positions in the first set and not in the second. -/
def without (first second : Positions) : Positions :=
  first ^^^ (first &&& second)

end Positions

/-- An expression with its conditions worked out for one text. -/
inductive Plan
  | empty
  /-- One character further, from the given positions. -/
  | advance (places : Positions)
  /-- Only at the given positions. -/
  | stay (places : Positions)
  | cat (first second : Plan)
  | alt (first second : Plan)
  | repeated (body : Plan) (least : Nat) (most : Option Nat)

/-- The characters before and after every position of the text, the ends included. -/
def neighbours (before : Option Char) : List Char → List (Option Char × Option Char)
  | [] => [(before, none)]
  | character :: rest => (before, some character) :: neighbours (some character) rest

/-- The characters of a literal, one after the other, for one text. -/
def Plan.ofLiteral (text : List Char) : List Char → Plan
  | [] => .empty
  | character :: rest =>
    .cat (.advance (Positions.ofList (text.map fun other => other == character)))
      (Plan.ofLiteral text rest)

/-- The expression for one text. -/
def Expr.plan (text : List Char) : Expr → Plan
  | .empty => .empty
  | .literal characters => .ofLiteral text characters
  | .set characters _ => .advance (Positions.ofList (text.map characters.contains))
  | .look condition =>
    .stay (Positions.ofList ((neighbours none text).map fun pair => condition.holds pair.1 pair.2))
  | .group _ body => body.plan text
  | .cat first second => .cat (first.plan text) (second.plan text)
  | .alt first second => .alt (first.plan text) (second.plan text)
  | .repeated body least most _ => .repeated (body.plan text) least most

namespace Plan

/-- Applies a map of positions exactly so many times. It stops where one more time changes
nothing, since then no further one does. -/
def iterate (move : Positions → Positions) : Nat → Positions → Positions
  | 0, places => places
  | count + 1, places =>
    let next := move places
    if next = places then places else iterate move count next

/-- The positions seen so far and all that a map reaches from the newest of them in at most so
many steps. It stops where a step reaches no new position. -/
def reach (move : Positions → Positions) : Nat → Positions → Positions → Positions
  | 0, seen, _ => seen
  | count + 1, seen, newest =>
    let found := (move newest).without seen
    if found = 0 then seen else reach move count (seen ||| found) found

/-- The positions where the plan may end when it starts at one of the given ones, in a text of
the given length. -/
def ends (length : Nat) : Plan → Positions → Positions
  | .empty, starts => starts
  | .advance places, starts => (starts &&& places) <<< 1
  | .stay places, starts => starts &&& places
  | .cat first second, starts => second.ends length (first.ends length starts)
  | .alt first second, starts => first.ends length starts ||| second.ends length starts
  | .repeated body least most, starts =>
    let begun := iterate (body.ends length) least starts
    let more := match most with
      | none => length + 1
      | some count => min (count - least) (length + 1)
    reach (body.ends length) more begun begun

end Plan

/-- Whether the expression occurs somewhere in the text. -/
def Expr.occursIn (expression : Expr) (text : String) : Bool :=
  let characters := text.toList
  let starts := Positions.below (characters.length + 1)
  (expression.plan characters).ends characters.length starts != 0

end Gateway
