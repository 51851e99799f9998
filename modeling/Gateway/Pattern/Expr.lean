/-
This file defines regular expressions. The constructors that readers use keep an expression in a
normal form: neighbouring characters make one literal, a sequence holds no sequence and nothing
empty, a choice holds no choice, a choice between single characters or between sets is a set, and
what all branches of a choice begin with stands before it. The size of the machine for an
expression is that of its normal form.
-/

import Gateway.Pattern.Look

namespace Gateway

open Unicode (CharSet)

/-- A regular expression. -/
inductive Expr
  | empty
  /-- The characters one after the other. -/
  | literal (characters : List Char)
  /-- One character of the set; `ascii` says that it was written where only ASCII is spoken of. -/
  | set (characters : CharSet) (ascii : Bool)
  | look (condition : Look)
  /-- A group with a number of its own. -/
  | group (number : Nat) (body : Expr)
  | cat (first second : Expr)
  | alt (first second : Expr)
  /-- The body, at least and at most so many times; `greedy` says that more of it is tried
  first, which decides nothing about whether a text matches. -/
  | repeated (body : Expr) (least : Nat) (most : Option Nat) (greedy : Bool)
  deriving DecidableEq

namespace Expr

/-! ### Lengths and anchors -/

/-- The fewest octets that the expression takes; none where a part of it takes no text at all. -/
def leastLength : Expr → Option Nat
  | .empty | .look _ => some 0
  | .literal characters => some (characters.map Char.utf8Size).sum
  | .set characters _ =>
    characters.ranges.head?.map fun range => (Char.ofNat range.1).utf8Size
  | .group _ body => body.leastLength
  | .cat first second => do return (← first.leastLength) + (← second.leastLength)
  | .alt first second => do return min (← first.leastLength) (← second.leastLength)
  | .repeated body least _ _ => body.leastLength.map (· * least)

/-- The most octets that the expression takes, where there is a bound. -/
def greatestLength : Expr → Option Nat
  | .empty | .look _ => some 0
  | .literal characters => some (characters.map Char.utf8Size).sum
  | .set characters _ =>
    characters.ranges.getLast?.map fun range => (Char.ofNat range.2).utf8Size
  | .group _ body => body.greatestLength
  | .cat first second => do return (← first.greatestLength) + (← second.greatestLength)
  | .alt first second => do return max (← first.greatestLength) (← second.greatestLength)
  | .repeated body _ most _ => do return (← body.greatestLength) * (← most)

/-- Whether the expression can only occur at the start of the text, as far as its outermost
conditions show. -/
def startsText : Expr → Bool
  | .look condition => condition == .textStart
  | .group _ body => body.startsText
  | .cat first second =>
    first.startsText || (first.greatestLength == some 0 && second.startsText)
  | .alt first second => first.startsText && second.startsText
  | .repeated body least _ _ => least != 0 && body.startsText
  | .empty | .literal _ | .set _ _ => false

/-- Whether the expression can only occur at the end of the text, as far as its outermost
conditions show. -/
def endsText : Expr → Bool
  | .look condition => condition == .textEnd
  | .group _ body => body.endsText
  | .cat first second =>
    second.endsText || (second.greatestLength == some 0 && first.endsText)
  | .alt first second => first.endsText && second.endsText
  | .repeated body least _ _ => least != 0 && body.endsText
  | .empty | .literal _ | .set _ _ => false

/-! ### Normal forms -/

/-- The expression that takes no text, not even the empty one. -/
def never : Expr := .set CharSet.empty true

/-- One character of the set; a set of one character makes a literal. -/
def ofSet (characters : CharSet) (ascii : Bool) : Expr :=
  match characters.ranges with
  | [] => never
  | [(low, high)] => if low = high then .literal [Char.ofNat low] else .set characters ascii
  | _ => .set characters ascii

/-- The body repeated. To repeat what takes no character more than once changes nothing. -/
def repeatedly (body : Expr) (least : Nat) (most : Option Nat) (greedy : Bool) : Expr :=
  let idle := body.greatestLength = some 0
  let least := if idle then min least 1 else least
  let most := if idle then some (min (most.getD 1) 1) else most
  if least = 0 ∧ most = some 0 then .empty
  else if least = 1 ∧ most = some 1 then body
  else .repeated body least most greedy

/-- The parts that the expression puts one after the other. -/
def parts : Expr → List Expr
  | .empty => []
  | .cat first second => first.parts ++ second.parts
  | expression => [expression]

/-- The parts with neighbouring literals made one. -/
def mergeLiterals : List Expr → List Expr
  | [] => []
  | .literal first :: rest =>
    match mergeLiterals rest with
    | .literal second :: others => .literal (first ++ second) :: others
    | others => .literal first :: others
  | part :: rest => part :: mergeLiterals rest

/-- The parts one after the other, as they stand. -/
def sequence : List Expr → Expr
  | [] => .empty
  | [part] => part
  | part :: rest => .cat part (sequence rest)

/-- The expressions one after the other. -/
def catAll (expressions : List Expr) : Expr :=
  sequence (mergeLiterals (expressions.flatMap parts))

/-- The branches that the expression chooses from. -/
def branches : Expr → List Expr
  | .alt first second => first.branches ++ second.branches
  | expression => [expression]

/-- A choice between the branches, as they stand. -/
def choice : List Expr → Expr
  | [] => never
  | [branch] => branch
  | branch :: rest => .alt branch (choice rest)

/-- The set of the characters, where every branch is a literal of one. -/
def singleCharacters? : List Expr → Option CharSet
  | [] => some CharSet.empty
  | .literal [character] :: rest => do
    return (CharSet.singleton character).union (← singleCharacters? rest)
  | _ => none

/-- The union of the sets, where every branch is one. -/
def singleSets? : List Expr → Option CharSet
  | [] => some CharSet.empty
  | .set characters _ :: rest => do return characters.union (← singleSets? rest)
  | _ => none

/-- The parts of a sequence of several. -/
def severalParts : Expr → List Expr
  | .cat first second => first.parts ++ second.parts
  | _ => []

/-- What the two lists have in common at their beginnings. -/
def commonStart : List Expr → List Expr → List Expr
  | first :: rest, second :: others =>
    if first = second then first :: commonStart rest others else []
  | _, _ => []

/-- The parts that all branches begin with. -/
def sharedStart : List Expr → List Expr
  | [] => []
  | branch :: rest =>
    rest.foldl (fun shared other => commonStart shared other.severalParts) branch.severalParts

/-- The number of nodes. -/
def size : Expr → Nat
  | .group _ body | .repeated body _ _ _ => body.size + 1
  | .cat first second | .alt first second => first.size + second.size + 1
  | _ => 1

/-- One of the expressions. What all of them begin with is taken out as often as the given number
says. -/
def altWithin (rounds : Nat) (expressions : List Expr) : Expr :=
  let every := expressions.flatMap branches
  match every with
  | [] => never
  | [expression] => expression
  | _ =>
    match (singleCharacters? every).or (singleSets? every) with
    | some characters => ofSet characters false
    | none =>
      match rounds with
      | 0 => choice every
      | rounds + 1 =>
        let shared := sharedStart every
        if shared.isEmpty then choice every
        else
          let rests := every.map fun branch => catAll (branch.severalParts.drop shared.length)
          catAll (shared ++ [altWithin rounds rests])

/-- One of the expressions. Every round takes nodes away from each of them, so their number of
nodes bounds the rounds. -/
def altAll (expressions : List Expr) : Expr :=
  altWithin (expressions.foldl (fun total expression => total + expression.size) 0) expressions

end Expr

end Gateway
