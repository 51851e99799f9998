/-
This file defines filter trees, the form in which the selectors of a statement are applied. A tree
gives each field at most one rule: keep it, keep it where it matches a pattern, or go on inside it
with another tree. Selectors are set one after the other, and where two of them speak of the same
place, or one of them of a place inside the other's, the later one wins.
-/

import Gateway.Filter.Fault

namespace Gateway

/-- What is to happen with a field. -/
inductive Rule
  | keep
  | keepMatching (constraint : Match)
  /-- Only what the inner rules keep is kept of the field. -/
  | within (rules : List (String × Rule))

namespace Rule

/-- Whether two rules are the same: matches as matches are, and rules inside a field name by
name. -/
def same : Rule → Rule → Bool
  | .keep, .keep => true
  | .keepMatching first, .keepMatching second => first == second
  | .within first, .within second => sameEntries first second
  | _, _ => false
where
  sameEntries : List (String × Rule) → List (String × Rule) → Bool
    | [], [] => true
    | (field, rule) :: rest, (name, other) :: others =>
      field == name && same rule other && sameEntries rest others
    | _, _ => false

instance : BEq Rule where
  beq := same

end Rule

/-- The rules of the fields, in ascending order of names. -/
abbrev FilterTree := List (String × Rule)

/-- The segment that stands for every field without a rule of its own. -/
def selectAllMarker : String := "*"

namespace FilterTree

/-- The tree that keeps everything. -/
def selectAll : FilterTree := [(selectAllMarker, .keep)]

/-- The rule of a field. -/
def rule? (tree : FilterTree) (field : String) : Option Rule :=
  Dictionary.valueAt? field tree

/-- Whether fields without a rule of their own are kept. -/
def selectsAll (tree : FilterTree) : Bool :=
  tree.any fun entry => entry.1 == selectAllMarker

/-- The rules of named fields. -/
def named (tree : FilterTree) : FilterTree :=
  Dictionary.eraseEntry selectAllMarker tree

/-- The rules inside a field; none where the field has no rule or one for the whole of it. -/
def inside (tree : FilterTree) (field : String) : FilterTree :=
  match rule? tree field with
  | some (.within rules) => rules
  | _ => []

/-- The tree with the rule set at the end of the path. -/
def insert (tree : FilterTree) : List String → Rule → FilterTree
  | [], _ => tree
  | [field], rule => Dictionary.insertEntry field rule tree
  | field :: rest, rule =>
    Dictionary.insertEntry field (.within (insert (inside tree field) rest rule)) tree

/-- The tree with the rule of one more selector. A match keeps the last segment of its path, so it
needs one. -/
def addSelector (tree : FilterTree) : Selector → Except Fault FilterTree
  | .path segments => .ok (insert tree segments .keep)
  | .matching constraint =>
    match constraint.path.getLast? with
    | none => .error .emptyTarget
    | some target =>
      .ok (insert tree constraint.path (.keepMatching ⟨[target], constraint.pattern⟩))

/-- The tree of a list of selectors. -/
def build (selectors : List Selector) : Except Fault FilterTree :=
  selectors.foldlM addSelector []

end FilterTree

end Gateway
