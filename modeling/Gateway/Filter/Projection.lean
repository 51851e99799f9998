/-
This file applies filter trees to values. Arrays are transparent: a tree applies to every item, and
only its named fields do. In an object each field with a rule is decided by that rule and by the
field's value alone; the decisions are then carried out in the order of the rules, on a copy of the
object where the tree selects all, and on an empty one elsewhere. A rule for a field that the object
does not have does nothing, not even read its pattern.
-/

import Gateway.Filter.Tree

namespace Gateway

/-- What a rule does to its field. -/
inductive Edit
  | put (value : Json)
  | remove
  /-- The field stays as it is, present or not. -/
  | leave

/-- The members after the edit of one of them. -/
def Edit.apply (edit : Edit) (field : String) (members : Members) : Members :=
  match edit with
  | .put value => members.insert field value
  | .remove => members.remove field
  | .leave => members

/-- The text that a pattern is matched with: a text itself, and the JSON text of all else. -/
def Json.matchText : Json → String
  | .text value => value
  | other => other.render

namespace Match

/-- What a constraint does to its field. An array keeps the items that match, and is left alone
where none does; any other value is kept or removed as a whole. -/
def edit (constraint : Match) (value : Json) : Except Fault Edit :=
  match constraint.pattern.compile? with
  | none => .error (.invalidPattern constraint.pattern.text)
  | some pattern =>
    match value with
    | .array items =>
      match items.filter fun item => pattern.isMatch item.matchText with
      | [] => .ok .leave
      | matching => .ok (.put (.array matching))
    | other => .ok (if pattern.isMatch other.matchText then .put other else .remove)

end Match

namespace FilterTree

/-- Carries out the edits of an object's fields in the order of the rules. The first fault that the
order meets ends it. -/
def carryOut (edits : List (String × Except Fault Edit)) :
    FilterTree → Members → Except Fault Members
  | [], members => .ok members
  | (field, _) :: rest, members =>
    match Dictionary.valueAt? field edits with
    | none => carryOut edits rest members
    | some (.error fault) => .error fault
    | some (.ok edit) => carryOut edits rest (edit.apply field members)

/-- What the tree keeps of a value. -/
def project (tree : FilterTree) : Json → Except Fault Json
  | .object members =>
    let start : Members := if tree.selectsAll then members else []
    (carryOut (edits tree.named members) tree.named start).map .object
  | .array items => (projectItems tree.named items).map .array
  | scalar => .ok scalar
where
  /-- What the tree keeps of every item. -/
  projectItems (tree : FilterTree) : List Json → Except Fault (List Json)
    | [] => .ok []
    | item :: rest =>
      match project tree item with
      | .error fault => .error fault
      | .ok kept => (projectItems tree rest).map (kept :: ·)
  /-- What the rules do to the fields that have one, each on its own. -/
  edits (tree : FilterTree) : List (String × Json) → List (String × Except Fault Edit)
    | [] => []
    | (field, value) :: rest =>
      match rule? tree field with
      | none => edits tree rest
      | some .keep => (field, .ok (.put value)) :: edits tree rest
      | some (.keepMatching constraint) => (field, constraint.edit value) :: edits tree rest
      | some (.within rules) => (field, (project rules value).map .put) :: edits tree rest

end FilterTree

end Gateway
