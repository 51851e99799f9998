/-
This file proves that data a tree does not ask for cannot show in the outcome of a projection. Two
values agree on a tree when they are the same as far as the tree looks: scalars are equal, arrays
agree item by item, and objects agree in the fields that have a rule, whatever other members they
hold and in whatever order. The projections of such values are the same outcome, with every member
in its place, or with the same fault. The tree must not hold the marker for all fields, which asks
for everything and for the order of the members too.
-/

import Gateway.Proofs.Filter.Fields
import Gateway.Proofs.Filter.Leaves

namespace Gateway

namespace FilterTree

/-! ### The same edits -/

/-- Edits that decide every field in the same way are carried out with the same outcome. -/
theorem carryOut_congr {edits others : List (String × Except Fault Edit)}
    (same : ∀ field, decided edits field = decided others field) (tree : FilterTree)
    (start : Members) : carryOut edits tree start = carryOut others tree start := by
  induction tree generalizing start with
  | nil => rfl
  | cons entry rest inductionHypothesis =>
    obtain ⟨field, rule⟩ := entry
    rw [carryOut_cons, carryOut_cons, same field]
    cases decided others field with
    | error fault => rfl
    | ok edit => exact inductionHypothesis (edit.apply field start)

/-! ### Agreement -/

/-- The marker for all fields stands at no level of the tree. -/
def Unmarked : FilterTree → Prop :=
  Throughout fun inner => inner.selectsAll = false

mutual

/-- The two values are the same as far as the tree looks. -/
inductive Agree : FilterTree → Json → Json → Prop
  | scalar {tree : FilterTree} {value : Json} (simple : value.IsScalar) : Agree tree value value
  | array {tree : FilterTree} {first second : List Json} (length : first.length = second.length)
    (each : ∀ (index : Nat) (one other : Json), first[index]? = some one →
      second[index]? = some other → Agree tree one other) :
    Agree tree (.array first) (.array second)
  | object {tree : FilterTree} {first second : Members}
    (fields : ∀ field rule, rule? tree field = some rule →
      AgreeAt rule (first.find? field) (second.find? field)) :
    Agree tree (.object first) (.object second)

/-- What stands in a field of two objects is the same as far as the rule of the field looks. A rule
for the whole field looks at all of it, and whether the field is there at all always counts. -/
inductive AgreeAt : Rule → Option Json → Option Json → Prop
  | absent {rule : Rule} : AgreeAt rule none none
  | whole {rule : Rule} (isLeaf : rule.IsLeaf) (value : Json) :
    AgreeAt rule (some value) (some value)
  | within {rules : FilterTree} {first second : Json} (inner : Agree rules first second) :
    AgreeAt (.within rules) (some first) (some second)

end

/-! ### The same outcome -/

/-- A field in which two objects agree is decided in the same way, as long as the trees inside do
the same to values that agree on them. -/
theorem editOf_eq_of_agreeAt {tree : FilterTree} {field : String} {rule : Rule}
    {first second : Option Json} (known : rule? tree field = some rule)
    (agree : AgreeAt rule first second)
    (inside : ∀ value other rules, first = some value → rule = .within rules →
      Agree rules value other → project rules value = project rules other) :
    tree.editOf field first = tree.editOf field second := by
  cases agree with
  | absent => rfl
  | whole => rfl
  | @within rules value other inner =>
    rw [editOf, editOf, known]
    exact congrArg (Except.map Edit.put) (inside value other rules rfl rfl inner)

/-- Without the marker an object is projected from nothing. -/
theorem project_object_of_unmarked {tree : FilterTree} (unmarked : tree.selectsAll = false)
    (members : Members) :
    tree.project (.object members) =
      (carryOut (project.edits tree members) tree []).map .object := by
  rw [project, named_eq_self unmarked, unmarked]
  rfl

theorem project_array_of_unmarked {tree : FilterTree} (unmarked : tree.selectsAll = false)
    (items : List Json) : tree.project (.array items) = (items.mapM tree.project).map .array := by
  rw [project, named_eq_self unmarked, projectItems_eq_mapM]

/-- Values that agree on a tree without the marker are projected to the same outcome: the same
value with its members in the same order, or the same fault. -/
theorem project_eq_of_agree {tree : FilterTree} (unmarked : tree.Unmarked) {first second : Json}
    (agree : tree.Agree first second) : tree.project first = tree.project second := by
  -- the rules inside a field are another tree, so the induction is on one value for all trees
  induction first using Json.induction generalizing tree second with
  | array items inductionHypothesis =>
    cases agree with
    | scalar simple => exact False.elim simple
    | @array _ _ others length each =>
      rw [project_array_of_unmarked unmarked.here, project_array_of_unmarked unmarked.here]
      refine congrArg (Except.map Json.array) (mapM_eq_of_forall₂ ?_)
      refine List.forall₂_iff_get.mpr ⟨length, fun index here there => ?_⟩
      have agreeItem := each index _ _ (List.getElem?_eq_getElem here)
        (List.getElem?_eq_getElem there)
      exact inductionHypothesis _ (List.getElem_mem here) unmarked agreeItem
  | object members inductionHypothesis =>
    cases agree with
    | scalar simple => exact False.elim simple
    | @object _ _ others fields =>
      rw [project_object_of_unmarked unmarked.here, project_object_of_unmarked unmarked.here]
      refine congrArg (Except.map Json.object) (carryOut_congr (fun field => ?_) tree [])
      rw [decided_edits, decided_edits]
      cases known : rule? tree field with
      | none => rw [editOf_of_rule?_eq_none known, editOf_of_rule?_eq_none known]
      | some rule =>
        refine editOf_eq_of_agreeAt known (fields field rule known) ?_
        rintro value other rules found rfl inner
        have inObject := Members.mem_of_find? found
        exact inductionHypothesis (field, value) inObject (unmarked.inner known) inner
  | _ =>
    cases agree
    rfl

/-- A name is asked for, the numbers of parts, and the tags that begin with a letter. -/
def partNumbers : FilterTree :=
  [("name", .keep),
    ("parts", .within [("id", .keep)]),
    ("tags", .keepMatching ⟨["tags"], .source "^a"⟩)]

/-- A hero with a part of the number, and with what is given beside it in the part and in front. -/
def heroWith (front part : Members) : Json :=
  .object
    (front ++
      [("tags", .array [.text "apple", .text "berry"]),
        ("parts", .array [.object (part ++ [("id", .ofInt64 1)]), .null]),
        ("name", .text "x")])

theorem unmarked_partNumbers : partNumbers.Unmarked := by
  refine .intro rfl fun field rules found => ?_
  simp only [partNumbers, rule?, Dictionary.valueAt?] at found
  split_ifs at found <;> cases found
  refine .intro rfl fun inner innerRules foundInside => ?_
  simp only [rule?, Dictionary.valueAt?] at foundInside
  split_ifs at foundInside
  cases foundInside

theorem agree_heroWith :
    partNumbers.Agree (heroWith [("secret", .text "y")] [])
      (heroWith [] [("worn", .bool true), ("size", .object [])]) := by
  have isLeaf : Rule.keep.IsLeaf := trivial
  refine .object fun field rule known => ?_
  simp only [partNumbers, rule?, Dictionary.valueAt?] at known
  split_ifs at known with name parts tags
  · cases name
    cases known
    exact .whole isLeaf (.text "x")
  · cases parts
    cases known
    refine .within (.array rfl fun index one other here there => ?_)
    rcases index with _ | _ | index <;> cases here <;> cases there
    · refine .object fun inner innerRule knownInside => ?_
      simp only [rule?, Dictionary.valueAt?] at knownInside
      split_ifs at knownInside with id
      cases id
      cases knownInside
      exact .whole isLeaf (.ofInt64 1)
    · exact .scalar trivial
  · cases tags
    cases known
    have matchIsLeaf : (Rule.keepMatching ⟨["tags"], .source "^a"⟩).IsLeaf := trivial
    exact .whole matchIsLeaf (.array [.text "apple", .text "berry"])

theorem project_eq_of_agree_hero :
    partNumbers.Unmarked ∧
      partNumbers.Agree (heroWith [("secret", .text "y")] [])
        (heroWith [] [("worn", .bool true), ("size", .object [])]) ∧
      partNumbers.project (heroWith [("secret", .text "y")] []) =
        partNumbers.project (heroWith [] [("worn", .bool true), ("size", .object [])]) :=
  ⟨unmarked_partNumbers, agree_heroWith, project_eq_of_agree unmarked_partNumbers agree_heroWith⟩

end FilterTree

end Gateway
