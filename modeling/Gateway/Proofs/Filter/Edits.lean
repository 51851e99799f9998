/-
This file says what the edits of an object's fields come to. An edit reads and writes its own field
only, so once all of them are carried out, what stands in a field depends on the edit of that field
and on what stood there at the start: no other rule and no order of the rules shows in it. The edit
of a field in turn depends on the field's rule and value alone. The members themselves, with their
order, are a different matter: an edit that would leave its field as it is leaves them all in place.
-/

import Gateway.Filter.Projection
import Gateway.Proofs.Filter.Outcome

namespace Gateway

open Dictionary (valueAt?)

/-! ### One edit -/

namespace Edit

/-- What stands in the field after the edit, by what stood there before it. -/
def outcome : Edit → Option Json → Option Json
  | .put value, _ => some value
  | .remove, _ => none
  | .leave, found => found

theorem outcome_outcome (edit : Edit) (found : Option Json) :
    edit.outcome (edit.outcome found) = edit.outcome found := by
  cases edit <;> rfl

theorem nodup_keys_apply (edit : Edit) (field : String) {members : Members}
    (distinct : members.keys.Nodup) : (edit.apply field members).keys.Nodup := by
  cases edit with
  | put value => exact Members.nodup_keys_insert distinct field value
  | remove => exact Members.nodup_keys_remove distinct field
  | leave => exact distinct

theorem find?_apply_self (edit : Edit) (field : String) {members : Members}
    (distinct : members.keys.Nodup) :
    (edit.apply field members).find? field = edit.outcome (members.find? field) := by
  cases edit with
  | put value => exact Members.find?_insert_self members field value
  | remove => exact Members.find?_remove_self distinct field
  | leave => rfl

theorem find?_apply_other (edit : Edit) {field other : String} (different : other ≠ field)
    {members : Members} (distinct : members.keys.Nodup) :
    (edit.apply field members).find? other = members.find? other := by
  cases edit with
  | put value => exact Members.find?_insert_other members different value
  | remove => exact Members.find?_remove_other distinct different
  | leave => rfl

/-- An edit that finds its outcome in place moves no member. -/
theorem apply_eq_self {edit : Edit} {field : String} {members : Members}
    (settled : edit.outcome (members.find? field) = members.find? field) :
    edit.apply field members = members := by
  cases edit with
  | put value => exact Members.insert_of_find? settled.symm
  | remove => exact Members.remove_of_find?_eq_none settled.symm
  | leave => rfl

end Edit

/-! ### All edits, one after the other -/

namespace FilterTree

/-- The edit that the list holds for a field. A field that it does not name is left alone. -/
def decided (edits : List (String × Except Fault Edit)) (field : String) : Except Fault Edit :=
  (valueAt? field edits).getD (.ok .leave)

/-- What one rule does: it decides its field, and the others go on from there. -/
theorem carryOut_cons (edits : List (String × Except Fault Edit)) (field : String) (rule : Rule)
    (rest : FilterTree) (start : Members) :
    carryOut edits ((field, rule) :: rest) start =
      (decided edits field).bind fun edit => carryOut edits rest (edit.apply field start) := by
  rw [carryOut, decided]
  cases valueAt? field edits with
  | none => rfl
  | some decision => cases decision <;> rfl

theorem carryOut_cons_eq_ok {edits : List (String × Except Fault Edit)} {field : String}
    {rule : Rule} {rest : FilterTree} {start result : Members}
    (done : carryOut edits ((field, rule) :: rest) start = .ok result) :
    ∃ edit, decided edits field = .ok edit ∧
      carryOut edits rest (edit.apply field start) = .ok result := by
  rw [carryOut_cons] at done
  exact bind_eq_ok_iff.mp done

theorem nodup_keys_carryOut {edits : List (String × Except Fault Edit)} {tree : FilterTree}
    {start result : Members} (distinct : start.keys.Nodup)
    (done : carryOut edits tree start = .ok result) : result.keys.Nodup := by
  induction tree generalizing start with
  | nil => exact Except.ok.inj done ▸ distinct
  | cons entry rest inductionHypothesis =>
    obtain ⟨field, rule⟩ := entry
    obtain ⟨edit, -, remaining⟩ := carryOut_cons_eq_ok done
    exact inductionHypothesis (edit.nodup_keys_apply field distinct) remaining

/-- Rules for other fields do not touch a field. -/
theorem find?_carryOut_other {edits : List (String × Except Fault Edit)} {tree : FilterTree}
    {start result : Members} {key : String} (distinct : start.keys.Nodup)
    (done : carryOut edits tree start = .ok result) (other : key ∉ tree.map Prod.fst) :
    result.find? key = start.find? key := by
  induction tree generalizing start with
  | nil => rw [Except.ok.inj done]
  | cons entry rest inductionHypothesis =>
    obtain ⟨field, rule⟩ := entry
    simp only [List.map_cons, List.mem_cons, not_or] at other
    obtain ⟨edit, -, remaining⟩ := carryOut_cons_eq_ok done
    rw [inductionHypothesis (edit.nodup_keys_apply field distinct) remaining other.2,
      edit.find?_apply_other other.1 distinct]

/-- A field with a rule ends with the outcome of its own edit. A rule that stands twice does the
same again. -/
theorem find?_carryOut_self {edits : List (String × Except Fault Edit)} {tree : FilterTree}
    {start result : Members} {key : String} (distinct : start.keys.Nodup)
    (done : carryOut edits tree start = .ok result) (named : key ∈ tree.map Prod.fst) :
    ∃ edit, decided edits key = .ok edit ∧
      result.find? key = edit.outcome (start.find? key) := by
  induction tree generalizing start with
  | nil => cases named
  | cons entry rest inductionHypothesis =>
    obtain ⟨field, rule⟩ := entry
    obtain ⟨edit, decision, remaining⟩ := carryOut_cons_eq_ok done
    have distinctAfter := edit.nodup_keys_apply field distinct
    by_cases inRest : key ∈ rest.map Prod.fst
    · obtain ⟨own, ownDecision, ownOutcome⟩ := inductionHypothesis distinctAfter remaining inRest
      refine ⟨own, ownDecision, ?_⟩
      by_cases same : key = field
      · subst same
        have once : own = edit := Except.ok.inj (ownDecision.symm.trans decision)
        rw [ownOutcome, once, edit.find?_apply_self key distinct, edit.outcome_outcome]
      · rw [ownOutcome, edit.find?_apply_other same distinct]
    · have same : key = field := by
        rcases List.mem_cons.mp named with here | further
        · exact here
        · exact absurd further inRest
      subst same
      exact ⟨edit, decision, by
        rw [find?_carryOut_other distinctAfter remaining inRest,
          edit.find?_apply_self key distinct]⟩

/-- Edits without a fault can all be carried out. -/
theorem carryOut_isOk {edits : List (String × Except Fault Edit)} {tree : FilterTree}
    (sound : ∀ field, ∃ edit, decided edits field = .ok edit) (start : Members) :
    ∃ result, carryOut edits tree start = .ok result := by
  induction tree generalizing start with
  | nil => exact ⟨start, rfl⟩
  | cons entry rest inductionHypothesis =>
    obtain ⟨field, rule⟩ := entry
    obtain ⟨edit, decision⟩ := sound field
    obtain ⟨result, remaining⟩ := inductionHypothesis (edit.apply field start)
    exact ⟨result, by rw [carryOut_cons, decision]; exact remaining⟩

/-- Where every edit finds its outcome in place, carrying them out changes nothing. -/
theorem carryOut_eq_self {edits : List (String × Except Fault Edit)} {tree : FilterTree}
    {start : Members}
    (settled : ∀ field, ∃ edit, decided edits field = .ok edit ∧
      edit.outcome (start.find? field) = start.find? field) :
    carryOut edits tree start = .ok start := by
  induction tree with
  | nil => rfl
  | cons entry rest inductionHypothesis =>
    obtain ⟨field, rule⟩ := entry
    obtain ⟨edit, decision, inPlace⟩ := settled field
    rw [carryOut_cons, decision]
    show carryOut edits rest (edit.apply field start) = .ok start
    rw [Edit.apply_eq_self inPlace, inductionHypothesis]

end FilterTree

/-! ### The edit of a field -/

/-- What a rule does to a field with the value. -/
def Rule.edit : Rule → Json → Except Fault Edit
  | .keep, value => .ok (.put value)
  | .keepMatching constraint, value => constraint.edit value
  | .within rules, value => (FilterTree.project rules value).map .put

theorem Rule.edit_within_eq_ok_iff {rules : FilterTree} {value : Json} {edit : Edit} :
    (Rule.within rules).edit value = .ok edit ↔
      ∃ kept, edit = .put kept ∧ rules.project value = .ok kept :=
  map_eq_ok_iff

namespace FilterTree

/-- What the tree does to a field, by what stands in it. -/
def editOf (tree : FilterTree) (field : String) : Option Json → Except Fault Edit
  | none => .ok .leave
  | some value =>
    match rule? tree field with
    | none => .ok .leave
    | some rule => rule.edit value

theorem valueAt?_edits (tree : FilterTree) (members : Members) (field : String) :
    valueAt? field (project.edits tree members) =
      (rule? tree field).bind fun rule => (members.find? field).map rule.edit := by
  induction members with
  | nil => cases rule? tree field <;> rfl
  | cons member rest inductionHypothesis =>
    obtain ⟨name, value⟩ := member
    rw [project.edits, Members.find?_cons]
    by_cases same : name = field
    · subst same
      rw [if_pos rfl]
      cases known : rule? tree name with
      | none =>
        rw [inductionHypothesis, known]
        rfl
      | some rule => cases rule <;> simp [valueAt?, Rule.edit]
    · rw [if_neg same, ← inductionHypothesis]
      cases rule? tree name with
      | none => rfl
      | some rule => cases rule <;> simp [valueAt?, same]

/-- The edits that a tree makes decide every field by its rule and its value. -/
theorem decided_edits (tree : FilterTree) (members : Members) (field : String) :
    decided (project.edits tree members) field = tree.editOf field (members.find? field) := by
  rw [decided, valueAt?_edits, editOf.eq_def]
  cases rule? tree field <;> cases members.find? field <;> rfl

theorem editOf_of_rule?_eq_none {tree : FilterTree} {field : String}
    (unnamed : rule? tree field = none) (found : Option Json) :
    tree.editOf field found = .ok .leave := by
  cases found with
  | none => rfl
  | some value => rw [editOf, unnamed]

theorem editOf_eq_leave_of_not_mem {tree : FilterTree} {field : String}
    (unnamed : field ∉ tree.map Prod.fst) (found : Option Json) :
    tree.editOf field found = .ok .leave :=
  editOf_of_rule?_eq_none (Dictionary.valueAt?_eq_none unnamed) found

/-- What stands in a field once the edits of a tree are carried out. -/
theorem find?_carryOut_edits {tree : FilterTree} {members start result : Members}
    (distinct : start.keys.Nodup)
    (done : carryOut (project.edits tree members) tree start = .ok result) (key : String) :
    ∃ edit, tree.editOf key (members.find? key) = .ok edit ∧
      result.find? key = edit.outcome (start.find? key) := by
  by_cases named : key ∈ tree.map Prod.fst
  · rw [← decided_edits]
    exact find?_carryOut_self distinct done named
  · exact ⟨.leave, editOf_eq_leave_of_not_mem named _,
      find?_carryOut_other distinct done named⟩

end FilterTree

end Gateway
