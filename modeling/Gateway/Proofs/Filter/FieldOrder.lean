/-
This file says in which order the fields of a projected object stand. Without the marker for all
fields they are written in the order of the rules, so their names ascend, octet by octet. Under the
marker they start in the order of the object, a rule that keeps its field writes it in its place,
and a match that fails takes its field out and moves the last one into the hole. What the rules
leave can be told without following them: a field that is left stands in its own place, and the
place of a field that is gone is filled by one that stood behind the last place that is left,
however often it was moved.
-/

import Gateway.Proofs.Filter.Traversal
import Mathlib.Data.List.Perm.Subperm

namespace Gateway

open FilterTree (decided carryOut)

/-! ### Fields that are written one behind the other -/

/-- An edit of a field that is not there writes it behind the others, or does nothing. -/
theorem Edit.exists_keys_apply (edit : Edit) {field : String} {members : Members}
    (absent : field ∉ members.keys) :
    ∃ added : List String, added.Sublist [field] ∧
      (edit.apply field members).keys = members.keys ++ added := by
  cases edit with
  | put value => exact ⟨[field], .refl _, (Members.keys_insert ..).trans (if_neg absent)⟩
  | remove =>
    have unchanged := Members.remove_of_find?_eq_none ((Members.find?_eq_none_iff ..).mpr absent)
    exact ⟨[], List.nil_sublist _, by rw [apply, unchanged, List.append_nil]⟩
  | leave => exact ⟨[], List.nil_sublist _, (List.append_nil _).symm⟩

/-- Rules for fields that are not there write some of them behind the others, in their own order. -/
theorem FilterTree.exists_keys_carryOut {edits : List (String × Except Fault Edit)}
    {tree : FilterTree} {start result : Members} (distinct : (tree.map Prod.fst).Nodup)
    (absent : ∀ field ∈ tree.map Prod.fst, field ∉ start.keys)
    (done : carryOut edits tree start = .ok result) :
    ∃ added : List String, added.Sublist (tree.map Prod.fst) ∧
      result.keys = start.keys ++ added := by
  induction tree generalizing start with
  | nil => exact ⟨[], .refl _, by rw [Except.ok.inj done, List.append_nil]⟩
  | cons entry rest inductionHypothesis =>
    obtain ⟨field, rule⟩ := entry
    obtain ⟨once, distinctRest⟩ := List.nodup_cons.mp distinct
    obtain ⟨here, further⟩ := List.forall_mem_cons.mp absent
    obtain ⟨edit, -, remaining⟩ := carryOut_cons_eq_ok done
    obtain ⟨first, ofField, written⟩ := edit.exists_keys_apply here
    have absentAfter : ∀ other ∈ rest.map Prod.fst, other ∉ (edit.apply field start).keys := by
      intro other inRest inside
      rcases List.mem_append.mp (written ▸ inside) with before | added
      · exact further other inRest before
      · obtain rfl := List.mem_singleton.mp (ofField.subset added)
        exact once inRest
    obtain ⟨others, ofRest, result⟩ := inductionHypothesis distinctRest absentAfter remaining
    refine ⟨first ++ others, ofField.append ofRest, ?_⟩
    rw [result, written, List.append_assoc]

/-! ### Fields that are taken out one by one -/

/-- The keys that are left of the original ones stand in their own places, and in the place of each
key that is gone stands one that stood behind the last place that is left. -/
structure Settled (original left : List String) : Prop where
  shorter : left.length ≤ original.length
  own : ∀ place key, original[place]? = some key → place < left.length → key ∈ left →
    left[place]? = some key
  filled : ∀ place key, original[place]? = some key → place < left.length → key ∉ left →
    ∃ source other, left.length ≤ source ∧ original[source]? = some other ∧
      left[place]? = some other

theorem settled_refl (keys : List String) : Settled keys keys where
  shorter := Nat.le_refl _
  own _ _ stood _ _ := stood
  filled _ _ stood _ gone := absurd (List.mem_of_getElem? stood) gone

/-- Where no original key is gone, the keys are in their original order. -/
theorem Settled.eq_of_subset {original left : List String} (settled : Settled original left)
    (distinct : original.Nodup) (all : ∀ key ∈ original, key ∈ left) : left = original := by
  have longer : original.length ≤ left.length := (List.subperm_of_subset distinct all).length_le
  have same : left.length = original.length := Nat.le_antisymm settled.shorter longer
  refine List.ext_getElem? fun place => ?_
  cases stood : original[place]? with
  | none =>
    rw [List.getElem?_eq_none_iff] at stood ⊢
    exact same ▸ stood
  | some key =>
    have inside := (List.getElem?_eq_some_iff.mp stood).1
    exact settled.own place key stood (same ▸ inside) (all key (List.mem_of_getElem? stood))

/-- Where the keys that are left are settled, they are so when one more of them is removed. -/
theorem Settled.remove {original : List String} {members : Members}
    (settled : Settled original members.keys) (distinct : members.keys.Nodup) {key : String}
    (inside : key ∈ members.keys) : Settled original (members.remove key).keys := by
  have length := Members.length_keys_remove inside
  have shorter := settled.shorter
  refine ⟨by omega, fun place own stood short isLeft => ?_, fun place gone stood short isGone => ?_⟩
  · obtain ⟨member, isMember, rfl⟩ := List.mem_map.mp isLeft
    obtain ⟨before, different⟩ := (Members.mem_remove_iff distinct key member).mp isMember
    have there := settled.own place member.1 stood (by omega) (List.mem_map_of_mem before)
    rcases Members.getElem?_keys_remove members key short with same | ⟨isKey, -⟩
    · exact same.trans there
    · exact absurd (Option.some.inj (there.symm.trans isKey)) different
  · rcases Members.getElem?_keys_remove members key short with same | ⟨-, moved⟩
    · by_cases before : gone ∈ members.keys
      · have there := settled.own place gone stood (by omega) before
        exact absurd (List.mem_of_getElem? (same.trans there)) isGone
      · obtain ⟨source, other, behind, stoodThere, here⟩ :=
          settled.filled place gone stood (by omega) before
        exact ⟨source, other, by omega, stoodThere, same.trans here⟩
    · -- what has come here stood in the last place, in its own right or after it was moved before
      have final : (members.remove key).keys.length < original.length := by omega
      have stoodLast := List.getElem?_eq_getElem final
      by_cases before : original[(members.remove key).keys.length] ∈ members.keys
      · exact ⟨_, _, Nat.le_refl _, stoodLast,
          moved.trans (settled.own _ _ stoodLast (by omega) before)⟩
      · obtain ⟨source, other, behind, stoodThere, here⟩ :=
          settled.filled _ _ stoodLast (by omega) before
        exact ⟨source, other, by omega, stoodThere, moved.trans here⟩

/-- Edits that put nothing new leave the keys settled. -/
theorem FilterTree.settled_carryOut {edits : List (String × Except Fault Edit)}
    {tree : FilterTree} {original : List String} {start result : Members}
    (distinct : start.keys.Nodup)
    (present : ∀ field value, decided edits field = .ok (.put value) → field ∈ start.keys)
    (settled : Settled original start.keys) (done : carryOut edits tree start = .ok result) :
    Settled original result.keys := by
  induction tree generalizing start with
  | nil => exact Except.ok.inj done ▸ settled
  | cons entry rest inductionHypothesis =>
    obtain ⟨field, rule⟩ := entry
    obtain ⟨edit, decision, remaining⟩ := carryOut_cons_eq_ok done
    have distinctAfter := edit.nodup_keys_apply field distinct
    cases edit with
    | put value =>
      have same : (start.insert field value).keys = start.keys :=
        (Members.keys_insert ..).trans (if_pos (present field value decision))
      exact inductionHypothesis distinctAfter (same.symm ▸ present) (same.symm ▸ settled) remaining
    | remove =>
      by_cases inside : field ∈ start.keys
      · refine inductionHypothesis distinctAfter (fun other value decisionOther => ?_)
          (settled.remove distinct inside) remaining
        have different : other ≠ field := by
          rintro rfl
          cases decision.symm.trans decisionOther
        obtain ⟨member, isMember, rfl⟩ := List.mem_map.mp (present other value decisionOther)
        exact List.mem_map_of_mem ((Members.mem_remove_iff distinct field member).mpr
          ⟨isMember, different⟩)
      · have unchanged := Members.remove_of_find?_eq_none
          ((Members.find?_eq_none_iff ..).mpr inside)
        rw [Edit.apply, unchanged] at remaining
        exact inductionHypothesis distinct present settled remaining
    | leave => exact inductionHypothesis distinct present settled remaining

/-! ### The fields of a projected object -/

/-- The pattern of the match can be read, and the value is no array and does not show it. -/
def Match.Refuses (constraint : Match) (value : Json) : Prop :=
  ∃ pattern, constraint.pattern.compile? = some pattern ∧ (∀ items, value ≠ .array items) ∧
    pattern.isMatch value.matchText = false

/-- Under the marker a match leaves nothing exactly where it fails. -/
theorem Match.eq_none_iff_of_leaves {constraint : Match} {value : Json} {left : Option Json}
    (leaves : constraint.Leaves true value left) : left = none ↔ constraint.Refuses value := by
  obtain ⟨pattern, compiled, rfl⟩ := leaves
  have own : constraint.Refuses value ↔
      (∀ items, value ≠ .array items) ∧ pattern.isMatch value.matchText = false := by
    simp [Refuses, compiled]
  rw [own]
  cases value with
  | array items =>
    refine iff_of_false ?_ fun refused => refused.1 items rfl
    dsimp only
    split <;> exact Option.some_ne_none _
  | _ => simp

namespace FilterTree

variable {tree : FilterTree} {members left : Members}

/-- Under the marker nothing is left of a field exactly where it has a match that fails. -/
theorem eq_none_iff_of_fieldLeaves (marked : tree.selectsAll = true) {field : String}
    {value : Json} {leftThere : Option Json}
    (leaves : tree.FieldLeaves field (some value) leftThere) :
    leftThere = none ↔
      ∃ constraint, tree.named.rule? field = some (.keepMatching constraint) ∧
        constraint.Refuses value := by
  rw [FieldLeaves] at leaves
  cases known : tree.named.rule? field with
  | none =>
    rw [known] at leaves
    dsimp only at leaves
    rw [leaves, if_pos marked]
    simp
  | some rule =>
    rw [known] at leaves
    cases rule with
    | keep =>
      rw [show leftThere = some value from leaves]
      simp
    | keepMatching constraint =>
      rw [marked] at leaves
      simpa using Match.eq_none_iff_of_leaves leaves
    | within rules =>
      obtain ⟨kept, -, rfl⟩ := leaves
      simp

/-- Without the marker the names of the fields ascend, octet by octet. -/
theorem pairwise_octetsBefore_keys (sorted : tree.Sorted) (unmarked : tree.selectsAll = false)
    (projected : tree.project (.object members) = .ok (.object left)) :
    left.keys.Pairwise Text.OctetsBefore := by
  obtain ⟨result, same, done⟩ := (project_object_eq_ok_iff tree members _).mp projected
  cases same
  rw [start, unmarked, if_neg Bool.false_ne_true] at done
  have ascending : (tree.named.map Prod.fst).Pairwise (· < ·) := sorted.named
  obtain ⟨added, ofRules, written⟩ := exists_keys_carryOut
    (ascending.imp fun below => String.ne_of_lt below) (fun _ _ => List.not_mem_nil) done
  rw [written]
  exact (ascending.sublist ofRules).imp Text.octetsBefore_of_lt

/-- Under the marker the names of the fields are settled in their order in the object. -/
theorem settled_keys (marked : tree.selectsAll = true) (distinct : members.keys.Nodup)
    (projected : tree.project (.object members) = .ok (.object left)) :
    Settled members.keys left.keys := by
  obtain ⟨result, same, done⟩ := (project_object_eq_ok_iff tree members _).mp projected
  cases same
  rw [start, marked, if_pos rfl] at done
  refine settled_carryOut distinct (fun field value decision => ?_) (settled_refl _) done
  by_contra absent
  rw [decided_edits, (Members.find?_eq_none_iff ..).mpr absent] at decision
  cases decision

/-- In which order the fields of a projected object stand. Without the marker their names ascend,
octet by octet. Under the marker the fields that are gone are those with a match that fails; every
other field stands in its own place if that is still there; the place of a field that is gone is
filled by one that stood behind the last place that is left; and where no field is gone the order is
that of the object. -/
theorem project_keys (sorted : tree.Sorted) (distinct : members.keys.Nodup) {kept : Json}
    (projected : tree.project (.object members) = .ok kept) :
    ∃ left : Members, kept = .object left ∧ left.keys.Nodup ∧
      (tree.selectsAll = false → left.keys.Pairwise Text.OctetsBefore) ∧
      (tree.selectsAll = true →
        (∀ key ∈ left.keys, key ∈ members.keys) ∧
        (∀ key value, members.find? key = some value →
          (key ∉ left.keys ↔
            ∃ constraint, tree.named.rule? key = some (.keepMatching constraint) ∧
              constraint.Refuses value)) ∧
        left.keys.length ≤ members.keys.length ∧
        (∀ place key, members.keys[place]? = some key → place < left.keys.length →
          (key ∈ left.keys → left.keys[place]? = some key) ∧
          (key ∉ left.keys → ∃ source other, left.keys.length ≤ source ∧
            members.keys[source]? = some other ∧ left.keys[place]? = some other)) ∧
        ((∀ key ∈ members.keys, key ∈ left.keys) → left.keys = members.keys)) := by
  obtain ⟨(left : Members), rfl, done⟩ := (project_object_eq_ok_iff tree members kept).mp projected
  refine ⟨left, rfl, nodup_keys_carryOut (tree.nodup_keys_start distinct) done,
    fun unmarked => pairwise_octetsBefore_keys sorted unmarked projected, fun marked => ?_⟩
  have settled := settled_keys marked distinct projected
  have leaves (key : String) : tree.FieldLeaves key (members.find? key) (left.find? key) := by
    obtain ⟨edit, decided, outcome⟩ :=
      find?_of_project (tree.nodup_keys_start distinct) projected key
    exact outcome ▸ fieldLeaves_of_editOf decided
  refine ⟨fun key isLeft => ?_, fun key value found => ?_, settled.shorter,
    fun place key stood short =>
      ⟨settled.own place key stood short, settled.filled place key stood short⟩,
    settled.eq_of_subset distinct⟩
  · by_contra absent
    have none := leaves key
    rw [(Members.find?_eq_none_iff ..).mpr absent] at none
    exact (Members.find?_eq_none_iff ..).mp none isLeft
  · rw [← Members.find?_eq_none_iff]
    exact eq_none_iff_of_fieldLeaves marked (found ▸ leaves key)

/-- Two matches beside the marker. -/
def cityRules : FilterTree :=
  [(selectAllMarker, .keep),
    ("alias", .keepMatching ⟨["alias"], .source "^met"⟩),
    ("city", .keepMatching ⟨["city"], .source "^met"⟩)]

/-- The city and the alias do not match, and the name behind them is moved twice to come to the
front. -/
theorem project_keys_moved :
    let members : Members := [("city", .text "gotham"), ("alias", .text "bat"), ("name", .null)]
    let left : Members := [("name", .null)]
    cityRules.Sorted ∧ members.keys.Nodup ∧
      cityRules.project (.object members) = .ok (.object left) ∧
      ∃ source other, left.keys.length ≤ source ∧ members.keys[source]? = some other ∧
        left.keys[0]? = some other := by
  intro members left
  have sorted : (cityRules.map Prod.fst).Pairwise (· < ·) := by decide
  have distinct : members.keys.Nodup := by decide
  have projected : cityRules.project (.object members) = .ok (.object left) := rfl
  obtain ⟨own, same, -, -, marked⟩ := project_keys sorted distinct projected
  obtain rfl : left = own := Json.object.inj same
  exact ⟨sorted, distinct, projected,
    ((marked rfl).2.2.2.1 0 "city" rfl (by decide)).2 (by decide)⟩

end FilterTree

end Gateway
