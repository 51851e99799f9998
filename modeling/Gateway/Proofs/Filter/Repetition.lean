/-
This file proves that projecting a second time changes nothing. What a rule has put into its field
it puts there again, and a field that a rule has left or emptied it leaves the second time, so the
second round of edits is the first one without its removals. On a copy of the object all of these
edits find their outcome in place; on an empty object they build the same members in the same order
as the first time. The order matters, since a removal moves the last member into the hole.
-/

import Gateway.Proofs.Filter.Fields

namespace Gateway

open FilterTree (decided carryOut)

/-! ### The second edit of a field -/

/-- What is left of an edit when it is made again. -/
def Edit.lasting : Edit → Edit
  | .put value => .put value
  | .remove | .leave => .leave

theorem Pattern.hits_hits (pattern : Pattern) (items : List Json) :
    pattern.hits (pattern.hits items) = pattern.hits items := by
  simp [Pattern.hits, List.filter_filter]

/-- A value that the pattern has put is put again. -/
theorem Pattern.edit_put {pattern : Pattern} {value kept : Json}
    (first : pattern.edit value = .put kept) : pattern.edit kept = .put kept := by
  cases value with
  | array items =>
    rw [Pattern.edit] at first
    split at first
    · cases first
    · next shown =>
      cases first
      rw [Pattern.edit, Pattern.hits_hits, if_neg shown]
  | _ =>
    change (if pattern.isMatch _ then Edit.put _ else .remove) = _ at first
    split at first
    · next shown =>
      cases first
      exact if_pos shown
    · cases first

/-- A value that a match has put is put again. -/
theorem Match.edit_put {constraint : Match} {value kept : Json}
    (first : constraint.edit value = .ok (.put kept)) :
    constraint.edit kept = .ok (.put kept) := by
  obtain ⟨pattern, compiled, decided⟩ := Match.edit_eq_ok_iff.mp first
  rw [Match.edit_of_compile? compiled, Pattern.edit_put decided.symm]

/-- A value that a rule has put is put again, as long as the same holds of the rules inside. -/
theorem Rule.edit_put {rule : Rule} {value kept : Json}
    (inside : ∀ rules inner, FilterTree.project rules value = .ok inner →
      FilterTree.project rules inner = .ok inner)
    (first : rule.edit value = .ok (.put kept)) : rule.edit kept = .ok (.put kept) := by
  cases rule with
  | keep => rfl
  | keepMatching constraint => exact Match.edit_put first
  | within rules =>
    obtain ⟨inner, same, projected⟩ := Rule.edit_within_eq_ok_iff.mp first
    cases same
    exact Rule.edit_within_eq_ok_iff.mpr ⟨kept, rfl, inside rules kept projected⟩

namespace FilterTree

/-- The edit of a field, made on what the first edit of it has left: a value that was put is put
again, and everything else stays. -/
theorem editOf_lasting {tree : FilterTree} {field : String} {found : Option Json} {edit : Edit}
    (marked : Bool)
    (inside : ∀ value, found = some value → ∀ rules inner,
      FilterTree.project rules value = .ok inner → FilterTree.project rules inner = .ok inner)
    (first : tree.editOf field found = .ok edit) :
    tree.editOf field (edit.outcome (if marked then found else none)) = .ok edit.lasting := by
  cases edit with
  | put kept =>
    cases found with
    | none => cases first
    | some value =>
      show tree.editOf field (some kept) = .ok (.put kept)
      rw [editOf] at first ⊢
      cases known : tree.rule? field with
      | none =>
        rw [known] at first
        cases first
      | some rule =>
        rw [known] at first
        exact Rule.edit_put (inside value rfl) first
  | remove => rfl
  | leave =>
    cases marked with
    | true => exact first
    | false => rfl

/-! ### The second round of edits -/

/-- From members without the fields that the first round removes, the lasting edits alone build what
the first round builds. -/
theorem carryOut_lasting {first second : List (String × Except Fault Edit)} {tree : FilterTree}
    {start result : Members}
    (lasting : ∀ field edit, decided first field = .ok edit →
      decided second field = .ok edit.lasting)
    (clean : ∀ field, decided first field = .ok .remove → start.find? field = none)
    (done : carryOut first tree start = .ok result) : carryOut second tree start = .ok result := by
  induction tree generalizing start with
  | nil => exact done
  | cons entry rest inductionHypothesis =>
    obtain ⟨field, rule⟩ := entry
    obtain ⟨edit, decision, remaining⟩ := carryOut_cons_eq_ok done
    have same : edit.lasting.apply field start = edit.apply field start := by
      cases edit with
      | put value => rfl
      | remove => exact (Members.remove_of_find?_eq_none (clean field decision)).symm
      | leave => rfl
    have cleanAfter : ∀ other, decided first other = .ok .remove →
        (edit.apply field start).find? other = none := by
      intro other removed
      cases edit with
      | put value =>
        have different : other ≠ field := by
          rintro rfl
          cases decision.symm.trans removed
        exact (Members.find?_insert_other start different value).trans (clean other removed)
      | remove =>
        rw [← same]
        exact clean other removed
      | leave => exact clean other removed
    rw [carryOut_cons, lasting field edit decision]
    show carryOut second rest (edit.lasting.apply field start) = .ok result
    rw [same]
    exact inductionHypothesis cleanAfter remaining

/-- The second projection of an object, as long as projecting twice is projecting once for the
values of its fields. -/
theorem project_object_again {tree : FilterTree} {members left : Members}
    (distinct : members.keys.Nodup)
    (inside : ∀ member ∈ members, ∀ rules inner,
      FilterTree.project rules member.2 = .ok inner →
        FilterTree.project rules inner = .ok inner)
    (projected : tree.project (.object members) = .ok (.object left)) :
    tree.project (.object left) = .ok (.object left) := by
  have distinctStart := tree.nodup_keys_start distinct
  obtain ⟨result, same, done⟩ := (project_object_eq_ok_iff tree members _).mp projected
  cases same
  have lasting : ∀ field edit, decided (project.edits tree.named members) field = .ok edit →
      decided (project.edits tree.named left) field = .ok edit.lasting := by
    intro field edit decision
    rw [decided_edits] at decision
    obtain ⟨other, otherDecision, outcome⟩ := find?_of_project distinctStart projected field
    have one : other = edit := Except.ok.inj (otherDecision.symm.trans decision)
    rw [decided_edits, outcome, one]
    refine editOf_lasting tree.selectsAll (fun value found => ?_) decision
    exact inside (field, value) (Members.mem_of_find? found)
  refine (project_object_eq_ok_iff tree left _).mpr ⟨left, rfl, ?_⟩
  rw [start] at done ⊢
  cases marked : tree.selectsAll with
  | true =>
    refine carryOut_eq_self fun field => ?_
    obtain ⟨edit, decision, outcome⟩ := find?_of_project distinctStart projected field
    rw [← decided_edits] at decision
    refine ⟨edit.lasting, lasting field edit decision, ?_⟩
    cases edit with
    | put value => exact outcome.symm
    | remove => rfl
    | leave => rfl
  | false =>
    rw [marked] at done
    exact carryOut_lasting lasting (fun _ _ => rfl) done

/-- What a projection has left it leaves again. -/
theorem project_again (tree : FilterTree) {value kept : Json} (wellFormed : value.WellFormed)
    (projected : tree.project value = .ok kept) : tree.project kept = .ok kept := by
  -- the rules inside a field are another tree, so the induction is on the value for all trees
  induction value using Json.induction generalizing tree kept with
  | array items inductionHypothesis =>
    obtain ⟨left, rfl, each⟩ := (project_array_eq_ok_iff tree items kept).mp projected
    have wellFormedItems := (Json.itemsWellFormed_iff items).mp wellFormed
    refine (project_array_eq_ok_iff tree left _).mpr ⟨left, rfl, ?_⟩
    exact forall₂_again (fun item inArray itemKept =>
      inductionHypothesis item inArray tree.named (wellFormedItems item inArray)) each
  | object members inductionHypothesis =>
    obtain ⟨left, rfl, -⟩ := (project_object_eq_ok_iff tree members kept).mp projected
    have wellFormedMembers := (Json.membersWellFormed_iff members).mp wellFormed.2
    exact project_object_again wellFormed.1 (fun member inObject rules inner =>
      inductionHypothesis member inObject rules (wellFormedMembers member inObject)) projected
  | _ =>
    cases projected
    rfl

/-- Projecting twice is projecting once: what a projection has left it leaves as it is, with every
member in its place, and no pattern fails that was not met the first time. -/
theorem project_idempotent (tree : FilterTree) {value : Json} (wellFormed : value.WellFormed) :
    (tree.project value).bind tree.project = tree.project value := by
  cases projected : tree.project value with
  | error fault => rfl
  | ok kept => exact project_again tree wellFormed projected

theorem project_idempotent_hero :
    heroBody.WellFormed ∧ heroRules.project heroBody = .ok heroLeft ∧
      heroRules.project heroLeft = .ok heroLeft := by
  refine ⟨wellFormed_heroBody, project_heroBody, ?_⟩
  have twice := project_idempotent heroRules wellFormed_heroBody
  rw [project_heroBody] at twice
  exact twice

end FilterTree

end Gateway
