/-
This file proves that a projection only leaves things out. What it keeps of a value is within the
value: an object lost members, an array lost items or its items lost some of their content, and
everything else is as it was. So nothing changes its kind, no scalar changes, and what stands at a
place of the kept value stood under the same names before. A tree that can be applied to a value can
also be applied to all that is within it, because it comes to no other patterns there.
-/

import Gateway.Json.Shape
import Gateway.Proofs.Filter.Disclosure
import Gateway.Proofs.Filter.Faults

namespace Gateway

/-! ### Values within values -/

namespace Json

/-- The first value is what is left of the second: the value itself, an object of some members with
what is left of their values, an array of what is left of each item, or an array of some items. -/
inductive Within : Json → Json → Prop
  | refl (value : Json) : Within value value
  | object {kept source : Members} (named : ∀ key ∈ kept.keys, key ∈ source.keys)
    (each : ∀ key inner outer, kept.find? key = some inner → source.find? key = some outer →
      Within inner outer) : Within (.object kept) (.object source)
  | items {kept source : List Json} (each : List.Forall₂ Within kept source) :
    Within (.array kept) (.array source)
  | sublist {kept source : List Json} (chosen : kept.Sublist source) :
    Within (.array kept) (.array source)

theorem within_object {kept source : Members}
    (each : ∀ key inner, kept.find? key = some inner →
      ∃ outer, source.find? key = some outer ∧ inner.Within outer) :
    Within (.object kept) (.object source) := by
  refine .object (fun key named => ?_) fun key inner outer here there => ?_
  · by_contra absent
    cases found : kept.find? key with
    | none => exact (Members.find?_eq_none_iff kept key).mp found named
    | some inner =>
      obtain ⟨outer, there, -⟩ := each key inner found
      cases there.symm.trans ((Members.find?_eq_none_iff source key).mpr absent)
  · obtain ⟨other, found, within⟩ := each key inner here
    exact Option.some.inj (found.symm.trans there) ▸ within

namespace Within

/-- An object is left of an object, and each of its members of the one with its name. -/
theorem of_object {kept : Members} {source : Json} (within : Within (.object kept) source) :
    ∃ members : Members, source = .object members ∧
      ∀ key inner, kept.find? key = some inner →
        ∃ outer, members.find? key = some outer ∧ inner.Within outer := by
  cases within with
  | refl => exact ⟨kept, rfl, fun key inner found => ⟨inner, found, .refl inner⟩⟩
  | @object _ source named each =>
    refine ⟨source, rfl, fun key inner found => ?_⟩
    have inKept : key ∈ kept.keys := by
      by_contra absent
      cases found.symm.trans ((Members.find?_eq_none_iff kept key).mpr absent)
    cases there : source.find? key with
    | none => exact absurd (named key inKept) ((Members.find?_eq_none_iff source key).mp there)
    | some outer => exact ⟨outer, rfl, each key inner outer found there⟩

/-- An array is left of an array, and each of its items of one there. -/
theorem of_array {kept : List Json} {source : Json} (within : Within (.array kept) source) :
    ∃ items, source = .array items ∧
      ∀ (index : Nat) (inner : Json), kept[index]? = some inner →
        ∃ (other : Nat) (outer : Json), items[other]? = some outer ∧ inner.Within outer := by
  cases within with
  | refl => exact ⟨kept, rfl, fun index inner found => ⟨index, inner, found, .refl inner⟩⟩
  | @items _ source each =>
    refine ⟨source, rfl, fun index inner found => ?_⟩
    have length : kept.length = source.length := each.length_eq
    obtain ⟨bound, rfl⟩ := List.getElem?_eq_some_iff.mp found
    have within := each.get bound (length ▸ bound)
    exact ⟨index, _, List.getElem?_eq_getElem (length ▸ bound), within⟩
  | @sublist _ source chosen =>
    refine ⟨source, rfl, fun index inner found => ?_⟩
    obtain ⟨other, there⟩ := List.mem_iff_getElem?.mp (chosen.subset (List.mem_of_getElem? found))
    exact ⟨other, inner, there, .refl inner⟩

/-- Nothing changes its kind, and no scalar its content. -/
theorem found_eq {kept source : Json} (within : kept.Within source) :
    Found.ofJson kept = Found.ofJson source := by
  cases within <;> rfl

/-- What stands at a place of the kept value is left of what stood at a place with the same names.
Only the positions of items may be others. -/
theorem at? {kept source : Json} (within : kept.Within source) {location : List Step}
    {inner : Json} (found : kept.at? location = some inner) :
    ∃ origin outer, fieldNames origin = fieldNames location ∧
      source.at? origin = some outer ∧ inner.Within outer := by
  induction location generalizing kept source with
  | nil =>
    rw [Json.at?_nil] at found
    exact ⟨[], source, rfl, Json.at?_nil source, Option.some.inj found ▸ within⟩
  | cons step rest inductionHypothesis =>
    cases kept with
    | array items =>
      cases step with
      | field name => cases found
      | item index =>
        obtain ⟨others, rfl, each⟩ := within.of_array
        rw [at?_array_item, Option.bind_eq_some_iff] at found
        obtain ⟨item, here, further⟩ := found
        obtain ⟨other, original, there, itemWithin⟩ := each index item here
        obtain ⟨origin, outer, names, reached, innerWithin⟩ :=
          inductionHypothesis itemWithin further
        refine ⟨.item other :: origin, outer, names, ?_, innerWithin⟩
        rw [at?_array_item, there]
        exact reached
    | object members =>
      cases step with
      | item index => cases found
      | field name =>
        obtain ⟨others, rfl, each⟩ := within.of_object
        rw [at?_object_field, Option.bind_eq_some_iff] at found
        obtain ⟨value, here, further⟩ := found
        obtain ⟨original, there, valueWithin⟩ := each name value here
        obtain ⟨origin, outer, names, reached, innerWithin⟩ :=
          inductionHypothesis valueWithin further
        refine ⟨.field name :: origin, outer, congrArg (name :: ·) names, ?_, innerWithin⟩
        rw [at?_object_field, there]
        exact reached
    | _ => cases step <;> cases found

end Within

end Json

/-! ### What a projection keeps -/

/-- What a match leaves of a field is left of its value. -/
theorem Match.Leaves.within {constraint : Match} {marked : Bool} {value inner : Json}
    (leaves : constraint.Leaves marked value (some inner)) : inner.Within value := by
  obtain ⟨pattern, -, outcome⟩ := leaves
  cases value with
  | array items =>
    dsimp only at outcome
    split at outcome
    · split at outcome
      · exact Option.some.inj outcome ▸ .refl _
      · cases outcome
    · exact Option.some.inj outcome ▸ .sublist List.filter_sublist
  | _ =>
    dsimp only at outcome
    split at outcome
    · exact Option.some.inj outcome ▸ .refl _
    · cases outcome

namespace FilterTree

/-- What is left in a field is left of what stood there, as long as the same holds of what the trees
inside keep of it. -/
theorem FieldLeaves.within {tree : FilterTree} {field : String} {found : Option Json}
    {inner : Json}
    (inside : ∀ value, found = some value → ∀ rules kept,
      FilterTree.project rules value = .ok kept → kept.Within value)
    (leaves : tree.FieldLeaves field found (some inner)) :
    ∃ outer, found = some outer ∧ inner.Within outer := by
  cases found with
  | none => cases leaves
  | some value =>
    refine ⟨value, rfl, ?_⟩
    rw [FieldLeaves] at leaves
    cases known : tree.named.rule? field with
    | none =>
      rw [known] at leaves
      dsimp only at leaves
      split at leaves
      · exact Option.some.inj leaves ▸ .refl _
      · cases leaves
    | some rule =>
      rw [known] at leaves
      cases rule with
      | keep => exact Option.some.inj leaves ▸ .refl _
      | keepMatching constraint => exact Match.Leaves.within leaves
      | within rules =>
        obtain ⟨kept, projected, same⟩ := leaves
        exact Option.some.inj same ▸ inside value rfl rules kept projected

/-- What a projection keeps of a value is left of it. -/
theorem project_within {tree : FilterTree} {value kept : Json} (wellFormed : value.WellFormed)
    (projected : tree.project value = .ok kept) : kept.Within value := by
  induction value using Json.induction generalizing tree kept with
  | array items inductionHypothesis =>
    obtain ⟨left, rfl, each⟩ := (project_array_eq_ok_iff tree items kept).mp projected
    have wellFormedItems := (Json.itemsWellFormed_iff items).mp wellFormed
    exact .items (forall₂_flip_of_mem (fun item inArray itemKept =>
      inductionHypothesis item inArray (wellFormedItems item inArray)) each)
  | object members inductionHypothesis =>
    obtain ⟨left, rfl, -, fields⟩ := leaves_of_project wellFormed projected
    have wellFormedMembers := (Json.membersWellFormed_iff members).mp wellFormed.2
    refine Json.within_object fun key inner found => ?_
    have leaves := found ▸ fields key
    refine leaves.within fun value here rules innerKept => ?_
    have inObject := Members.mem_of_find? here
    exact inductionHypothesis (key, value) inObject (wellFormedMembers _ inObject)
  | _ => exact Except.ok.inj projected ▸ .refl _

/-! ### Projecting what is left -/

/-- In what is left of a value a projection comes to no other patterns than in the value. -/
theorem patterns_subset {tree : FilterTree} {kept source : Json} (within : kept.Within source) :
    tree.patterns kept ⊆ tree.patterns source := by
  induction kept using Json.induction generalizing tree source with
  | array items inductionHypothesis =>
    obtain ⟨others, rfl, each⟩ := within.of_array
    intro pattern met
    obtain ⟨item, inArray, metInside⟩ := mem_patterns_array_iff.mp met
    obtain ⟨index, here⟩ := List.mem_iff_getElem?.mp inArray
    obtain ⟨other, original, there, itemWithin⟩ := each index item here
    exact mem_patterns_array_iff.mpr
      ⟨original, List.mem_of_getElem? there, inductionHypothesis item inArray itemWithin metInside⟩
  | object members inductionHypothesis =>
    obtain ⟨others, rfl, each⟩ := within.of_object
    intro pattern met
    obtain ⟨field, inner, rule, here, known, metInside⟩ := mem_patterns_object_iff.mp met
    obtain ⟨outer, there, innerWithin⟩ := each field inner here
    refine mem_patterns_object_iff.mpr ⟨field, outer, rule, there, known, ?_⟩
    cases rule with
    | within rules =>
      exact inductionHypothesis (field, inner) (Members.mem_of_find? here) innerWithin metInside
    | _ => exact metInside
  | _ => exact List.nil_subset _

/-- A tree that can be applied to a value can be applied to what is left of it. -/
theorem exists_project_of_within {tree : FilterTree} {kept source : Json}
    (within : kept.Within source) (done : ∃ left, tree.project source = .ok left) :
    ∃ left, tree.project kept = .ok left := by
  rw [exists_project_iff] at done ⊢
  exact fun pattern met => done pattern (patterns_subset within met)

end FilterTree

end Gateway
