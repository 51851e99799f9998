/-
This file defines what results are once the octets of every body in them have been read. Octets
travel on as they arrived, and each stage that looks inside a body reads them for itself, so a
result and what it is once read differ in nothing that a stage sees: a tree keeps the same of both,
and both are written as the same JSON.
-/

import Gateway.Proofs.Filter.Entries
import Gateway.Resource.Wire

namespace Gateway

/-! ### Results that have been read -/

/-- The record with the value that its body holds in the place of octets. -/
def Record.decoded (result : Record) : Record :=
  { result with body := .value result.body.content }

namespace Resource

/-- The entry with every record in it read. -/
def decoded : Resource → Resource
  | .done result => .done result.decoded
  | .multiplexed items => .multiplexed (decodedItems items)
  | .pending statement => .pending statement
where
  decodedItems : List Resource → List Resource
    | [] => []
    | item :: rest => item.decoded :: decodedItems rest

theorem decoded_multiplexed (items : List Resource) :
    (multiplexed items).decoded = .multiplexed (items.map decoded) := by
  rw [decoded]
  congr 1
  induction items with
  | nil => rfl
  | cons item rest inductionHypothesis =>
    rw [decoded.decodedItems, List.map_cons, inductionHypothesis]

theorem toJson_multiplexed (items : List Resource) :
    (multiplexed items).toJson = .array (items.map toJson) := by
  rw [toJson]
  congr 1
  induction items with
  | nil => rfl
  | cons item rest inductionHypothesis =>
    rw [toJson.itemsToJson, List.map_cons, inductionHypothesis]

/-- An entry is written as the same JSON whether its bodies were read before or not. -/
theorem toJson_decoded (resource : Resource) : resource.decoded.toJson = resource.toJson := by
  induction resource using Resource.induction with
  | done result => rfl
  | multiplexed items inductionHypothesis =>
    rw [decoded_multiplexed, toJson_multiplexed, toJson_multiplexed, List.map_map]
    exact congrArg Json.array (List.map_congr_left inductionHypothesis)
  | pending statement => rfl

/-- A list of entries has been read where each of them has. -/
theorem decoded_multiplexed_eq_self {items : List Resource}
    (each : ∀ item ∈ items, item.decoded = item) :
    (multiplexed items).decoded = .multiplexed items := by
  rw [decoded_multiplexed, List.map_congr_left each, List.map_id']

/-- An entry has been read where each record in it has. -/
theorem decoded_eq_self {resource : Resource}
    (each : ∀ result, .record result ∈ resource.ends → result.decoded = result) :
    resource.decoded = resource := by
  induction resource using Resource.induction with
  | done result => exact congrArg done (each result (List.mem_singleton_self _))
  | multiplexed items inductionHypothesis =>
    refine decoded_multiplexed_eq_self fun item inside => ?_
    exact inductionHypothesis item inside fun result isEnd =>
      each result (mem_ends_multiplexed_iff.mpr ⟨item, inside, isEnd⟩)
  | pending statement => rfl

/-! ### Filtering -/

/-- A tree keeps the same of an entry whether its bodies were read before or not. -/
theorem filter_decoded (tree : FilterTree) (resource : Resource) :
    resource.decoded.filter tree = resource.filter tree := by
  induction resource using Resource.induction with
  | done result => rfl
  | multiplexed items inductionHypothesis =>
    rw [decoded_multiplexed, filter, filter, filterItems_eq_mapM, filterItems_eq_mapM]
    refine congrArg (Except.map Resource.multiplexed) (mapM_eq_of_forall₂ ?_)
    exact List.forall₂_map_left_iff.mpr (List.forall₂_same.mpr inductionHypothesis)
  | pending statement => rfl

/-- What a tree keeps of an entry has been read. -/
theorem decoded_of_filter {tree : FilterTree} {source kept : Resource}
    (done : source.filter tree = .ok kept) : kept.decoded = kept := by
  induction source using Resource.induction generalizing kept with
  | done result =>
    obtain ⟨left, rfl, -⟩ := filter_done_eq_ok_iff.mp done
    rfl
  | multiplexed items inductionHypothesis =>
    obtain ⟨left, rfl, each⟩ := filter_multiplexed_eq_ok_iff.mp done
    refine decoded_multiplexed_eq_self fun itemKept inside => ?_
    obtain ⟨item, isItem, itemDone⟩ := exists_mem_of_forall₂ each.flip inside
    exact inductionHypothesis item isItem itemDone
  | pending statement => cases done

end Resource

end Gateway
