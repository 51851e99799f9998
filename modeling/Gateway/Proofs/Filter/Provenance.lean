/-
This file says where the answer to a query comes from. Filtering and hiding neither invent nor move
nor alter anything: an entry of the answer is left of the entry that was stored under the same
identity, in the same shape and with the same details, and the body of each record is within the
body that was there. So whatever stands at a place of a body stood under the same names before, of
the same kind, and with the same content if it is a scalar.
-/

import Gateway.Proofs.Filter.Hiding

namespace Gateway

/-! ### Values that stay what they are -/

/-- Every value in the first body stood under the same names in the second, and was of the same
kind there, with the same content if it is a scalar. -/
def Json.Unaltered (kept source : Json) : Prop :=
  ∀ location inner, kept.at? location = some inner →
    ∃ origin outer, fieldNames origin = fieldNames location ∧ source.at? origin = some outer ∧
      Found.ofJson inner = Found.ofJson outer

theorem Json.Within.unaltered {kept source : Json} (within : kept.Within source) :
    kept.Unaltered source := by
  intro location inner found
  obtain ⟨origin, outer, names, reached, innerWithin⟩ := within.at? found
  exact ⟨origin, outer, names, reached, innerWithin.found_eq⟩

/-- A record of an entry is left of a record of the entry that the first is left of. -/
theorem Resource.exists_record_of_leftOf {kept source : Resource} (left : kept.LeftOf source)
    {result : Record} (inside : .record result ∈ kept.ends) :
    ∃ origin, .record origin ∈ source.ends ∧ result.LeftOf origin := by
  induction kept using Resource.induction generalizing source with
  | done own =>
    cases left with
    | @done _ origin record =>
      obtain rfl : result = own := ResourceEnd.record.inj (List.mem_singleton.mp inside)
      exact ⟨origin, List.mem_singleton_self _, record⟩
  | multiplexed items inductionHypothesis =>
    cases left with
    | multiplexed each =>
      obtain ⟨item, inItems, inItem⟩ := Resource.mem_ends_multiplexed_iff.mp inside
      obtain ⟨original, isOriginal, itemLeft⟩ := exists_mem_of_forall₂ each inItems
      obtain ⟨origin, inOriginal, record⟩ := inductionHypothesis item inItems itemLeft inItem
      have isEnd := Resource.mem_ends_multiplexed_iff.mpr ⟨original, isOriginal, inOriginal⟩
      exact ⟨origin, isEnd, record⟩
  | pending statement => cases List.mem_singleton.mp inside

/-! ### The answer to a query -/

/-- What a statement makes of a well-formed entry is left of it. -/
theorem Statement.Makes.leftOf {statement : Statement} {entry kept : Resource}
    (makes : statement.Makes entry kept) (wellFormed : entry.WellFormed) : kept.LeftOf entry := by
  cases makes with
  | whole => exact Resource.leftOf_refl entry
  | filtered _ _ done => exact Resource.filter_leftOf wellFormed done

namespace Query

variable {query : Query} {resources filtered : Resources}

/-- What filtering leaves of an entry is left of the entry that was stored for its identity. -/
theorem leftOf_of_applyFilters [LibraryReports] (wellFormed : resources.WellFormed)
    (done : (query.applyFilters resources).value = .ok filtered) {id : ResourceId}
    {kept : Resource} (here : filtered.find? id = some kept) :
    ∃ source, resources.find? id = some source ∧ kept.LeftOf source := by
  obtain ⟨last, source, -, found, makes⟩ := (find?_applyFilters_iff done).mp here
  exact ⟨source, found, makes.leftOf (wellFormed id source found)⟩

/-- The answer to a query holds what is left of the stored entries, each under its identity, and in
their records no value of another kind or content than the value it comes from. -/
theorem applyHidden_provenance [LibraryReports] (wellFormed : resources.WellFormed)
    (done : (query.applyFilters resources).value = .ok filtered) {id : ResourceId}
    {kept : Resource} (here : (query.applyHidden filtered).value.find? id = some kept) :
    ∃ source, resources.find? id = some source ∧ kept.LeftOf source ∧
      ∀ result, .record result ∈ kept.ends → ∃ origin, .record origin ∈ source.ends ∧
        result.details = origin.details ∧ result.body.content.Unaltered origin.body.content := by
  obtain ⟨-, stillThere⟩ := find?_visibleResults_iff.mp here
  obtain ⟨source, found, left⟩ := leftOf_of_applyFilters wellFormed done stillThere
  refine ⟨source, found, left, fun result inside => ?_⟩
  obtain ⟨origin, inSource, record⟩ := Resource.exists_record_of_leftOf left inside
  exact ⟨origin, inSource, record.details, record.body.unaltered⟩

/-- Heroes are called for their secrets and then for their names; villains are hidden. -/
def callsQuery : Query :=
  ⟨[{ resource := "heroes", only := [.path ["secret"]] },
    { resource := "heroes", only := [.path ["name"]] },
    { resource := "villains", hidden := true }]⟩

/-- Details of calls that went well. -/
def calledWell : Details := { status := 200, success := true }

/-- The calls of heroes, one of them in a list of its own and with a body of blank octets. -/
def heroCalls : Resource :=
  .multiplexed
    [.done ⟨calledWell, .value (.object [("name", .text "x"), ("secret", .text "y")])⟩,
      .multiplexed [.done ⟨calledWell, .raw [0x20]⟩]]

/-- What the names leave of them: the blank octets held null. -/
def heroNames : Resource :=
  .multiplexed
    [.done ⟨calledWell, .value (.object [("name", .text "x")])⟩,
      .multiplexed [.done ⟨calledWell, .value .null⟩]]

/-- The entry beside one of villains, whose body is no JSON text. -/
def withVillains (heroes : Resource) : Resources :=
  (Dictionary.empty.insert "heroes" heroes).insert "villains" (.done ⟨calledWell, .raw [0x3F]⟩)

theorem wellFormed_withVillains_heroCalls : (withVillains heroCalls).WellFormed := by
  have heroes : heroCalls.WellFormed := by
    simp [heroCalls, Resource.wellFormed_multiplexed_iff, Resource.wellFormed_done_iff,
      Body.WellFormed, Json.WellFormed, Json.WellFormed.membersWellFormed]
  exact (Resources.wellFormed_empty.insert heroes).insert (Resource.wellFormed_done_iff.mpr trivial)

theorem applyFilters_callsQuery :
    (callsQuery.applyFilters (withVillains heroCalls)).value = .ok (withVillains heroNames) := by
  rfl

theorem applyHidden_provenance_calls :
    (withVillains heroCalls).WellFormed ∧
      (callsQuery.applyFilters (withVillains heroCalls)).value = .ok (withVillains heroNames) ∧
      (callsQuery.applyHidden (withVillains heroNames)).value.find? "heroes" = some heroNames ∧
      ∃ source, (withVillains heroCalls).find? "heroes" = some source ∧
        heroNames.LeftOf source ∧
        ∀ result, .record result ∈ heroNames.ends → ∃ origin, .record origin ∈ source.ends ∧
          result.details = origin.details ∧
          result.body.content.Unaltered origin.body.content := by
  have shown : (callsQuery.applyHidden (withVillains heroNames)).value.find? "heroes" =
      some heroNames := rfl
  exact ⟨wellFormed_withVillains_heroCalls, applyFilters_callsQuery, shown,
    applyHidden_provenance wellFormed_withVillains_heroCalls applyFilters_callsQuery shown⟩

end Query

end Gateway
