/-
This file proves that filtering the results of a query again changes nothing. Each statement is
applied to what the last one of its identity has left of the stored entry. The last one leaves that
as it is, and the others can still be applied to it, because they come to nothing there that was not
in the stored entry; what they make of it is written over.
-/

import Gateway.Proofs.Filter.Provenance

namespace Gateway

/-- What a statement has made of an entry it makes of that again. -/
theorem Statement.Makes.again {statement : Statement} {entry kept : Resource}
    (makes : statement.Makes entry kept) (wellFormed : entry.WellFormed) :
    statement.Makes kept kept := by
  cases makes with
  | whole everything => exact .whole everything
  | filtered selective built done =>
    exact .filtered selective built (Resource.filter_again wellFormed done)

/-- A statement that can be applied to an entry can be applied to what is left of it. -/
theorem Statement.AppliesTo.of_leftOf {statement : Statement} {kept source : Resource}
    (applies : statement.AppliesTo (some source)) (left : kept.LeftOf source) :
    statement.AppliesTo (some kept) := by
  intro selective
  obtain ⟨resource, tree, result, same, built, done⟩ := applies selective
  obtain rfl := Option.some.inj same
  obtain ⟨again, doneAgain⟩ := Resource.exists_filter_of_leftOf left ⟨result, done⟩
  exact ⟨kept, tree, again, rfl, built, doneAgain⟩

namespace Query

variable {query : Query} {resources filtered : Resources}

/-- Each statement can be applied to what filtering has left under its identity, also one whose
result a later statement has written over. -/
theorem appliesTo_filtered [LibraryReports] (wellFormed : resources.WellFormed)
    (done : (query.applyFilters resources).value = .ok filtered) :
    ∀ statement ∈ query.statements, statement.AppliesTo (filtered.find? statement.id) := by
  intro statement inside
  have applies := exists_applyFilters_iff.mp ⟨filtered, done⟩ statement inside
  cases found : resources.find? statement.id with
  | none =>
    rw [found] at applies
    rw [find?_filterFrom_other done fun other _ same => same ▸ found]
    exact applies
  | some source =>
    obtain ⟨last, isLast⟩ := exists_lastOf ⟨statement, inside, rfl⟩
    obtain ⟨kept, here, makes⟩ := find?_filterFrom_last isLast found done
    rw [found] at applies
    rw [here]
    exact applies.of_leftOf (makes.leftOf (wellFormed statement.id source found))

/-- Filtering results that the query has filtered already leaves them as they are, and every
statement can be applied to them, whichever of its identity has left them. -/
theorem applyFilters_again [LibraryReports] (wellFormed : resources.WellFormed)
    (done : (query.applyFilters resources).value = .ok filtered) :
    (query.applyFilters filtered).value = .ok filtered ∧
      ∀ statement ∈ query.statements, statement.AppliesTo (filtered.find? statement.id) := by
  have applies := appliesTo_filtered wellFormed done
  refine ⟨?_, applies⟩
  obtain ⟨again, doneAgain⟩ := exists_applyFilters_iff.mpr applies
  have same : again = filtered := by
    refine Dictionary.ext_find? fun id => ?_
    cases here : filtered.find? id with
    | none => exact find?_filterFrom_other doneAgain fun _ _ _ => here
    | some kept =>
      obtain ⟨last, source, isLast, found, makes⟩ := (find?_applyFilters_iff done).mp here
      exact (find?_applyFilters_iff doneAgain).mpr
        ⟨last, kept, isLast, here, makes.again (wellFormed id source found)⟩
  rw [doneAgain, same]

theorem applyFilters_again_calls :
    (withVillains heroCalls).WellFormed ∧
      (callsQuery.applyFilters (withVillains heroCalls)).value = .ok (withVillains heroNames) ∧
      (callsQuery.applyFilters (withVillains heroNames)).value = .ok (withVillains heroNames) ∧
      ∀ statement ∈ callsQuery.statements,
        statement.AppliesTo ((withVillains heroNames).find? statement.id) :=
  ⟨wellFormed_withVillains_heroCalls, applyFilters_callsQuery,
    applyFilters_again wellFormed_withVillains_heroCalls applyFilters_callsQuery⟩

end Query

end Gateway
