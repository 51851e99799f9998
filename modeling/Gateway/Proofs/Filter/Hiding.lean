/-
This file says what hiding statements does to the results of a query. The result of an identity is
shown where a statement of it is not hidden, and it is what the last statement of the identity has
made, hidden or not. So hidden statements leave no trace in the answer exactly where, for each shown
identity, the last statement makes the same of the stored entry as the last one that is not hidden.
It is enough that the last statement of a shown identity is itself not hidden, but a query that
calls a resource twice and hides the second call shows what the hidden statement has made.
-/

import Gateway.Proofs.Filter.Statements

namespace Gateway

theorem LastOf.unique {statements : List Statement} {id : ResourceId} {first second : Statement}
    (one : LastOf statements id first) (other : LastOf statements id second) : first = second := by
  induction statements with
  | nil => cases one.mem
  | cons statement rest inductionHypothesis =>
    rcases lastOf_cons_iff.mp one with ⟨rfl, -, absent⟩ | inRest
    · rcases lastOf_cons_iff.mp other with ⟨rfl, -⟩ | otherInRest
      · rfl
      · exact absurd otherInRest.id_eq (absent second otherInRest.mem)
    · rcases lastOf_cons_iff.mp other with ⟨rfl, -, absent⟩ | otherInRest
      · exact absurd inRest.id_eq (absent first inRest.mem)
      · exact inductionHypothesis inRest otherInRest

/-- The last statement of an identity stays the last when others are left out. -/
theorem LastOf.filter {statements : List Statement} {id : ResourceId} {last : Statement}
    (isLast : LastOf statements id last) {choose : Statement → Bool} (chosen : choose last) :
    LastOf (statements.filter choose) id last := by
  obtain ⟨before, after, rfl, own, absent⟩ := isLast
  refine ⟨before.filter choose, after.filter choose, ?_, own, ?_⟩
  · rw [List.filter_append, List.filter_cons_of_pos chosen]
  · exact fun later inside => absent later (List.mem_of_mem_filter inside)

namespace Query

variable {query : Query} {resources filtered unhidden : Resources}

/-- The query without its hidden statements. -/
def shown (query : Query) : Query :=
  ⟨query.statements.filter fun statement => !statement.hidden⟩

theorem mem_shown_iff {statement : Statement} :
    statement ∈ query.shown.statements ↔
      statement ∈ query.statements ∧ statement.hidden = false := by
  rw [shown, List.mem_filter, Bool.not_eq_true']

theorem shown_shown (query : Query) : query.shown.shown = query.shown := by
  rw [shown, shown, List.filter_filter]
  simp only [Bool.and_self]

/-! ### What is shown -/

/-- Moving the entries of some statements moves each entry at most once, and loses none. -/
theorem find?_moveVisible (statements : List Statement) (left visible : Resources)
    (id : ResourceId) :
    (moveVisible statements left visible).find? id =
      if ∃ statement ∈ statements, statement.id = id then
        (left.find? id).or (visible.find? id)
      else visible.find? id := by
  induction statements generalizing left visible with
  | nil => simp [moveVisible]
  | cons statement rest inductionHypothesis =>
    rw [moveVisible]
    cases found : left.find? statement.id with
    | none =>
      dsimp only
      rw [inductionHypothesis]
      by_cases same : statement.id = id
      · subst same
        simp [found]
      · simp [same]
    | some resource =>
      dsimp only
      rw [inductionHypothesis, Dictionary.find?_erase, Dictionary.find?_insert]
      by_cases same : statement.id = id
      · subst same
        simp [found]
      · simp [same]

/-- The entries that are shown are those of the identities with a statement that is not hidden. -/
theorem find?_visibleResults (query : Query) (resources : Resources) (id : ResourceId) :
    (query.visibleResults resources).find? id =
      if ∃ statement ∈ query.shown.statements, statement.id = id then resources.find? id
      else none := by
  refine (find?_moveVisible query.shown.statements resources Dictionary.empty id).trans ?_
  rw [Dictionary.find?_empty, Option.or_none]

theorem find?_visibleResults_iff {id : ResourceId} {entry : Resource} :
    (query.visibleResults resources).find? id = some entry ↔
      (∃ statement ∈ query.shown.statements, statement.id = id) ∧
        resources.find? id = some entry := by
  rw [find?_visibleResults, Option.ite_none_right_eq_some]

/-- Of the statements nothing counts but which identities they show. -/
theorem visibleResults_congr {other : Query}
    (same : ∀ id, (∃ statement ∈ query.shown.statements, statement.id = id) ↔
      ∃ statement ∈ other.shown.statements, statement.id = id) (resources : Resources) :
    query.visibleResults resources = other.visibleResults resources := by
  refine Dictionary.ext_find? fun id => ?_
  rw [find?_visibleResults, find?_visibleResults]
  simp only [same]

theorem visibleResults_shown (query : Query) (resources : Resources) :
    query.shown.visibleResults resources = query.visibleResults resources :=
  visibleResults_congr (fun id => by rw [shown_shown]) resources

/-- The shown entries are the stored ones of the shown identities, each of them once. -/
theorem entries_visibleResults (query : Query) (resources : Resources) :
    (query.visibleResults resources).entries =
      resources.entries.filter fun entry =>
        query.shown.statements.any fun statement => statement.id == entry.1 := by
  have kept : (resources.entries.filter fun entry =>
      query.shown.statements.any fun statement => statement.id == entry.1).Sublist
      resources.entries := List.filter_sublist
  refine Dictionary.entries_eq_of_valueAt? (query.visibleResults resources).ascending
    (resources.ascending.sublist (kept.map Prod.fst)) fun id => ?_
  rw [Dictionary.valueAt?_filter fun id =>
    query.shown.statements.any fun statement => statement.id == id]
  refine (find?_visibleResults query resources id).trans ?_
  simp only [List.any_eq_true, beq_iff_eq]
  rfl

/-- An identity that another shown statement has is shown without the statement too. -/
theorem visibleResults_of_repeated {before after : List Statement} {statement other : Statement}
    (inside : other ∈ before ++ after) (shown : other.hidden = false)
    (repeated : other.id = statement.id) (resources : Resources) :
    visibleResults ⟨before ++ after⟩ resources =
      visibleResults ⟨before ++ statement :: after⟩ resources := by
  have membership (own : Statement) :
      own ∈ before ++ statement :: after ↔ own = statement ∨ own ∈ before ++ after := by
    rw [List.mem_append, List.mem_cons, List.mem_append, or_left_comm]
  refine visibleResults_congr (fun id => ?_) resources
  constructor
  · rintro ⟨own, isShown, same⟩
    obtain ⟨isOwn, visible⟩ := mem_shown_iff.mp isShown
    exact ⟨own, mem_shown_iff.mpr ⟨(membership own).mpr (Or.inr isOwn), visible⟩, same⟩
  · rintro ⟨own, isShown, same⟩
    obtain ⟨isOwn, visible⟩ := mem_shown_iff.mp isShown
    rcases (membership own).mp isOwn with rfl | elsewhere
    · exact ⟨other, mem_shown_iff.mpr ⟨inside, shown⟩, repeated.trans same⟩
    · exact ⟨own, mem_shown_iff.mpr ⟨elsewhere, visible⟩, same⟩

/-- What hiding keeps. The answer has an entry exactly for the stored identities with a statement
that is not hidden, and it is the stored one; the entries are those of the store, each once and in
their order; and a statement whose identity another shown one has makes no difference. -/
theorem applyHidden_entries (query : Query) (resources : Resources) :
    (∀ id entry, (query.applyHidden resources).value.find? id = some entry ↔
      resources.find? id = some entry ∧
        ∃ statement ∈ query.statements, statement.hidden = false ∧ statement.id = id) ∧
    ((query.applyHidden resources).value.entries =
      resources.entries.filter fun entry =>
        query.statements.any fun statement => !statement.hidden && statement.id == entry.1) ∧
    ∀ before statement after, query.statements = before ++ statement :: after →
      (∃ other ∈ before ++ after, other.hidden = false ∧ other.id = statement.id) →
      (applyHidden ⟨before ++ after⟩ resources).value = (query.applyHidden resources).value := by
  refine ⟨fun id entry => ?_, ?_, ?_⟩
  · refine find?_visibleResults_iff.trans (and_comm.trans (and_congr_right fun _ => ?_))
    simp only [mem_shown_iff, and_assoc]
  · refine (entries_visibleResults query resources).trans ?_
    simp only [shown, List.any_filter]
  · rintro before statement after split ⟨other, inside, shown, repeated⟩
    obtain ⟨statements⟩ := query
    obtain rfl : statements = before ++ statement :: after := split
    exact visibleResults_of_repeated inside shown repeated resources

/-- A call of heroes, and calls of sidekicks under its identity, of which the second is hidden. -/
def repeatedQuery : Query :=
  ⟨[{ resource := "heroes" },
    { resource := "sidekicks", calledAs := some "heroes" },
    { resource := "sidekicks", calledAs := some "heroes", hidden := true }]⟩

theorem applyHidden_entries_repeatedQuery :
    let stored : Resources := Dictionary.empty.insert "heroes" (.multiplexed [])
    (applyHidden ⟨repeatedQuery.statements.tail⟩ stored).value =
        (repeatedQuery.applyHidden stored).value ∧
      (repeatedQuery.applyHidden stored).value.find? "heroes" = some (.multiplexed []) := by
  intro stored
  obtain ⟨found, -, without⟩ := applyHidden_entries repeatedQuery stored
  constructor
  · refine without [] { resource := "heroes" } repeatedQuery.statements.tail rfl ?_
    exact ⟨{ resource := "sidekicks", calledAs := some "heroes" }, .head _, rfl, rfl⟩
  · exact (found "heroes" _).mpr ⟨rfl, { resource := "heroes" }, .head _, rfl, rfl⟩

/-! ### Without the hidden statements -/

/-- A query that can be filtered can be filtered without its hidden statements. -/
theorem exists_applyFilters_shown [LibraryReports]
    (done : (query.applyFilters resources).value = .ok filtered) :
    ∃ unhidden, (query.shown.applyFilters resources).value = .ok unhidden := by
  refine exists_applyFilters_iff.mpr fun statement inside => ?_
  exact exists_applyFilters_iff.mp ⟨filtered, done⟩ statement (mem_shown_iff.mp inside).1

/-- The last statement of every shown identity makes the same of the stored entry as the last one
that is not hidden. -/
def HiddenAgree (query : Query) (resources : Resources) : Prop :=
  ∀ id last lastShown entry, LastOf query.statements id last →
    LastOf query.shown.statements id lastShown → resources.find? id = some entry →
    ∃ kept, last.Makes entry kept ∧ lastShown.Makes entry kept

/-- The answer is the same without the hidden statements exactly where they agree with the others
on every shown identity. -/
theorem visibleResults_eq_iff [LibraryReports]
    (done : (query.applyFilters resources).value = .ok filtered)
    (doneShown : (query.shown.applyFilters resources).value = .ok unhidden) :
    query.visibleResults filtered = query.shown.visibleResults unhidden ↔
      query.HiddenAgree resources := by
  rw [visibleResults_shown]
  constructor
  · intro same id last lastShown entry isLast isLastShown found
    obtain ⟨kept, here, makes⟩ := find?_filterFrom_last isLast found done
    obtain ⟨keptShown, there, makesShown⟩ := find?_filterFrom_last isLastShown found doneShown
    have isShown : ∃ statement ∈ query.shown.statements, statement.id = id :=
      ⟨lastShown, isLastShown.mem, isLastShown.id_eq⟩
    have visible := find?_visibleResults_iff.mpr ⟨isShown, here⟩
    rw [same, find?_visibleResults_iff, there] at visible
    exact ⟨kept, makes, Option.some.inj visible.2 ▸ makesShown⟩
  · intro agree
    refine Dictionary.ext_find? fun id => ?_
    rw [find?_visibleResults, find?_visibleResults]
    by_cases isShown : ∃ statement ∈ query.shown.statements, statement.id = id
    · rw [if_pos isShown, if_pos isShown]
      obtain ⟨lastShown, isLastShown⟩ := exists_lastOf isShown
      obtain ⟨statement, inside, same⟩ := isShown
      obtain ⟨last, isLast⟩ := exists_lastOf ⟨statement, (mem_shown_iff.mp inside).1, same⟩
      cases found : resources.find? id with
      | none =>
        rw [find?_filterFrom_other done fun _ _ _ => found,
          find?_filterFrom_other doneShown fun _ _ _ => found]
      | some entry =>
        obtain ⟨kept, makes, makesShown⟩ := agree id last lastShown entry isLast isLastShown found
        rw [(find?_applyFilters_iff done).mpr ⟨last, entry, isLast, found, makes⟩,
          (find?_applyFilters_iff doneShown).mpr
            ⟨lastShown, entry, isLastShown, found, makesShown⟩]
    · rw [if_neg isShown, if_neg isShown]

/-- Hidden statements do not touch the answer where none of them is the last of a shown identity,
as in a query in which no two statements have one identity. -/
theorem visibleResults_shown_of_last_shown [LibraryReports]
    (done : (query.applyFilters resources).value = .ok filtered)
    (doneShown : (query.shown.applyFilters resources).value = .ok unhidden)
    (lastShown : ∀ statement ∈ query.shown.statements, ∀ last,
      LastOf query.statements statement.id last → last.hidden = false) :
    query.visibleResults filtered = query.shown.visibleResults unhidden := by
  refine (visibleResults_eq_iff done doneShown).mpr ?_
  intro id last other entry isLast isOther found
  obtain rfl := isOther.id_eq
  have stays : (!last.hidden) = true := by
    rw [lastShown other isOther.mem last isLast, Bool.not_false]
  obtain rfl : last = other := (isLast.filter stays).unique isOther
  obtain ⟨kept, -, makes⟩ := find?_filterFrom_last isLast found done
  exact ⟨kept, makes, makes⟩

/-- What hiding does to the answer of a query that can be filtered. An entry is shown where some
statement of its identity is not hidden, and it is what the last statement of the identity makes of
the stored entry, even if that one is hidden. The query can also be filtered without its hidden
statements, and the answer is then the same exactly where they agree with the others. -/
theorem applyHidden_meaning [LibraryReports]
    (done : (query.applyFilters resources).value = .ok filtered) :
    (∀ id kept, (query.applyHidden filtered).value.find? id = some kept ↔
      (∃ statement ∈ query.statements, statement.hidden = false ∧ statement.id = id) ∧
        ∃ last entry, LastOf query.statements id last ∧ resources.find? id = some entry ∧
          last.Makes entry kept) ∧
    ∃ unhidden, (query.shown.applyFilters resources).value = .ok unhidden ∧
      ((query.applyHidden filtered).value = (query.shown.applyHidden unhidden).value ↔
        query.HiddenAgree resources) := by
  constructor
  · intro id kept
    refine find?_visibleResults_iff.trans (and_congr ?_ (find?_applyFilters_iff done))
    simp only [mem_shown_iff, and_assoc]
  · obtain ⟨unhidden, doneShown⟩ := exists_applyFilters_shown done
    exact ⟨unhidden, doneShown, visibleResults_eq_iff done doneShown⟩

/-! ### A hidden statement that shows -/

/-- The name of a hero is asked for, and its secret by a hidden statement. -/
def secretQuery : Query :=
  ⟨[{ resource := "heroes", only := [.path ["name"]] },
    { resource := "heroes", only := [.path ["secret"]], hidden := true }]⟩

/-- The entry of heroes with the body. -/
def heroEntry (members : Members) : Resources :=
  Dictionary.empty.insert "heroes"
    (.done ⟨{ status := 200, success := true }, .value (.object members)⟩)

theorem applyFilters_secretQuery [LibraryReports] :
    (secretQuery.applyFilters (heroEntry [("name", .text "x"), ("secret", .text "y")])).value =
      .ok (heroEntry [("secret", .text "y")]) := by
  rfl

theorem applyHidden_meaning_secretQuery :
    let stored := heroEntry [("name", .text "x"), ("secret", .text "y")]
    let filtered := heroEntry [("secret", .text "y")]
    (secretQuery.applyFilters stored).value = .ok filtered ∧
      (∀ id kept, (secretQuery.applyHidden filtered).value.find? id = some kept ↔
        (∃ statement ∈ secretQuery.statements, statement.hidden = false ∧ statement.id = id) ∧
          ∃ last entry, LastOf secretQuery.statements id last ∧ stored.find? id = some entry ∧
            last.Makes entry kept) ∧
      ∃ unhidden, (secretQuery.shown.applyFilters stored).value = .ok unhidden ∧
        ((secretQuery.applyHidden filtered).value =
            (secretQuery.shown.applyHidden unhidden).value ↔
          secretQuery.HiddenAgree stored) :=
  ⟨applyFilters_secretQuery, applyHidden_meaning applyFilters_secretQuery⟩

/-- The secret that only a hidden statement asks for is shown under the identity of the other one,
in place of the name. -/
theorem not_applyHidden_shown_secretQuery :
    let stored := heroEntry [("name", .text "x"), ("secret", .text "y")]
    ∃ filtered unhidden, (secretQuery.applyFilters stored).value = .ok filtered ∧
      (secretQuery.shown.applyFilters stored).value = .ok unhidden ∧
      (secretQuery.applyHidden filtered).value ≠
        (secretQuery.shown.applyHidden unhidden).value := by
  refine ⟨_, heroEntry [("name", .text "x")], applyFilters_secretQuery, rfl, fun same => ?_⟩
  have shown : (heroEntry [("secret", .text "y")]).find? "heroes" =
      (heroEntry [("name", .text "x")]).find? "heroes" :=
    congrArg (fun visible : Resources => visible.find? "heroes") same
  simp [heroEntry, Dictionary.find?_insert] at shown

end Query

end Gateway
