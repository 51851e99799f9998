/-
This file filters the results of a query. Every statement with selectors is applied to the result
that was stored for it, never to what an earlier statement of the same identity made of it; the last
statement of an identity decides its entry, and results without a statement are dropped. The first
fault ends the query. Afterwards the results of hidden statements are left out, unless a statement
of the same identity is not hidden.
-/

import Gateway.Filter.Projection
import Gateway.Log.Event

namespace Gateway

namespace Resource

/-- The entry with the tree applied to the body of every record in it. -/
def filter (tree : FilterTree) : Resource → Except Fault Resource
  | .done result =>
    (tree.project result.body.content).map fun kept => .done { result with body := .value kept }
  | .multiplexed items => (filterItems tree items).map .multiplexed
  | .pending statement => .error (.unknownShape (.pending statement))
where
  filterItems (tree : FilterTree) : List Resource → Except Fault (List Resource)
    | [] => .ok []
    | item :: rest =>
      match filter tree item with
      | .error fault => .error fault
      | .ok kept => (filterItems tree rest).map (kept :: ·)

end Resource

namespace Statement

/-- What the statement makes of the entry that is stored for it. Without selectors that is the
entry itself, if there is one. -/
def filterEntry (statement : Statement) (entry : Option Resource) :
    Except Fault (Option Resource) :=
  if statement.only.isEmpty then .ok entry
  else
    match entry with
    | none => .error (.missingResult statement.id)
    | some resource =>
      match FilterTree.build statement.only with
      | .error fault => .error fault
      | .ok tree => (resource.filter tree).map some

/-- The log of a statement that was filtered: statements without selectors leave none. -/
def filteredLog (statement : Statement) : List LogEntry :=
  if statement.only.isEmpty then []
  else [Event.filterApplied.entry [("resource", statement.id)]]

end Statement

/-- The log of a failure. -/
def FilterFailure.log [LibraryReports] (failure : FilterFailure) : List LogEntry :=
  [Event.filterApplyFailed.entry
    [("code", failure.code.name),
      ("done_resource", Text.Dump.option (failure.resource.map Resource.dump)),
      ("error", failure.cause.message),
      ("resource", failure.id),
      ("statement", failure.statement.dump)]]

namespace Query

/-- Filters the statements one after the other, adding to the entries made so far. -/
def filterFrom [LibraryReports] (resources : Resources) :
    List Statement → Resources → Traced (Except FilterFailure Resources)
  | [], filtered => ⟨.ok filtered, []⟩
  | statement :: rest, filtered =>
    let entry := resources.find? statement.id
    match statement.filterEntry entry with
    | .error cause =>
      let failure : FilterFailure := ⟨statement.id, statement, entry, cause⟩
      ⟨.error failure, failure.log⟩
    | .ok none => (filterFrom resources rest filtered).after statement.filteredLog
    | .ok (some kept) =>
      (filterFrom resources rest (filtered.insert statement.id kept)).after statement.filteredLog

/-- The results with the selectors of the query applied. -/
def applyFilters [LibraryReports] (query : Query) (resources : Resources) :
    Traced (Except FilterFailure Resources) :=
  filterFrom resources query.statements Dictionary.empty

/-- Moves the entries of the statements out of the ones that are left and into the visible ones. -/
def moveVisible : List Statement → Resources → Resources → Resources
  | [], _, visible => visible
  | statement :: rest, left, visible =>
    match left.find? statement.id with
    | none => moveVisible rest left visible
    | some resource =>
      moveVisible rest (left.erase statement.id) (visible.insert statement.id resource)

/-- The results of the statements that are not hidden. -/
def visibleResults (query : Query) (resources : Resources) : Resources :=
  moveVisible (query.statements.filter fun statement => !statement.hidden) resources
    Dictionary.empty

/-- The results of the statements that are not hidden, with a log of how many statements are. -/
def applyHidden (query : Query) (resources : Resources) : Traced Resources :=
  let hidden := (query.statements.filter Statement.hidden).length
  ⟨query.visibleResults resources,
    [Event.hiddenApplied.entry [("hidden", String.ofList (Decimal.naturalText hidden))]]⟩

end Query

end Gateway
