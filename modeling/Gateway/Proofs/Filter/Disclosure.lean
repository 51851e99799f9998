/-
This file says which data a list of plain paths discloses. A place in a value is reached by the
names of fields and the positions of items; only the names count for the selection, since arrays
are transparent to it. A scalar is disclosed exactly where it stands and where its names and some
surviving path go on from one another: the path ends at the scalar or above it, or the scalar comes
before the path is used up.
-/

import Gateway.Proofs.Filter.Fields
import Gateway.Proofs.Filter.Selection

namespace Gateway

/-! ### Places in a value -/

/-- One step into a value. -/
inductive Step
  | field (name : String)
  | item (index : Nat)

/-- The names of the fields on the way, in their order. -/
def fieldNames : List Step → List String
  | [] => []
  | .field name :: rest => name :: fieldNames rest
  | .item _ :: rest => fieldNames rest

/-- What stands at a place of the value. -/
def Json.at? : Json → List Step → Option Json
  | value, [] => some value
  | .object members, .field name :: rest =>
    (Members.find? members name).bind fun inner => inner.at? rest
  | .array items, .item index :: rest => items[index]?.bind fun inner => inner.at? rest
  | _, _ :: _ => none

namespace Json

@[simp] theorem at?_nil (value : Json) : value.at? [] = some value := by
  rw [at?]

@[simp] theorem at?_object_field (members : Members) (name : String) (rest : List Step) :
    at? (.object members) (.field name :: rest) =
      (members.find? name).bind fun inner => inner.at? rest := rfl

@[simp] theorem at?_array_item (items : List Json) (index : Nat) (rest : List Step) :
    at? (.array items) (.item index :: rest) = items[index]?.bind fun inner => inner.at? rest := rfl

@[simp] theorem at?_object_item (members : Members) (index : Nat) (rest : List Step) :
    at? (.object members) (.item index :: rest) = none := rfl

@[simp] theorem at?_array_field (items : List Json) (name : String) (rest : List Step) :
    at? (.array items) (.field name :: rest) = none := rfl

theorem at?_cons_of_isScalar {value : Json} (scalar : value.IsScalar) (step : Step)
    (rest : List Step) : value.at? (step :: rest) = none := by
  cases value with
  | array items => exact False.elim scalar
  | object members => exact False.elim scalar
  | _ => cases step <;> rfl

end Json

/-- The scalars of the second value are those of the first at the places whose names go on from a
selected path, or whose names a selected path goes on from. -/
def Discloses (selected : List String → Prop) (value kept : Json) : Prop :=
  ∀ location found, found.IsScalar →
    (kept.at? location = some found ↔
      value.at? location = some found ∧
        ∃ path, selected path ∧ Comparable (fieldNames location) path)

section Discloses

variable {selected : List String → Prop}

/-- A scalar discloses itself, whatever is selected. -/
theorem discloses_scalar {value : Json} (scalar : value.IsScalar)
    (some : ∃ path, selected path) : Discloses selected value value := by
  intro location found _
  refine ⟨fun here => ⟨here, ?_⟩, fun both => both.1⟩
  cases location with
  | nil =>
    obtain ⟨path, isSelected⟩ := some
    exact ⟨path, isSelected, comparable_comm.mp (comparable_nil path)⟩
  | cons step rest =>
    rw [Json.at?_cons_of_isScalar scalar] at here
    cases here

/-- Arrays are transparent: what their items disclose they disclose. -/
theorem discloses_array {items left : List Json}
    (each : List.Forall₂ (Discloses selected) items left) :
    Discloses selected (.array items) (.array left) := by
  intro location found scalar
  cases location with
  | nil =>
    constructor
    · rintro ⟨⟩
      exact False.elim scalar
    · rintro ⟨⟨⟩, -⟩
      exact False.elim scalar
  | cons step rest =>
    cases step with
    | field name => simp
    | item index =>
      rw [Json.at?_array_item, Json.at?_array_item]
      induction each generalizing index with
      | nil => simp
      | cons first _ inductionHypothesis =>
        cases index with
        | zero => exact first rest found scalar
        | succ index => exact inductionHypothesis index

/-- An object discloses what its fields do, with their names in front. -/
theorem discloses_object {members left : Members}
    (each : ∀ name rest found, found.IsScalar →
      ((left.find? name).bind (fun inner => inner.at? rest) = some found ↔
        (members.find? name).bind (fun inner => inner.at? rest) = some found ∧
          ∃ path, selected path ∧ Comparable (name :: fieldNames rest) path)) :
    Discloses selected (.object members) (.object left) := by
  intro location found scalar
  cases location with
  | nil =>
    constructor
    · rintro ⟨⟩
      exact False.elim scalar
    · rintro ⟨⟨⟩, -⟩
      exact False.elim scalar
  | cons step rest =>
    cases step with
    | field name => exact each name rest found scalar
    | item index => simp

end Discloses

/-! ### What a tree covers -/

namespace FilterTree

/-- The path leads to a leaf. -/
def LeadsTo (tree : FilterTree) (path : List String) : Prop :=
  ∃ rule, tree.HasLeaf path rule

/-- The names go on from the path of a leaf, or that path goes on from them. -/
def Covers (tree : FilterTree) (names : List String) : Prop :=
  ∃ path, tree.LeadsTo path ∧ Comparable names path

theorem covers_cons_of_isLeaf {tree : FilterTree} {name : String} {rule : Rule}
    (found : rule? tree name = some rule) (isLeaf : rule.IsLeaf) (rest : List String) :
    tree.Covers (name :: rest) :=
  ⟨[name], ⟨rule, .here found isLeaf⟩, comparable_cons_iff.mpr ⟨rfl, comparable_nil rest⟩⟩

/-- Names that begin with a field of the tree are covered by the leaves of that field alone. -/
theorem covers_cons_iff {tree : FilterTree} {name : String} {rest : List String} :
    tree.Covers (name :: rest) ↔
      ∃ path, tree.LeadsTo (name :: path) ∧ Comparable rest path := by
  constructor
  · rintro ⟨path, ⟨rule, leaf⟩, comparable⟩
    cases path with
    | nil => exact absurd rfl leaf.path_ne_nil
    | cons first others =>
      obtain ⟨rfl, remaining⟩ := comparable_cons_iff.mp comparable
      exact ⟨others, ⟨rule, leaf⟩, remaining⟩
  · rintro ⟨path, leads, comparable⟩
    exact ⟨name :: path, leads, comparable_cons_iff.mpr ⟨rfl, comparable⟩⟩

theorem not_covers_cons {tree : FilterTree} {name : String} (unnamed : rule? tree name = none)
    (rest : List String) : ¬ tree.Covers (name :: rest) := by
  rw [covers_cons_iff]
  rintro ⟨path, ⟨rule, leaf⟩, -⟩
  cases leaf with
  | here found => cases unnamed.symm.trans found
  | within found => cases unnamed.symm.trans found

theorem covers_cons_of_within {tree : FilterTree} {name : String} {rules : FilterTree}
    (found : rule? tree name = some (.within rules)) (rest : List String) :
    tree.Covers (name :: rest) ↔ rules.Covers rest := by
  rw [covers_cons_iff]
  refine exists_congr fun path => and_congr_left fun _ => exists_congr fun rule => ?_
  exact hasLeaf_within_iff found

/-- Where every element is related to something, a list is related to a list, element by element. -/
theorem exists_forall₂ {α β : Type} {relation : α → β → Prop} {elements : List α}
    (each : ∀ element ∈ elements, ∃ image, relation element image) :
    ∃ images, List.Forall₂ relation elements images := by
  induction elements with
  | nil => exact ⟨[], .nil⟩
  | cons element rest inductionHypothesis =>
    obtain ⟨image, related⟩ := each element List.mem_cons_self
    obtain ⟨images, relatedRest⟩ :=
      inductionHypothesis fun other inRest => each other (List.mem_cons_of_mem _ inRest)
    exact ⟨image :: images, .cons related relatedRest⟩

/-! ### Plain trees -/

/-- A tree without the marker and without conditions, at every level. -/
structure Plain (tree : FilterTree) : Prop where
  tidy : Throughout Tidy tree
  unmarked : Throughout (fun inner => inner.selectsAll = false) tree
  whole : ∀ path rule, tree.HasLeaf path rule → rule = .keep

theorem Plain.inner {tree : FilterTree} (plain : tree.Plain) {field : String}
    {rules : FilterTree} (found : rule? tree field = some (.within rules)) : Plain rules where
  tidy := plain.tidy.inner found
  unmarked := plain.unmarked.inner found
  whole path rule leaf := plain.whole (field :: path) rule (.within found leaf)

theorem Plain.named_eq {tree : FilterTree} (plain : tree.Plain) : tree.named = tree :=
  named_eq_self plain.unmarked.here

/-- A rule of a plain tree keeps its field, or some of it. -/
theorem Plain.rule_cases {tree : FilterTree} (plain : tree.Plain) {field : String} {rule : Rule}
    (found : rule? tree field = some rule) :
    rule = .keep ∨ ∃ rules : FilterTree, rule = .within rules ∧ rules ≠ [] := by
  cases rule with
  | keep => exact Or.inl rfl
  | keepMatching constraint => exact Or.inl (plain.whole [field] _ (.here found trivial))
  | within rules =>
    refine Or.inr ⟨rules, rfl, ?_⟩
    rintro rfl
    exact plain.tidy.here.filled field found

/-- The edit leaves, of what was found under the field, the scalars that the tree covers. -/
def Reveals (tree : FilterTree) (field : String) (found : Option Json) (edit : Edit) : Prop :=
  ∀ rest scalar, scalar.IsScalar →
    ((edit.outcome none).bind (fun inner => inner.at? rest) = some scalar ↔
      found.bind (fun inner => inner.at? rest) = some scalar ∧
        tree.Covers (field :: fieldNames rest))

/-- The edit that a plain tree makes of a field, as long as the trees inside it can be applied to
the field's value. -/
theorem Plain.exists_edit {tree : FilterTree} (plain : tree.Plain) {field : String}
    {found : Option Json}
    (inside : ∀ value, found = some value → ∀ rules : FilterTree, rules.Plain → rules ≠ [] →
      ∃ kept, rules.project value = .ok kept ∧ Discloses rules.LeadsTo value kept) :
    ∃ edit, tree.editOf field found = .ok edit ∧ tree.Reveals field found edit := by
  cases found with
  | none => exact ⟨.leave, rfl, fun _ _ _ => by simp [Edit.outcome]⟩
  | some value =>
    rw [editOf]
    cases known : rule? tree field with
    | none =>
      exact ⟨.leave, rfl, fun rest _ _ => by
        simp [Edit.outcome, not_covers_cons known]⟩
    | some rule =>
      rcases plain.rule_cases known with rfl | ⟨rules, rfl, filled⟩
      · exact ⟨.put value, rfl, fun rest _ _ =>
          (and_iff_left (covers_cons_of_isLeaf known trivial _)).symm⟩
      · obtain ⟨kept, projected, discloses⟩ := inside value rfl rules (plain.inner known) filled
        refine ⟨.put kept, Rule.edit_within_eq_ok_iff.mpr ⟨kept, rfl, projected⟩, ?_⟩
        intro rest scalar isScalar
        rw [covers_cons_of_within known]
        exact discloses rest scalar isScalar

/-- A plain tree can be applied to every value, and discloses what it covers. -/
theorem Plain.exists_project {tree : FilterTree} (plain : tree.Plain) (filled : tree ≠ [])
    (value : Json) :
    ∃ kept, tree.project value = .ok kept ∧ Discloses tree.LeadsTo value kept := by
  induction value using Json.induction generalizing tree with
  | array items inductionHypothesis =>
    obtain ⟨left, each⟩ := exists_forall₂ fun item inArray =>
      inductionHypothesis item inArray plain filled
    refine ⟨.array left, (project_array_eq_ok_iff tree items _).mpr ⟨left, rfl, ?_⟩,
      discloses_array (each.imp fun _ _ both => both.2)⟩
    rw [plain.named_eq]
    exact each.imp fun _ _ both => both.1
  | object members inductionHypothesis =>
    have fields : ∀ field, ∃ edit, tree.editOf field (Members.find? members field) = .ok edit ∧
        tree.Reveals field (Members.find? members field) edit := fun field =>
      plain.exists_edit fun value found rules plainRules filledRules =>
        inductionHypothesis (field, value) (Members.mem_of_find? found) plainRules filledRules
    have fromNothing : tree.start members = [] := by
      rw [start, plain.unmarked.here]
      rfl
    have sound : ∀ field, ∃ edit, decided (project.edits tree members) field = .ok edit := by
      intro field
      obtain ⟨edit, decision, -⟩ := fields field
      exact ⟨edit, (decided_edits tree members field).trans decision⟩
    obtain ⟨left, done⟩ : ∃ left, carryOut (project.edits tree members) tree [] = .ok left :=
      carryOut_isOk sound []
    have projected : tree.project (.object members) = .ok (.object left) := by
      refine (project_object_eq_ok_iff tree members _).mpr ⟨left, rfl, ?_⟩
      rw [plain.named_eq, fromNothing]
      exact done
    refine ⟨.object left, projected, discloses_object fun name rest found scalar => ?_⟩
    obtain ⟨edit, decision, reveals⟩ := fields name
    have distinct : (Members.keys []).Nodup := List.nodup_nil
    obtain ⟨own, ownDecision, outcome⟩ := find?_carryOut_edits distinct done name
    have same : own = edit := Except.ok.inj (ownDecision.symm.trans decision)
    rw [outcome, same]
    exact reveals rest found scalar
  | _ =>
    obtain ⟨path, rule, leaf⟩ := exists_hasLeaf plain.tidy filled
    exact ⟨_, rfl, discloses_scalar trivial ⟨path, rule, leaf⟩⟩

end FilterTree

/-! ### Lists of plain paths -/

/-- The path stands in the list, and no later path that is not empty meets it. -/
def Survives (paths : List (List String)) (path : List String) : Prop :=
  ∃ before after, paths = before ++ path :: after ∧
    ∀ later ∈ after, later ≠ [] → ¬ Comparable later path

theorem Survives.cons {paths : List (List String)} {path : List String}
    (survives : Survives paths path) (first : List String) : Survives (first :: paths) path := by
  obtain ⟨before, after, rfl, free⟩ := survives
  exact ⟨first :: before, after, rfl, free⟩

/-- The last path that is not empty survives. -/
theorem exists_survives {paths : List (List String)} (filled : ∃ path ∈ paths, path ≠ []) :
    ∃ path, path ≠ [] ∧ Survives paths path := by
  induction paths with
  | nil =>
    obtain ⟨path, inside, -⟩ := filled
    cases inside
  | cons first rest inductionHypothesis =>
    by_cases further : ∃ path ∈ rest, path ≠ []
    · obtain ⟨path, nonempty, survives⟩ := inductionHypothesis further
      exact ⟨path, nonempty, survives.cons first⟩
    · have empty : ∀ later ∈ rest, later = [] := by
        simpa using further
      obtain ⟨path, inside, nonempty⟩ := filled
      have same : path = first := by
        rcases List.mem_cons.mp inside with here | inRest
        · exact here
        · exact absurd (empty path inRest) nonempty
      exact ⟨first, same ▸ nonempty, [], rest, rfl,
        fun later inRest filledLater => absurd (empty later inRest) filledLater⟩

theorem settles_map_path_iff {paths : List (List String)} {path : List String} {rule : Rule} :
    Settles (paths.map .path) path rule ↔ rule = .keep ∧ path ≠ [] ∧ Survives paths path := by
  constructor
  · rintro ⟨before, selector, after, split, own, nonempty, same, free⟩
    obtain ⟨front, remaining, rfl, -, rest⟩ := List.map_eq_append_iff.mp split
    obtain ⟨first, back, rfl, rfl, rfl⟩ := List.map_eq_cons_iff.mp rest
    obtain rfl : first = path := own
    refine ⟨same.symm, nonempty, front, back, rfl, fun later inBack filled meets => ?_⟩
    exact free (.path later) (List.mem_map_of_mem inBack) ⟨filled, meets⟩
  · rintro ⟨rfl, nonempty, front, back, rfl, free⟩
    refine ⟨front.map .path, .path path, back.map .path, by simp, rfl, nonempty, rfl, ?_⟩
    intro later inBack meets
    obtain ⟨other, isLater, rfl⟩ := List.mem_map.mp inBack
    exact free other isLater meets.1 meets.2

namespace FilterTree

theorem selectsAll_insertEntry {tree : FilterTree} {field : String} (rule : Rule)
    (other : field ≠ selectAllMarker) (unmarked : tree.selectsAll = false) :
    selectsAll (Dictionary.insertEntry field rule tree) = false := by
  rw [← Bool.not_eq_true, selectsAll_iff] at unmarked ⊢
  intro marked
  rcases Dictionary.mem_insertEntry marked with same | inTree
  · exact other same.symm
  · exact unmarked inTree

theorem plain_build {paths : List (List String)} {tree : FilterTree}
    (unmarked : ∀ path ∈ paths, selectAllMarker ∉ path)
    (built : build (paths.map .path) = .ok tree) : tree.Plain where
  tidy := throughout_tidy_build built
  unmarked := by
    obtain ⟨-, rfl⟩ := build_eq_ok_iff.mp built
    have none : selectsAll [] = false := rfl
    have empty : Throughout (fun inner => inner.selectsAll = false) [] := throughout_empty none
    refine throughout_foldl_set none (fun selector inside field inPath inner rule _ => ?_) empty
    obtain ⟨path, inPaths, rfl⟩ := List.mem_map.mp inside
    refine selectsAll_insertEntry rule ?_
    rintro rfl
    exact unmarked path inPaths inPath
  whole path rule leaf := (settles_map_path_iff.mp ((hasLeaf_build_iff built).mp leaf)).1

/-- A list of plain paths discloses, of every value, the scalars whose names go on from a surviving
path or are gone on from by one. -/
theorem build_project_discloses {paths : List (List String)}
    (unmarked : ∀ path ∈ paths, selectAllMarker ∉ path) (filled : ∃ path ∈ paths, path ≠ [])
    (value : Json) :
    ∃ tree kept, build (paths.map .path) = .ok tree ∧ tree.project value = .ok kept ∧
      Discloses (fun path => path ≠ [] ∧ Survives paths path) value kept := by
  have complete : ∀ selector ∈ paths.map Selector.path, ¬ selector.LacksTarget := by
    intro selector inside
    obtain ⟨path, -, rfl⟩ := List.mem_map.mp inside
    exact id
  obtain ⟨tree, built⟩ : ∃ tree, build (paths.map .path) = .ok tree :=
    ⟨_, build_of_complete complete⟩
  have leads : tree.LeadsTo = fun path => path ≠ [] ∧ Survives paths path := by
    refine funext fun path => propext ?_
    simp only [LeadsTo, hasLeaf_build_iff built, settles_map_path_iff, exists_eq_left]
  have nonempty : tree ≠ [] := by
    rintro rfl
    obtain ⟨path, own⟩ := exists_survives filled
    obtain ⟨rule, leaf⟩ : LeadsTo [] path := leads ▸ own
    exact not_hasLeaf_empty path rule leaf
  obtain ⟨kept, projected, discloses⟩ := (plain_build unmarked built).exists_project nonempty value
  exact ⟨tree, kept, built, projected, leads ▸ discloses⟩

/-- Paths of which the third narrows the first, and the last is ignored. -/
def heroPaths : List (List String) :=
  [["parts"], ["id"], ["parts", "name"], ["city", "first"], []]

theorem build_project_discloses_hero :
    (∀ path ∈ heroPaths, selectAllMarker ∉ path) ∧ (∃ path ∈ heroPaths, path ≠ []) ∧
      ∃ tree kept, build (heroPaths.map .path) = .ok tree ∧ tree.project heroBody = .ok kept ∧
        Discloses (fun path => path ≠ [] ∧ Survives heroPaths path) heroBody kept := by
  have unmarked : ∀ path ∈ heroPaths, selectAllMarker ∉ path := by decide
  have filled : ∃ path ∈ heroPaths, path ≠ [] := by decide
  exact ⟨unmarked, filled, build_project_discloses unmarked filled heroBody⟩

/-- The empty path discloses nothing, although it goes on to every place: it adds no rule to the
tree, so it has to be left out of the paths that survive. -/
theorem not_build_project_discloses_empty :
    let paths := [["name"], []]
    let body := Json.object [("id", .bool true)]
    (∀ path ∈ paths, selectAllMarker ∉ path) ∧ (∃ path ∈ paths, path ≠ []) ∧
      ¬ ∃ tree kept, build (paths.map .path) = .ok tree ∧ tree.project body = .ok kept ∧
        Discloses (Survives paths) body kept := by
  refine ⟨by decide, by decide, ?_⟩
  rintro ⟨tree, kept, built, projected, discloses⟩
  obtain rfl : [("name", .keep)] = tree := Except.ok.inj built
  obtain rfl : .object [] = kept := Except.ok.inj projected
  have survives : Survives [["name"], []] [] := ⟨[["name"]], [], rfl, by simp⟩
  have everywhere : Comparable ["id"] [] := comparable_nil ["id"]
  have shown := (discloses [.field "id"] (.bool true) trivial).mpr ⟨rfl, [], survives, everywhere⟩
  cases shown

end FilterTree

end Gateway
