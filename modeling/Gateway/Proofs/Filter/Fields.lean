/-
This file says what a projection means. Scalars pass unchanged, an array keeps its length and every
item is projected with the named rules alone, and of an object every field is decided by its own
rule and its own value: the rules are carried out one after the other on one set of members, but
none of them disturbs the field of another. The marker for all fields only counts where a field has
no rule, or where its rule leaves it as it is.
-/

import Gateway.Proofs.Filter.Edits

namespace Gateway

/-! ### The edit of a match -/

namespace Pattern

/-- The items that show the pattern, in their order. -/
def hits (pattern : Pattern) (items : List Json) : List Json :=
  items.filter fun item => pattern.isMatch item.matchText

/-- What the pattern does to a field with the value. -/
def edit (pattern : Pattern) : Json → Edit
  | .array items => if pattern.hits items = [] then .leave else .put (.array (pattern.hits items))
  | value => if pattern.isMatch value.matchText then .put value else .remove

end Pattern

namespace Match

theorem edit_of_compile? {constraint : Match} {pattern : Pattern}
    (compiled : constraint.pattern.compile? = some pattern) (value : Json) :
    constraint.edit value = .ok (pattern.edit value) := by
  rw [edit.eq_def, compiled]
  cases value with
  | array items =>
    unfold Pattern.edit Pattern.hits
    dsimp only
    cases items.filter fun item => pattern.isMatch item.matchText <;> rfl
  | _ => rfl

/-- A match decides a field where its pattern can be read, and does what that pattern does. -/
theorem edit_eq_ok_iff {constraint : Match} {value : Json} {decision : Edit} :
    constraint.edit value = .ok decision ↔
      ∃ pattern, constraint.pattern.compile? = some pattern ∧ decision = pattern.edit value := by
  cases compiled : constraint.pattern.compile? with
  | none =>
    rw [edit.eq_def, compiled]
    simp
  | some pattern =>
    rw [edit_of_compile? compiled]
    simp [eq_comm]

end Match

/-! ### Objects, arrays and scalars -/

/-- The value has no parts. -/
def Json.IsScalar : Json → Prop
  | .array _ | .object _ => False
  | _ => True

namespace FilterTree

theorem projectItems_eq_mapM (tree : FilterTree) (items : List Json) :
    project.projectItems tree items = items.mapM tree.project := by
  induction items with
  | nil => rfl
  | cons item rest inductionHypothesis =>
    rw [project.projectItems, List.mapM_cons, inductionHypothesis]
    cases tree.project item <;> rfl

/-- Items are projected one by one, with the named rules. -/
theorem project_array_eq_ok_iff (tree : FilterTree) (items : List Json) (kept : Json) :
    tree.project (.array items) = .ok kept ↔
      ∃ left, kept = .array left ∧
        List.Forall₂ (fun item itemKept => tree.named.project item = .ok itemKept) items left := by
  rw [project]
  simp only [map_eq_ok_iff, projectItems_eq_mapM, mapM_eq_ok_iff]

/-- The members that the rules of an object start from. -/
def start (tree : FilterTree) (members : Members) : Members :=
  if tree.selectsAll then members else []

theorem nodup_keys_start (tree : FilterTree) {members : Members} (distinct : members.keys.Nodup) :
    (tree.start members).keys.Nodup := by
  rw [start]
  split
  · exact distinct
  · exact List.nodup_nil

theorem find?_start (tree : FilterTree) (members : Members) (key : String) :
    (tree.start members).find? key = if tree.selectsAll then members.find? key else none := by
  rw [start]
  split <;> rfl

theorem project_object_eq_ok_iff (tree : FilterTree) (members : Members) (kept : Json) :
    tree.project (.object members) = .ok kept ↔
      ∃ left, kept = .object left ∧
        carryOut (project.edits tree.named members) tree.named (tree.start members) =
          .ok left := by
  rw [project]
  exact map_eq_ok_iff

/-- Every field of a projected object is decided by itself. -/
theorem find?_of_project {tree : FilterTree} {members left : Members}
    (distinct : (tree.start members).keys.Nodup)
    (projected : tree.project (.object members) = .ok (.object left)) (key : String) :
    ∃ edit, tree.named.editOf key (members.find? key) = .ok edit ∧
      left.find? key = edit.outcome (if tree.selectsAll then members.find? key else none) := by
  obtain ⟨result, same, done⟩ := (project_object_eq_ok_iff tree members _).mp projected
  cases same
  rw [← find?_start]
  exact find?_carryOut_edits distinct done key

/-! ### The marker -/

theorem selectsAll_iff (tree : FilterTree) :
    tree.selectsAll = true ↔ selectAllMarker ∈ tree.map Prod.fst := by
  simp [selectsAll]

/-- The named rules are those of every field but the one that is called as the marker. -/
theorem rule?_named (tree : FilterTree) (field : String) :
    tree.named.rule? field = if field = selectAllMarker then none else tree.rule? field := by
  rw [rule?, named, Dictionary.valueAt?_eraseEntry]
  simp only [eq_comm, rule?]

theorem selectsAll_named (tree : FilterTree) : tree.named.selectsAll = false := by
  simp [selectsAll, named, Dictionary.eraseEntry]

theorem named_eq_self {tree : FilterTree} (unmarked : tree.selectsAll = false) :
    tree.named = tree := by
  refine List.filter_eq_self.mpr fun entry inside => ?_
  simpa using List.any_eq_false.mp unmarked entry inside

end FilterTree

/-! ### What is left of a value -/

/-- What a match leaves of a field with the value: of an array the items that show the pattern, and
of any other value all or nothing. An array without such an item is left to the marker. -/
def Match.Leaves (constraint : Match) (marked : Bool) (value : Json) (left : Option Json) : Prop :=
  ∃ pattern, constraint.pattern.compile? = some pattern ∧
    left =
      match value with
      | .array items =>
        if pattern.hits items = [] then (if marked then some value else none)
        else some (.array (pattern.hits items))
      | other => if pattern.isMatch other.matchText then some other else none

theorem Match.leaves_of_edit {constraint : Match} {value : Json} {edit : Edit} (marked : Bool)
    (decided : constraint.edit value = .ok edit) :
    constraint.Leaves marked value (edit.outcome (if marked then some value else none)) := by
  obtain ⟨pattern, compiled, rfl⟩ := Match.edit_eq_ok_iff.mp decided
  refine ⟨pattern, compiled, ?_⟩
  cases value with
  | array items =>
    rw [Pattern.edit]
    dsimp only
    split <;> rfl
  | _ =>
    show Edit.outcome (if pattern.isMatch _ then .put _ else .remove) _ = _
    dsimp only
    split <;> rfl

namespace FilterTree

/-- What is left of a field, by what stands in it: nothing of an absent one, and of any other what
its rule leaves. -/
def FieldLeaves (tree : FilterTree) (field : String) : Option Json → Option Json → Prop
  | none, left => left = none
  | some value, left =>
    match tree.named.rule? field with
    | none => left = if tree.selectsAll then some value else none
    | some .keep => left = some value
    | some (.keepMatching constraint) => constraint.Leaves tree.selectsAll value left
    | some (.within rules) => ∃ kept, project rules value = .ok kept ∧ left = some kept

/-- What is left of a value. -/
def Leaves (tree : FilterTree) : Json → Json → Prop
  | .array items, kept =>
    ∃ left, kept = .array left ∧
      List.Forall₂ (fun item itemKept => tree.named.project item = .ok itemKept) items left
  | .object members, kept =>
    ∃ left : Members, kept = .object left ∧ left.keys.Nodup ∧
      ∀ key, tree.FieldLeaves key (Members.find? members key) (left.find? key)
  | scalar, kept => kept = scalar

/-- The outcome of the edit that a tree makes is what its rule leaves. -/
theorem fieldLeaves_of_editOf {tree : FilterTree} {field : String} {found : Option Json}
    {edit : Edit} (decided : tree.named.editOf field found = .ok edit) :
    tree.FieldLeaves field found (edit.outcome (if tree.selectsAll then found else none)) := by
  cases found with
  | none =>
    rw [← Except.ok.inj decided]
    show (if tree.selectsAll then none else none) = none
    exact ite_self none
  | some value =>
    rw [editOf] at decided
    rw [FieldLeaves]
    cases known : tree.named.rule? field with
    | none =>
      rw [known] at decided
      rw [← Except.ok.inj decided]
      rfl
    | some rule =>
      rw [known] at decided
      cases rule with
      | keep =>
        rw [← Except.ok.inj decided]
        rfl
      | keepMatching constraint => exact Match.leaves_of_edit tree.selectsAll decided
      | within rules =>
        obtain ⟨kept, rfl, inner⟩ := Rule.edit_within_eq_ok_iff.mp decided
        exact ⟨kept, inner, rfl⟩

/-- A projection means what its rules say, field by field: scalars pass, items are projected one by
one with the named rules, and no field of an object depends on another. -/
theorem leaves_of_project {tree : FilterTree} {value kept : Json} (wellFormed : value.WellFormed)
    (projected : tree.project value = .ok kept) : tree.Leaves value kept := by
  cases value with
  | array items => exact (project_array_eq_ok_iff tree items kept).mp projected
  | object members =>
    obtain ⟨left, rfl, done⟩ := (project_object_eq_ok_iff tree members kept).mp projected
    have distinct := tree.nodup_keys_start wellFormed.1
    refine ⟨left, rfl, nodup_keys_carryOut distinct done, fun key => ?_⟩
    obtain ⟨edit, decided, outcome⟩ := find?_of_project distinct projected key
    rw [outcome]
    exact fieldLeaves_of_editOf decided
  | _ => exact (Except.ok.inj projected).symm

/-- Rules of every kind beside the marker. -/
def heroRules : FilterTree :=
  [(selectAllMarker, .keep),
    ("city", .keepMatching ⟨["city"], .source "^met"⟩),
    ("id", .keep),
    ("parts", .within [("name", .keep)]),
    ("tags", .keepMatching ⟨["tags"], .source "^a"⟩),
    ("titles", .keepMatching ⟨["titles"], .source "^z"⟩)]

/-- A body that meets all of them, and has a field that is called as the marker. -/
def heroBody : Json :=
  .object
    [("city", .text "gotham"),
      (selectAllMarker, .null),
      ("id", .number (.integer 1 (by decide))),
      ("parts", .array [.object [("name", .text "cape"), ("worn", .bool true)], .bool false]),
      ("tags", .array [.text "apple", .text "berry"]),
      ("titles", .array [.text "sir"]),
      ("masked", .bool true)]

/-- What is left of the body: the last member has filled the hole of the first. -/
def heroLeft : Json :=
  .object
    [("masked", .bool true),
      (selectAllMarker, .null),
      ("id", .number (.integer 1 (by decide))),
      ("parts", .array [.object [("name", .text "cape")], .bool false]),
      ("tags", .array [.text "apple"]),
      ("titles", .array [.text "sir"])]

theorem wellFormed_heroBody : heroBody.WellFormed := by
  simp [heroBody, selectAllMarker, Json.WellFormed, Json.WellFormed.itemsWellFormed,
    Json.WellFormed.membersWellFormed]

theorem project_heroBody : heroRules.project heroBody = .ok heroLeft := by
  rfl

theorem leaves_of_project_hero :
    heroBody.WellFormed ∧ heroRules.project heroBody = .ok heroLeft ∧
      heroRules.Leaves heroBody heroLeft :=
  ⟨wellFormed_heroBody, project_heroBody, leaves_of_project wellFormed_heroBody project_heroBody⟩

end FilterTree

end Gateway
