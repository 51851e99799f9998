/-
This file says which parameters of a statement are missing. Parameters are read from an object: each
value is turned into a parameter, where the members of an inner object come to stand in the order of
their names, and the parameter is searched for an empty chained value. What is found is what stands
in the object as it was written: a parameter is missing exactly if the marker stands in its value,
as the whole of it or anywhere inside. An object that is the marker but for a further member or
another value is searched as any other object.
-/

import Gateway.Proofs.Json.Shape
import Gateway.Query.Statement

namespace Gateway

/-! ### The marker in a value -/

/-- The marker of an empty chained value stands in the value: it is the value, or it stands in an
item or in the value of a member. -/
inductive Json.HoldsMarker : Json → Prop
  | marker : HoldsMarker (.object [("$emptyChained", .bool true)])
  | item {items : List Json} {content : Json} (inside : content ∈ items)
    (holds : content.HoldsMarker) : HoldsMarker (.array items)
  | member {members : List (String × Json)} {key : String} {content : Json}
    (inside : (key, content) ∈ members) (holds : content.HoldsMarker) :
    HoldsMarker (.object members)

namespace Json

theorem holdsMarker_array_iff {items : List Json} :
    (Json.array items).HoldsMarker ↔ ∃ content ∈ items, content.HoldsMarker := by
  constructor
  · intro holds
    cases holds with
    | item inside holds => exact ⟨_, inside, holds⟩
  · rintro ⟨content, inside, holds⟩
    exact .item inside holds

theorem holdsMarker_object_iff {members : Members} :
    (Json.object members).HoldsMarker ↔
      members = [("$emptyChained", .bool true)] ∨ ∃ member ∈ members, member.2.HoldsMarker := by
  constructor
  · intro holds
    cases holds with
    | marker => exact Or.inl rfl
    | member inside holds => exact Or.inr ⟨_, inside, holds⟩
  · rintro (rfl | ⟨member, inside, holds⟩)
    · exact .marker
    · exact .member inside holds

end Json

/-! ### The marker in a parameter -/

/-- Setting a name that is not there adds its entry to the others. -/
theorem Dictionary.mem_insertEntry_iff {α : Type} {name : String} {value : α}
    {entries : List (String × α)} (absent : name ∉ entries.map Prod.fst) {entry : String × α} :
    entry ∈ insertEntry name value entries ↔ entry = (name, value) ∨ entry ∈ entries := by
  induction entries with
  | nil => exact List.mem_cons
  | cons other rest inductionHypothesis =>
    obtain ⟨key, old⟩ := other
    obtain ⟨different, absentInRest⟩ := not_or.mp (mt List.mem_cons.mpr absent)
    rw [insertEntry, if_neg different]
    split
    · exact List.mem_cons
    · rw [List.mem_cons, List.mem_cons, inductionHypothesis absentInRest, or_left_comm]

namespace Parameter

theorem isMarker_iff {members : Members} :
    isMarker members = true ↔ members = [("$emptyChained", .bool true)] := by
  rw [isMarker.eq_def]
  split
  · next key => simp [emptyChainedMarker]
  · next other =>
    refine iff_of_false Bool.false_ne_true ?_
    rintro rfl
    exact other _ rfl

/-- Nothing but the marker is read as an empty chained value. -/
theorem ofJson_object_eq_emptyChained_iff {members : Members} :
    ofJson (.object members) = .emptyChained ↔ members = [("$emptyChained", .bool true)] := by
  rw [← isMarker_iff, ofJson]
  split
  · next isMarker => exact iff_of_true rfl isMarker
  · next other => exact iff_of_false (fun same => nomatch same) other

theorem ofItems_eq_map (items : List Json) : ofJson.ofItems items = items.map ofJson := by
  induction items with
  | nil => rfl
  | cons item rest inductionHypothesis =>
    rw [ofJson.ofItems, List.map_cons, inductionHypothesis]

/-- The entries of an object are its members, in another order. -/
theorem mem_ofMembers_iff {members : Members} (distinct : members.keys.Nodup)
    {entry : String × Parameter} :
    entry ∈ ofJson.ofMembers members ↔
      ∃ member ∈ members, entry = (member.1, ofJson member.2) := by
  induction members generalizing entry with
  | nil => simp [ofJson.ofMembers]
  | cons member rest inductionHypothesis =>
    obtain ⟨key, content⟩ := member
    obtain ⟨keyOnce, restDistinct⟩ := List.nodup_cons.mp distinct
    have absent : key ∉ (ofJson.ofMembers rest).map Prod.fst := by
      intro inside
      obtain ⟨other, isEntry, rfl⟩ := List.mem_map.mp inside
      obtain ⟨source, inRest, rfl⟩ := (inductionHypothesis restDistinct).mp isEntry
      exact keyOnce (List.mem_map.mpr ⟨source, inRest, rfl⟩)
    rw [ofJson.ofMembers, Dictionary.mem_insertEntry_iff absent, inductionHypothesis restDistinct,
      List.exists_mem_cons_iff]

theorem itemsHoldEmpty_eq_any (items : List Parameter) :
    holdsEmpty.itemsHoldEmpty items = items.any holdsEmpty := by
  induction items with
  | nil => rfl
  | cons item rest inductionHypothesis =>
    rw [holdsEmpty.itemsHoldEmpty, List.any_cons, inductionHypothesis]

theorem entriesHoldEmpty_eq_any (entries : List (String × Parameter)) :
    holdsEmpty.entriesHoldEmpty entries = entries.any fun entry => entry.2.holdsEmpty := by
  induction entries with
  | nil => rfl
  | cons entry rest inductionHypothesis =>
    rw [holdsEmpty.entriesHoldEmpty, List.any_cons, inductionHypothesis]

theorem holdsEmpty_list_iff {items : List Parameter} :
    (list items).holdsEmpty = true ↔ ∃ item ∈ items, item.holdsEmpty = true := by
  rw [holdsEmpty, itemsHoldEmpty_eq_any, List.any_eq_true]

theorem holdsEmpty_keyed_iff {entries : List (String × Parameter)} :
    (keyed entries).holdsEmpty = true ↔ ∃ entry ∈ entries, entry.2.holdsEmpty = true := by
  rw [holdsEmpty, entriesHoldEmpty_eq_any, List.any_eq_true]

/-- The parameter of a value holds an empty chained value exactly where the value holds the
marker. -/
theorem holdsEmpty_ofJson_iff {value : Json} (wellFormed : value.WellFormed) :
    (ofJson value).holdsEmpty = true ↔ value.HoldsMarker := by
  induction value using Json.induction with
  | array items inductionHypothesis =>
    have wellFormedItems := (Json.itemsWellFormed_iff items).mp wellFormed
    rw [ofJson, ofItems_eq_map, holdsEmpty_list_iff, Json.holdsMarker_array_iff]
    simp only [List.mem_map, exists_exists_and_eq_and]
    exact exists_congr fun item => and_congr_right fun inside =>
      inductionHypothesis item inside (wellFormedItems item inside)
  | object members inductionHypothesis =>
    have wellFormedMembers := (Json.membersWellFormed_iff members).mp wellFormed.2
    rw [Json.holdsMarker_object_iff, ofJson]
    split
    · next isMarker => exact iff_of_true rfl (Or.inl (isMarker_iff.mp isMarker))
    · next other =>
      rw [or_iff_right (mt isMarker_iff.mpr other), holdsEmpty_keyed_iff]
      constructor
      · rintro ⟨entry, isEntry, holds⟩
        obtain ⟨member, inside, rfl⟩ := (mem_ofMembers_iff wellFormed.1).mp isEntry
        exact ⟨member, inside,
          (inductionHypothesis member inside (wellFormedMembers member inside)).mp holds⟩
      · rintro ⟨member, inside, holds⟩
        exact ⟨_, (mem_ofMembers_iff wellFormed.1).mpr ⟨member, inside, rfl⟩,
          (inductionHypothesis member inside (wellFormedMembers member inside)).mpr holds⟩
  | _ => exact iff_of_false Bool.false_ne_true fun holds => nomatch holds

end Parameter

/-! ### The parameters of a statement -/

namespace Statement

/-- An object is read as parameters member by member, whatever its members are. -/
theorem decodeParameters_object (members : Members) :
    decodeParameters (.object members) =
      .ok (members.map fun member => (member.1, Parameter.ofJson member.2)) := by
  rw [decodeParameters, Json.decodeMembers, mapM_eq_ok_iff, List.forall₂_map_right_iff,
    List.forall₂_same]
  exact fun _ _ => rfl

/-- A statement that is given parameters has them once it is read. -/
theorem parameters_of_decode {value part : Json} {statement : Statement}
    (wellFormed : value.WellFormed) (gives : shape.Gives value "with" part)
    (decoded : decode value = .ok statement) :
    decodeParameters part = .ok statement.parameters := by
  refine RecordShape.decode_establishes (fun read => decodeParameters part = .ok read.parameters)
    gives ?_ ?_ decoded
  · intro before after done
    obtain ⟨parameters, read, same⟩ := bind_eq_ok_iff.mp done
    exact Except.ok.inj same ▸ read
  · intro before field other after otherGives holds done
    unfold set at done
    split at done
    case h_3 =>
      -- the parameters are given once, so setting them again sets the same ones
      obtain rfl := gives.unique (by decide) wellFormed otherGives
      obtain ⟨parameters, read, same⟩ := bind_eq_ok_iff.mp done
      exact Except.ok.inj same ▸ read
    case h_8 => exact Except.ok.inj done ▸ holds
    all_goals
      obtain ⟨content, -, same⟩ := bind_eq_ok_iff.mp done
      exact Except.ok.inj same ▸ holds

theorem missingParameters_eq_keys {members : Members} {statement : Statement}
    (read : decodeParameters (.object members) = .ok statement.parameters) :
    statement.missingParameters =
      Members.keys (members.filter fun member => (Parameter.ofJson member.2).holdsEmpty) := by
  have parameters := Except.ok.inj ((decodeParameters_object members).symm.trans read)
  rw [missingParameters, ← parameters, List.filter_map, List.map_map]
  rfl

/-- Which parameters of a statement are missing once it is read. The object of the parameters is
always read. The missing ones are its keys with a value that holds the marker, each once and in the
order of the object; and nothing but the marker itself counts as one, least of all the object of the
parameters. -/
theorem missingParameters_meaning {value : Json} {members : Members} {statement : Statement}
    (wellFormed : value.WellFormed) (gives : shape.Gives value "with" (.object members))
    (decoded : decode value = .ok statement) :
    (∀ before : Statement, ∃ after, before.set "with" (.object members) = .ok after) ∧
    (statement.missingParameters.Sublist members.keys ∧ statement.missingParameters.Nodup ∧
      ∀ key, key ∈ statement.missingParameters ↔
        ∃ content, members.find? key = some content ∧ content.HoldsMarker) ∧
    (∀ inner : Members, Parameter.ofJson (.object inner) = .emptyChained ↔
      inner = [("$emptyChained", .bool true)]) ∧
    (members = [("$emptyChained", .bool true)] → statement.missingParameters = []) := by
  have wellFormedMembers : (Json.object members).WellFormed := gives.wellFormed wellFormed
  have missing := missingParameters_eq_keys (parameters_of_decode wellFormed gives decoded)
  have ordered : statement.missingParameters.Sublist members.keys :=
    missing ▸ List.filter_sublist.map Prod.fst
  refine ⟨fun before => ?_, ⟨ordered, wellFormedMembers.1.sublist ordered, fun key => ?_⟩,
    fun inner => Parameter.ofJson_object_eq_emptyChained_iff, ?_⟩
  · exact ⟨_, bind_eq_ok_iff.mpr ⟨_, decodeParameters_object members, rfl⟩⟩
  · have holds := (Json.membersWellFormed_iff members).mp wellFormedMembers.2
    rw [missing, Members.keys, List.mem_map]
    constructor
    · rintro ⟨member, inside, rfl⟩
      obtain ⟨isMember, held⟩ := List.mem_filter.mp inside
      exact ⟨member.2, Members.find?_of_mem wellFormedMembers.1 isMember,
        (Parameter.holdsEmpty_ofJson_iff (holds member isMember)).mp held⟩
    · rintro ⟨content, found, held⟩
      have isMember := Members.mem_of_find? found
      exact ⟨(key, content), List.mem_filter.mpr ⟨isMember,
        (Parameter.holdsEmpty_ofJson_iff (holds _ isMember)).mpr held⟩, rfl⟩
  · rintro rfl
    rw [missing]
    rfl

/-- Parameters of which the third and the last hold the marker. The others only look like it, and
one of them has its name. -/
def chainedParameters : Members :=
  [("page", .array [.object [("$emptyChained", .bool true), ("of", .null)]]),
    ("$emptyChained", .bool true),
    ("ids", .array
      [.null, .object [("of", .object [("$emptyChained", .bool true)]), ("at", .null)]]),
    ("city", .object [("$emptyChained", .bool false)]),
    ("id", .object [("$emptyChained", .bool true)])]

/-- The statement with these parameters, as it is written. -/
def chainedStatement : Json :=
  .object [("with", .object chainedParameters), ("resource", .text "heroes")]

theorem wellFormed_chainedStatement : chainedStatement.WellFormed := by
  simp [chainedStatement, chainedParameters, Json.WellFormed, Json.WellFormed.itemsWellFormed,
    Json.WellFormed.membersWellFormed]

theorem missingParameters_meaning_chained :
    chainedStatement.WellFormed ∧
      shape.Gives chainedStatement "with" (.object chainedParameters) ∧
      ∃ statement, decode chainedStatement = .ok statement ∧
        statement.missingParameters = ["ids", "id"] ∧
        ∀ key, key ∈ statement.missingParameters ↔
          ∃ content, chainedParameters.find? key = some content ∧ content.HoldsMarker := by
  have gives : shape.Gives chainedStatement "with" (.object chainedParameters) :=
    ⟨_, rfl, .head _⟩
  refine ⟨wellFormed_chainedStatement, gives, _, rfl, rfl, ?_⟩
  exact (missingParameters_meaning wellFormed_chainedStatement gives rfl).2.1.2.2

end Statement

end Gateway
