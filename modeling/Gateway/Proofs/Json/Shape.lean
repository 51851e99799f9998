/-
This file says what reading a record comes to. A record is made of its defaults by setting one given
part after the other, so what each of these steps preserves holds of the record; and an object whose
members set the parts of a record one by one reads as that record. The integers and dictionaries
that stand in records read as what they were written from.
-/

import Gateway.Json.Shape
import Gateway.Proofs.Filter.Outcome

namespace Gateway

/-! ### Records of any shape -/

namespace RecordShape

variable {α : Type} {shape : RecordShape} {value : Json} {defaults result : α}
  {set : α → String → Json → Decoded α}

/-- The value gives the part for the field. -/
def Gives (shape : RecordShape) (value : Json) (field : String) (part : Json) : Prop :=
  ∃ members, shape.given value = .ok members ∧ (field, part) ∈ members

/-- The values that a record is read from are parts of the whole. -/
theorem Gives.wellFormed {field : String} {part : Json} (gives : shape.Gives value field part)
    (wellFormed : value.WellFormed) : part.WellFormed := by
  obtain ⟨members, given, inside⟩ := gives
  cases value with
  | object all =>
    obtain rfl : all.filter _ = members := Except.ok.inj given
    exact (Json.membersWellFormed_iff all).mp wellFormed.2 _ (List.mem_of_mem_filter inside)
  | array items =>
    obtain rfl : shape.fields.zip items = members := Except.ok.inj given
    exact (Json.itemsWellFormed_iff items).mp wellFormed part (List.of_mem_zip inside).2
  | _ => cases given

/-- The fields that a value gives are distinct, where the fields of the shape and the members of the
value are. -/
theorem nodup_fields_of_given (fields : shape.fields.Nodup) (wellFormed : value.WellFormed)
    {members : List (String × Json)} (given : shape.given value = .ok members) :
    (members.map Prod.fst).Nodup := by
  cases value with
  | object all =>
    obtain rfl : all.filter _ = members := Except.ok.inj given
    exact wellFormed.1.sublist (List.filter_sublist.map Prod.fst)
  | array items =>
    obtain rfl : shape.fields.zip items = members := Except.ok.inj given
    rw [List.zip_eq_zip_take_min, List.map_fst_zip (by simp)]
    exact fields.sublist (List.take_sublist _ _)
  | _ => cases given

/-- A value gives one part for a field. -/
theorem Gives.unique {field : String} {part other : Json} (fields : shape.fields.Nodup)
    (wellFormed : value.WellFormed) (gives : shape.Gives value field part)
    (givesOther : shape.Gives value field other) : part = other := by
  obtain ⟨members, given, inside⟩ := gives
  obtain ⟨own, givenOwn, insideOther⟩ := givesOther
  obtain rfl := Except.ok.inj (given.symm.trans givenOwn)
  have distinct : Members.keys members |>.Nodup := nodup_fields_of_given fields wellFormed given
  exact Option.some.inj
    ((Members.find?_of_mem distinct inside).symm.trans (Members.find?_of_mem distinct insideOther))

/-- A record that is read was made from its defaults by setting all given parts. -/
theorem exists_foldlM_of_decode (decoded : shape.decode defaults set value = .ok result) :
    ∃ members, shape.given value = .ok members ∧
      members.foldlM (fun record member => set record member.1 member.2) defaults = .ok result := by
  obtain ⟨members, given, further⟩ := bind_eq_ok_iff.mp decoded
  obtain ⟨record, folded, checked⟩ := bind_eq_ok_iff.mp further
  refine ⟨members, given, ?_⟩
  split at checked
  · cases checked
  · split at checked
    · cases checked
    · exact Except.ok.inj checked ▸ folded

/-- What holds of the defaults, and of whatever one of the fields is set in to a given part, holds
of a record that is read. -/
theorem decode_preserves (holds : α → Prop) (initial : holds defaults)
    (preserved : ∀ before field part after, shape.Gives value field part → holds before →
      set before field part = .ok after → holds after)
    (decoded : shape.decode defaults set value = .ok result) : holds result := by
  obtain ⟨members, given, folded⟩ := exists_foldlM_of_decode decoded
  exact foldlM_preserves (fun member inside before after =>
    preserved before member.1 member.2 after ⟨members, given, inside⟩) initial folded

/-- What setting one given part establishes, and setting any given part preserves, holds of a record
that is read. -/
theorem decode_establishes (holds : α → Prop) {field : String} {part : Json}
    (gives : shape.Gives value field part)
    (established : ∀ before after, set before field part = .ok after → holds after)
    (preserved : ∀ before field part after, shape.Gives value field part → holds before →
      set before field part = .ok after → holds after)
    (decoded : shape.decode defaults set value = .ok result) : holds result := by
  obtain ⟨members, given, folded⟩ := exists_foldlM_of_decode decoded
  obtain ⟨own, givenOwn, inside⟩ := gives
  obtain rfl := Except.ok.inj (given.symm.trans givenOwn)
  exact foldlM_establishes inside established (fun member inside before after =>
    preserved before member.1 member.2 after ⟨members, given, inside⟩) folded

/-- Setting the members one after the other, all of them fields of the shape, leads from one record
to another. -/
inductive Leads (shape : RecordShape) (set : α → String → Json → Decoded α) :
    List (String × Json) → α → α → Prop
  | nil {record : α} : Leads shape set [] record record
  | cons {before middle after : α} {field : String} {part : Json} {members : List (String × Json)}
    (known : field ∈ shape.fields) (first : set before field part = .ok middle)
    (further : Leads shape set members middle after) :
    Leads shape set ((field, part) :: members) before after

namespace Leads

variable {before middle after : α} {members : List (String × Json)}

theorem known (leads : Leads shape set members before after) :
    ∀ member ∈ members, member.1 ∈ shape.fields := by
  induction leads with
  | nil => exact fun _ inside => nomatch inside
  | cons known _ _ inductionHypothesis =>
    exact List.forall_mem_cons.mpr ⟨known, inductionHypothesis⟩

theorem foldlM_eq_ok (leads : Leads shape set members before after) :
    members.foldlM (fun record member => set record member.1 member.2) before = .ok after := by
  induction leads with
  | nil => rfl
  | cons _ first _ inductionHypothesis =>
    rw [List.foldlM_cons]
    exact bind_eq_ok_iff.mpr ⟨_, first, inductionHypothesis⟩

theorem append {further : List (String × Json)} (begun : Leads shape set members before middle)
    (ended : Leads shape set further middle after) :
    Leads shape set (members ++ further) before after := by
  induction begun with
  | nil => exact ended
  | cons known first _ inductionHypothesis => exact .cons known first (inductionHypothesis ended)

/-- A part that is left out in its absence leads to where the part is what it was. -/
theorem option {β : Type} {part : Option β} {field : String} {write : β → Json}
    (known : field ∈ shape.fields) (absent : part = none → before = after)
    (present : ∀ inner, part = some inner → set before field (write inner) = .ok after) :
    Leads shape set (part.map fun inner => (field, write inner)).toList before after := by
  cases part with
  | none => exact absent rfl ▸ .nil
  | some inner => exact .cons known (present inner rfl) .nil

end Leads

/-- An object whose members lead to a record, the required ones among them, reads as the record. -/
theorem decode_object {members : List (String × Json)}
    (complete : ∀ field ∈ shape.required, field ∈ members.map Prod.fst)
    (leads : Leads shape set members defaults result) :
    shape.decode defaults set (.object members) = .ok result := by
  have given : shape.given (.object members) = .ok members := by
    rw [given, List.filter_eq_self.mpr]
    exact fun member inside => List.contains_iff_mem.mpr (leads.known member inside)
  have noneAbsent :
      (shape.required.find? fun field => !(members.map Prod.fst).contains field) = none := by
    simpa using complete
  rw [decode]
  refine bind_eq_ok_iff.mpr ⟨members, given, ?_⟩
  refine bind_eq_ok_iff.mpr ⟨result, leads.foldlM_eq_ok, ?_⟩
  rw [noneAbsent]
  rfl

end RecordShape

/-! ### Parts of records -/

namespace Json

theorem decodeInteger_of_within {low high value : Int}
    {fits : -0x8000000000000000 ≤ value ∧ value < 0x10000000000000000} (name : String)
    (within : low ≤ value ∧ value < high) :
    decodeInteger low high name (.number (.integer value fits)) = .ok value :=
  if_pos within

theorem decodeUInt16_ofUInt16 (value : UInt16) : decodeUInt16 (ofUInt16 value) = .ok value := by
  have high := value.toNat_lt
  rw [decodeUInt16, ofUInt16, decodeInteger_of_within _ (by omega), Except.map, Int.toNat_natCast,
    UInt16.ofNat_toNat]

theorem decodeUInt64_ofUInt64 (value : UInt64) : decodeUInt64 (ofUInt64 value) = .ok value := by
  have high := value.toNat_lt
  rw [decodeUInt64, ofUInt64, decodeInteger_of_within _ (by omega), Except.map, Int.toNat_natCast,
    UInt64.ofNat_toNat]

theorem decodeInt64_ofInt64 (value : Int64) : decodeInt64 (ofInt64 value) = .ok value := by
  have low := value.le_toInt
  have high := value.toInt_lt
  rw [decodeInt64, ofInt64, decodeInteger_of_within _ (by omega), Except.map, Int64.ofInt_toInt]

/-- A value other than null is there. -/
theorem decodeOption_of_ne_null {α : Type} {decode : Json → Decoded α} {value : Json} {part : α}
    (isThere : value ≠ .null) (read : decode value = .ok part) :
    decodeOption decode value = .ok (some part) := by
  cases value with
  | null => exact absurd rfl isThere
  | _ => exact congrArg (Except.map some) read

/-- Reading a value that may be there comes to nothing, or to what a value other than null reads
as. -/
theorem decodeOption_eq_ok {α : Type} {decode : Json → Decoded α} {value : Json} {part : Option α}
    (read : decodeOption decode value = .ok part) :
    part = none ∨ ∃ inner, part = some inner ∧ value ≠ .null ∧ decode value = .ok inner := by
  cases value with
  | null => exact Or.inl (Except.ok.inj read).symm
  | _ =>
    obtain ⟨inner, isThere, own⟩ := map_eq_ok_iff.mp read
    exact Or.inr ⟨inner, isThere, nofun, own⟩

/-- A dictionary whose values read as what they were written from does so too. -/
theorem decodeDictionary_object {α : Type} {decode : Json → Decoded α} (write : α → Json)
    (each : ∀ value, decode (write value) = .ok value) (dictionary : Dictionary α) :
    decodeDictionary decode
        (.object (dictionary.entries.map fun entry => (entry.1, write entry.2))) =
      .ok dictionary := by
  have entries : decodeMembers decode
      (.object (dictionary.entries.map fun entry => (entry.1, write entry.2))) =
        .ok dictionary.entries := by
    rw [decodeMembers, mapM_eq_ok_iff, List.forall₂_map_left_iff, List.forall₂_same]
    intro entry _
    rw [each, Except.map]
  rw [decodeDictionary, entries, Except.map, Dictionary.ofList_entries]

end Json

end Gateway
