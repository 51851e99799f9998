/-
This file proves that the text of a value is JSON. The grammar of JSON is given over tokens, as what
spells a value: brackets around items and braces around members, with commas between them and colons
behind keys, to any depth. The text of every value is cut into tokens that spell it, where a double
is spelled by some numeral; and no control character stands in it, so it is one line.
-/

import Gateway.Json.Members
import Gateway.Proofs.Json.Doubles

namespace Gateway

open Text (QuotingStyle)

/-! ### The grammar -/

mutual

/-- The tokens spell the value. Any numeral may spell a double. -/
inductive Spells : Json → List Token → Prop
  | null : Spells .null [.null]
  | bool (value : Bool) : Spells (.bool value) [.bool value]
  | integer (value : Int) (fits : -0x8000000000000000 ≤ value ∧ value < 0x10000000000000000) :
    Spells (.number (.integer value fits)) [.numeral (.ofInteger value)]
  | real (value : Decimal.Double) (numeral : Numeral) :
    Spells (.number (.real value)) [.numeral numeral]
  | text {units : List TextUnit} {value : String} (spelled : TextUnit.text? units = some value) :
    Spells (.text value) [.text units]
  | emptyArray : Spells (.array []) [.openArray, .closeArray]
  | array {item : Json} {items : List Json} {first further : List Token}
    (here : Spells item first) (rest : SpellsItems items further) :
    Spells (.array (item :: items)) (.openArray :: (first ++ further))
  | emptyObject : Spells (.object []) [.openObject, .closeObject]
  | object {key : String} {value : Json} {members : Members} {units : List TextUnit}
    {first further : List Token} (isKey : TextUnit.text? units = some key)
    (here : Spells value first) (rest : SpellsMembers members further) :
    Spells (.object ((key, value) :: members))
      (.openObject :: .text units :: .colon :: (first ++ further))

/-- The tokens spell the items behind the first one, and end their array. -/
inductive SpellsItems : List Json → List Token → Prop
  | nil : SpellsItems [] [.closeArray]
  | cons {item : Json} {items : List Json} {first further : List Token}
    (here : Spells item first) (rest : SpellsItems items further) :
    SpellsItems (item :: items) (.comma :: (first ++ further))

/-- The tokens spell the members behind the first one, and end their object. -/
inductive SpellsMembers : Members → List Token → Prop
  | nil : SpellsMembers [] [.closeObject]
  | cons {key : String} {value : Json} {members : Members} {units : List TextUnit}
    {first further : List Token} (isKey : TextUnit.text? units = some key)
    (here : Spells value first) (rest : SpellsMembers members further) :
    SpellsMembers ((key, value) :: members)
      (.comma :: .text units :: .colon :: (first ++ further))

end

/-! ### The text of a value -/

namespace Json

/-- The text is cut into the tokens, before anything that could not belong to a numeral. -/
def CutsInto (text : List Char) (spelled : List Token) : Prop :=
  ∀ rest, EndsNumeral rest → tokens (text ++ rest) = spelled ++ tokens rest

theorem text?_units (style : QuotingStyle) (text : String) :
    TextUnit.text? (style.units text.toList) = some text := by
  rw [TextUnit.text?, QuotingStyle.spell_units, Option.map_some, String.ofList_toList]

theorem endsNumeral_itemsChars (items : List Json) (rest : List Char) :
    EndsNumeral (chars.itemsChars items ++ rest) := by
  cases items with
  | nil => rintro _ ⟨⟩; decide
  | cons item others => rintro _ ⟨⟩; decide

theorem endsNumeral_membersChars (members : Members) (rest : List Char) :
    EndsNumeral (chars.membersChars members ++ rest) := by
  cases members with
  | nil => rintro _ ⟨⟩; decide
  | cons member others => rintro _ ⟨⟩; decide

theorem cutsInto_items {item : Json} {others : List Json} {first further : List Token}
    (cut : CutsInto item.chars first) (cutOthers : CutsInto (chars.itemsChars others) further) :
    CutsInto (item.chars ++ chars.itemsChars others) (first ++ further) := by
  intro rest ends
  rw [List.append_assoc, cut _ (endsNumeral_itemsChars others rest), cutOthers rest ends,
    List.append_assoc]

/-- A member is cut into its key, the colon and the tokens of its value. -/
theorem cutsInto_members (key : String) {value : Json} {others : Members}
    {first further : List Token} (cut : CutsInto value.chars first)
    (cutOthers : CutsInto (chars.membersChars others) further) :
    CutsInto (QuotingStyle.json.quote key ++ ':' :: (value.chars ++ chars.membersChars others))
      (.text (QuotingStyle.json.units key.toList) :: .colon :: (first ++ further)) := by
  intro rest ends
  rw [List.append_assoc, List.cons_append, List.append_assoc,
    tokens_quote QuotingStyle.legible_json, tokens, cut _ (endsNumeral_membersChars others rest),
    cutOthers rest ends, List.cons_append, List.cons_append, List.append_assoc]

theorem exists_spellsItems {items : List Json}
    (each : ∀ item ∈ items, ∃ spelled, Spells item spelled ∧ CutsInto item.chars spelled) :
    ∃ spelled, SpellsItems items spelled ∧ CutsInto (chars.itemsChars items) spelled := by
  induction items with
  | nil =>
    refine ⟨_, .nil, fun rest _ => ?_⟩
    rw [chars.itemsChars, List.singleton_append, tokens]
    rfl
  | cons item others inductionHypothesis =>
    obtain ⟨⟨first, spells, cut⟩, further⟩ := List.forall_mem_cons.mp each
    obtain ⟨remaining, spellsRest, cutRest⟩ := inductionHypothesis further
    refine ⟨_, .cons spells spellsRest, fun rest ends => ?_⟩
    rw [chars.itemsChars, List.cons_append, tokens, cutsInto_items cut cutRest rest ends]
    rfl

theorem exists_spellsMembers {members : Members}
    (each : ∀ member ∈ members,
      ∃ spelled, Spells member.2 spelled ∧ CutsInto member.2.chars spelled) :
    ∃ spelled, SpellsMembers members spelled ∧ CutsInto (chars.membersChars members) spelled := by
  induction members with
  | nil =>
    refine ⟨_, .nil, fun rest _ => ?_⟩
    rw [chars.membersChars, List.singleton_append, tokens]
    rfl
  | cons member others inductionHypothesis =>
    obtain ⟨key, value⟩ := member
    obtain ⟨⟨first, spells, cut⟩, further⟩ := List.forall_mem_cons.mp each
    obtain ⟨remaining, spellsRest, cutRest⟩ := inductionHypothesis further
    refine ⟨_, .cons (text?_units .json key) spells spellsRest, fun rest ends => ?_⟩
    rw [chars.membersChars, List.cons_append, tokens, cutsInto_members key cut cutRest rest ends]
    rfl

/-- The text of a value is cut into tokens that spell it. -/
theorem exists_spells (value : Json) :
    ∃ spelled, Spells value spelled ∧ CutsInto value.chars spelled := by
  induction value using Json.induction with
  | null =>
    refine ⟨_, .null, fun rest _ => ?_⟩
    rw [chars]
    simp only [List.cons_append, List.nil_append]
    rw [tokens]
  | bool value =>
    refine ⟨_, .bool value, fun rest _ => ?_⟩
    cases value
    all_goals
      rw [chars]
      simp only [List.cons_append, List.nil_append]
      rw [tokens]
  | number value =>
    cases value with
    | integer value fits =>
      exact ⟨_, .integer value fits, fun _ ends => tokens_integerText value ends⟩
    | real value =>
      obtain ⟨numeral, cut⟩ := exists_tokens_doubleText value
      exact ⟨_, .real value numeral, cut⟩
  | text value =>
    refine ⟨_, .text (text?_units .json value), fun rest _ => ?_⟩
    rw [chars, tokens_quote QuotingStyle.legible_json]
    rfl
  | array items inductionHypothesis =>
    cases items with
    | nil =>
      refine ⟨_, .emptyArray, fun rest _ => ?_⟩
      rw [chars, List.cons_append, List.singleton_append, tokens, tokens]
      rfl
    | cons item others =>
      obtain ⟨⟨first, spells, cut⟩, further⟩ := List.forall_mem_cons.mp inductionHypothesis
      obtain ⟨remaining, spellsRest, cutRest⟩ := exists_spellsItems further
      refine ⟨_, .array spells spellsRest, fun rest ends => ?_⟩
      rw [chars, List.cons_append, tokens, cutsInto_items cut cutRest rest ends]
      rfl
  | object members inductionHypothesis =>
    cases members with
    | nil =>
      refine ⟨_, .emptyObject, fun rest _ => ?_⟩
      rw [chars, List.cons_append, List.singleton_append, tokens, tokens]
      rfl
    | cons member others =>
      obtain ⟨key, value⟩ := member
      obtain ⟨⟨first, spells, cut⟩, further⟩ := List.forall_mem_cons.mp inductionHypothesis
      obtain ⟨remaining, spellsRest, cutRest⟩ := exists_spellsMembers further
      refine ⟨_, .object (text?_units .json key) spells spellsRest, fun rest ends => ?_⟩
      rw [chars, List.cons_append, tokens, cutsInto_members key cut cutRest rest ends]
      rfl

/-- The text of a value and no more is cut into tokens that spell it. -/
theorem spells_tokens_chars (value : Json) : Spells value (tokens value.chars) := by
  obtain ⟨spelled, spells, cut⟩ := exists_spells value
  have whole := cut [] fun _ inside => nomatch inside
  rw [List.append_nil, tokens, List.append_nil] at whole
  exact whole ▸ spells

/-! ### One line -/

theorem printed_quote (text : String) :
    ∀ character ∈ QuotingStyle.json.quote text, 0x20 ≤ character.toNat :=
  fun _ => QuotingStyle.printed_of_mem_quote QuotingStyle.legible_json

theorem printed_itemsChars {items : List Json}
    (each : ∀ item ∈ items, ∀ character ∈ item.chars, 0x20 ≤ character.toNat) :
    ∀ character ∈ chars.itemsChars items, 0x20 ≤ character.toNat := by
  induction items with
  | nil => exact List.forall_mem_singleton.mpr (by decide)
  | cons item others inductionHypothesis =>
    obtain ⟨here, further⟩ := List.forall_mem_cons.mp each
    rw [chars.itemsChars]
    refine List.forall_mem_cons.mpr ⟨by decide, ?_⟩
    exact List.forall_mem_append.mpr ⟨here, inductionHypothesis further⟩

theorem printed_member (key : String) {rest : List Char}
    (printed : ∀ character ∈ rest, 0x20 ≤ character.toNat) :
    ∀ character ∈ QuotingStyle.json.quote key ++ ':' :: rest, 0x20 ≤ character.toNat :=
  List.forall_mem_append.mpr
    ⟨printed_quote key, List.forall_mem_cons.mpr ⟨by decide, printed⟩⟩

theorem printed_membersChars {members : Members}
    (each : ∀ member ∈ members, ∀ character ∈ member.2.chars, 0x20 ≤ character.toNat) :
    ∀ character ∈ chars.membersChars members, 0x20 ≤ character.toNat := by
  induction members with
  | nil => exact List.forall_mem_singleton.mpr (by decide)
  | cons member others inductionHypothesis =>
    obtain ⟨key, value⟩ := member
    obtain ⟨here, further⟩ := List.forall_mem_cons.mp each
    rw [chars.membersChars]
    refine List.forall_mem_cons.mpr ⟨by decide, printed_member key ?_⟩
    exact List.forall_mem_append.mpr ⟨here, inductionHypothesis further⟩

/-- No control character stands in the text of a value. -/
theorem printed_chars (value : Json) : ∀ character ∈ value.chars, 0x20 ≤ character.toNat := by
  induction value using Json.induction with
  | null => simp [chars]
  | bool value => cases value <;> simp [chars]
  | number value =>
    cases value with
    | integer value fits => exact Decimal.printed_integerText value
    | real value => exact printed_doubleText value
  | text value => exact printed_quote value
  | array items inductionHypothesis =>
    cases items with
    | nil => simp [chars]
    | cons item others =>
      obtain ⟨here, further⟩ := List.forall_mem_cons.mp inductionHypothesis
      rw [chars]
      refine List.forall_mem_cons.mpr ⟨by decide, ?_⟩
      exact List.forall_mem_append.mpr ⟨here, printed_itemsChars further⟩
  | object members inductionHypothesis =>
    cases members with
    | nil => simp [chars]
    | cons member others =>
      obtain ⟨key, value⟩ := member
      obtain ⟨here, further⟩ := List.forall_mem_cons.mp inductionHypothesis
      rw [chars]
      refine List.forall_mem_cons.mpr ⟨by decide, printed_member key ?_⟩
      exact List.forall_mem_append.mpr ⟨here, printed_membersChars further⟩

end Json

end Gateway
