/-
This file proves that the text of a value reads as the value again, key order included, where no
number in it is a double, no object names a member twice, and the containers nest no deeper than
texts may. The tokens of such a text are those of a phrase that has the value and nests as deep, and
the reader takes every phrase. Bodies follow: whatever octets hold, writing it and reading it once
more gives the same value.
-/

import Gateway.Proofs.Json.Reading
import Gateway.Proofs.Json.Recognition
import Gateway.Proofs.Json.Spelling
import Gateway.Proofs.Text.Utf8

namespace Gateway

/-! ### Values without doubles -/

namespace Json

/-- Every number in the value is an integer. -/
def Integral : Json → Prop
  | .number (.real _) => False
  | .array items => itemsIntegral items
  | .object members => membersIntegral members
  | _ => True
where
  itemsIntegral : List Json → Prop
    | [] => True
    | item :: rest => item.Integral ∧ itemsIntegral rest
  membersIntegral : List (String × Json) → Prop
    | [] => True
    | (_, value) :: rest => value.Integral ∧ membersIntegral rest

theorem integral_array_iff (items : List Json) :
    (Json.array items).Integral ↔ ∀ item ∈ items, item.Integral := by
  rw [Integral]
  induction items with
  | nil => simp [Integral.itemsIntegral]
  | cons item rest inductionHypothesis =>
    rw [Integral.itemsIntegral, inductionHypothesis, List.forall_mem_cons]

theorem integral_object_iff (members : Members) :
    (Json.object members).Integral ↔ ∀ member ∈ members, member.2.Integral := by
  rw [Integral]
  induction members with
  | nil => simp [Integral.membersIntegral]
  | cons member rest inductionHypothesis =>
    rw [Integral.membersIntegral, inductionHypothesis, List.forall_mem_cons]

end Json

/-! ### The phrases of printed values -/

/-- The tokens are those of a phrase that has the value and nests as deep. -/
def IsPhraseOf (value : Json) (spelled : List Token) : Prop :=
  ∃ phrase : Phrase, phrase.tokens = spelled ∧ phrase.value? = some value ∧
    phrase.depth = value.depth

namespace Phrase

theorem exists_of_spellsItems {items : List Json}
    (each : ∀ item ∈ items, ∀ spelled, Spells item spelled → IsPhraseOf item spelled)
    {spelled : List Token} (spells : SpellsItems items spelled) :
    ∃ phrases, tokens.itemsTokens phrases = spelled ∧
      value?.itemsValues? phrases = some items ∧
      depth.itemsDepth phrases = Json.depth.itemsDepth items := by
  induction items generalizing spelled with
  | nil =>
    cases spells
    exact ⟨[], rfl, rfl, rfl⟩
  | cons item others inductionHypothesis =>
    obtain ⟨here, further⟩ := List.forall_mem_cons.mp each
    cases spells with
    | cons spellsItem spellsOthers =>
      obtain ⟨phrase, rfl, isItem, sameDepth⟩ := here _ spellsItem
      obtain ⟨phrases, rfl, areOthers, sameDepths⟩ := inductionHypothesis further spellsOthers
      refine ⟨phrase :: phrases, rfl, ?_, ?_⟩
      · exact itemsValues?_cons_iff.mpr ⟨item, others, isItem, areOthers, rfl⟩
      · rw [depth.itemsDepth, Json.depth.itemsDepth, sameDepth, sameDepths]

/-- Members of which no two have one key are set behind the members so far. -/
theorem exists_of_spellsMembers {members : Members}
    (each : ∀ member ∈ members, ∀ spelled, Spells member.2 spelled → IsPhraseOf member.2 spelled)
    {spelled : List Token} (spells : SpellsMembers members spelled) (merged : Members)
    (distinct : Members.keys (merged ++ members) |>.Nodup) :
    ∃ phrases, tokens.membersTokens phrases = spelled ∧
      value?.mergeMembers? merged phrases = some (merged ++ members) ∧
      depth.membersDepth phrases = Json.depth.membersDepth members := by
  induction members generalizing merged spelled with
  | nil =>
    cases spells
    exact ⟨[], rfl, by rw [List.append_nil]; rfl, rfl⟩
  | cons member others inductionHypothesis =>
    obtain ⟨key, value⟩ := member
    obtain ⟨here, further⟩ := List.forall_mem_cons.mp each
    have absent : key ∉ merged.keys := by
      rw [Members.keys, List.map_append, List.nodup_append] at distinct
      exact fun inside => distinct.2.2 key inside key List.mem_cons_self rfl
    have shifted : merged ++ (key, value) :: others = merged ++ [(key, value)] ++ others := by
      rw [List.append_assoc, List.singleton_append]
    rw [shifted] at distinct ⊢
    cases spells with
    | cons isKey spellsValue spellsOthers =>
      obtain ⟨phrase, rfl, isValue, sameDepth⟩ := here _ spellsValue
      obtain ⟨phrases, rfl, areOthers, sameDepths⟩ :=
        inductionHypothesis further spellsOthers _ distinct
      refine ⟨(_, phrase) :: phrases, rfl, ?_, ?_⟩
      · rw [← Members.insert_of_not_mem_keys absent] at areOthers ⊢
        exact mergeMembers?_cons_iff.mpr ⟨key, value, isKey, isValue, areOthers⟩
      · rw [depth.membersDepth, Json.depth.membersDepth, sameDepth, sameDepths]

end Phrase

/-! ### Values and bodies -/

namespace Json

/-- What spells a value is a phrase that has it, where the value names no member twice and its
numbers are integers. -/
theorem isPhraseOf_of_spells {value : Json} (wellFormed : value.WellFormed)
    (integral : value.Integral) : ∀ spelled, Spells value spelled → IsPhraseOf value spelled := by
  induction value using Json.induction with
  | null =>
    rintro _ ⟨⟩
    exact ⟨.null, rfl, rfl, rfl⟩
  | bool value =>
    rintro _ ⟨⟩
    exact ⟨.bool value, rfl, rfl, rfl⟩
  | number value =>
    intro spelled spells
    cases spells with
    | integer value fits =>
      exact ⟨.numeral _, rfl, Option.map_eq_some_iff.mpr
        ⟨_, Numeral.number?_ofInteger fits, rfl⟩, rfl⟩
    | real => exact integral.elim
  | text value =>
    intro spelled spells
    cases spells with
    | text isText => exact ⟨.text _, rfl, Option.map_eq_some_iff.mpr ⟨value, isText, rfl⟩, rfl⟩
  | array items inductionHypothesis =>
    rw [wellFormed_array_iff] at wellFormed
    rw [integral_array_iff] at integral
    intro spelled spells
    have each (item : Json) (inside : item ∈ items) :=
      inductionHypothesis item inside (wellFormed item inside) (integral item inside)
    cases spells with
    | emptyArray => exact ⟨.array [], rfl, rfl, rfl⟩
    | array spellsItem spellsOthers =>
      obtain ⟨phrases, same, areItems, sameDepth⟩ :=
        Phrase.exists_of_spellsItems each (.cons spellsItem spellsOthers)
      refine ⟨.array phrases, ?_, Option.map_eq_some_iff.mpr ⟨_, areItems, rfl⟩, ?_⟩
      · cases phrases with
        | nil => cases same
        | cons => exact congrArg (.openArray :: ·) (List.cons.inj same).2
      · rw [Phrase.depth, depth, sameDepth]
  | object members inductionHypothesis =>
    rw [wellFormed_object_iff] at wellFormed
    rw [integral_object_iff] at integral
    intro spelled spells
    have each (member : String × Json) (inside : member ∈ members) :=
      inductionHypothesis member inside (wellFormed.2 member inside) (integral member inside)
    cases spells with
    | emptyObject => exact ⟨.object [], rfl, rfl, rfl⟩
    | object isKey spellsValue spellsOthers =>
      obtain ⟨phrases, same, areMembers, sameDepth⟩ :=
        Phrase.exists_of_spellsMembers each (.cons isKey spellsValue spellsOthers) []
          wellFormed.1
      refine ⟨.object phrases, ?_, Option.map_eq_some_iff.mpr ⟨_, areMembers, rfl⟩, ?_⟩
      · cases phrases with
        | nil => cases same
        | cons => exact congrArg (.openObject :: ·) (List.cons.inj same).2
      · rw [Phrase.depth, depth, sameDepth]

/-- The text of a value reads as the value. -/
theorem ofText?_render {value : Json} (wellFormed : value.WellFormed) (integral : value.Integral)
    (shallow : value.depth ≤ nestingLimit) : ofText? value.render = some value := by
  obtain ⟨phrase, same, isValue, sameDepth⟩ :=
    isPhraseOf_of_spells wellFormed integral _ (spells_tokens_chars value)
  refine ofText?_eq_some_iff.mpr ⟨phrase, phrase.writes_iff.mpr ?_, sameDepth ▸ shallow, isValue⟩
  rw [render, String.toList_ofList, same]

/-- The text of a value starts with a character that is neither blank nor outside ASCII. -/
theorem exists_chars_eq_cons {value : Json} (integral : value.Integral) :
    ∃ first rest, value.chars = first :: rest ∧ 0x20 < first.toNat ∧ first.toNat < 0x80 := by
  cases value with
  | null => exact ⟨'n', _, rfl, by decide⟩
  | bool value => cases value <;> exact ⟨_, _, rfl, by decide⟩
  | number value =>
    cases value with
    | integer value fits =>
      obtain ⟨first, rest, text, starts⟩ := Decimal.exists_integerText_eq_cons value
      refine ⟨first, rest, text, ?_⟩
      rcases starts with rfl | isDigit
      · decide
      · obtain ⟨low, high⟩ := Char.isDigit_iff_toNat.mp isDigit
        exact ⟨Nat.lt_of_lt_of_le (by decide) low, Nat.lt_of_le_of_lt high (by decide)⟩
    | real value => exact integral.elim
  | text value => exact ⟨'"', _, rfl, by decide⟩
  | array items => cases items <;> exact ⟨'[', _, rfl, by decide⟩
  | object members => cases members <;> exact ⟨'\x7b', _, rfl, by decide⟩

end Json

namespace Text

/-- The octets of a text that starts with a visible ASCII character are not all blank. -/
theorem not_all_isBlankOctet {first : Char} (visible : 0x20 < first.toNat ∧ first.toNat < 0x80)
    (rest : List Char) : ¬ (utf8 (String.ofList (first :: rest))).all isBlankOctet = true := by
  have octet : String.utf8EncodeChar first = [UInt8.ofNat first.toNat] :=
    if_pos (Nat.le_of_lt_succ visible.2)
  have worth : (UInt8.ofNat first.toNat).toNat = first.toNat := by
    rw [UInt8.toNat_ofNat', Nat.mod_eq_of_lt (by omega)]
  rw [utf8_ofList, List.flatMap_cons, octet]
  intro blank
  have firstBlank := List.all_eq_true.mp blank _ List.mem_cons_self
  simp only [isBlankOctet, Bool.or_eq_true, beq_iff_eq, ← UInt8.toNat_inj, worth] at firstBlank
  simp at firstBlank
  omega

end Text

namespace Body

/-- What a body holds is what the octets of its text hold, whether it was read or made. -/
theorem content_raw_render {body : Body} (wellFormed : body.WellFormed) (shallow : body.Shallow)
    (integral : body.content.Integral) :
    (Body.raw (Text.utf8 body.content.render)).content = body.content := by
  obtain ⟨first, rest, starts, visible⟩ := Json.exists_chars_eq_cons integral
  have notBlank := Text.not_all_isBlankOctet visible rest
  have read : Json.ofOctets? (Text.utf8 body.content.render) = some body.content := by
    rw [Json.ofOctets?, Text.ofUtf8?_utf8]
    exact Json.ofText?_render wellFormed.content integral shallow.content
  rw [← starts] at notBlank
  rw [content, contentOf, Json.render, if_neg notBlank, ← Json.render, read]

/-- A value with both limits of the integers and an escaped character. -/
def limits : Json :=
  .object
    [("id", .array [.number (.integer 18446744073709551615 (by decide)), .null]),
      ("\x07\u0301\"", .number (.integer (-9223372036854775808) (by decide)))]

/-- A body that was made, and one of blank octets. -/
theorem content_raw_render_limits :
    let made := Body.value limits
    let blank := Body.raw [0x09, 0x20]
    (made.WellFormed ∧ made.Shallow ∧ made.content.Integral ∧
        (Body.raw (Text.utf8 made.content.render)).content = made.content) ∧
      blank.WellFormed ∧ blank.Shallow ∧ blank.content.Integral ∧
        (Body.raw (Text.utf8 blank.content.render)).content = blank.content := by
  intro made blank
  have wellFormed : made.WellFormed := by
    simp [made, WellFormed, limits, Json.WellFormed, Json.WellFormed.membersWellFormed,
      Json.WellFormed.itemsWellFormed]
  have shallow : limits.depth ≤ Json.nestingLimit := by decide
  have integral : made.content.Integral := by
    simp [made, content, limits, Json.Integral, Json.Integral.membersIntegral,
      Json.Integral.itemsIntegral]
  have blankIntegral : blank.content.Integral := trivial
  exact ⟨⟨wellFormed, shallow, integral, content_raw_render wellFormed shallow integral⟩,
    trivial, trivial, blankIntegral, content_raw_render trivial trivial blankIntegral⟩

end Body

end Gateway
