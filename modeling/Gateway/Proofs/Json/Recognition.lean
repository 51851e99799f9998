/-
This file proves that only phrases are read: where reading comes to an end, the tokens that it went
through were those of a phrase that there was room for and that has a value. With the tokens of a
text being those that the text writes, that makes a grammar of the reader: a text is read as a value
exactly if it writes one phrase and no more, the phrase nests its containers no deeper than texts
may, and the value is that of the phrase. Containers that are too deep, numerals beyond all numbers
and surrogates without their partners are therefore all that JSON may hold and a reader refuses.
-/

import Gateway.Proofs.Json.Phrases

namespace Gateway

namespace Phrase

open Reading

/-! ### Whatever is read was a phrase -/

/-- The tokens begin with those of a phrase that there is room for, and reading goes on behind it
with its value. -/
inductive Begins (room : Nat) (stack : List Frame) (result : Json × List Token) :
    List Token → Prop
  | phrase (phrase : Phrase) {value : Json} {rest : List Token}
    (means : phrase.value? = some value) (fits : stack.length + phrase.depth ≤ room)
    (read : resume room (deliver value stack) rest = some result) :
    Begins room stack result (phrase.tokens ++ rest)

/-- Whatever is read of these tokens, inside of whatever containers, begins with a phrase. -/
def Recognized (room : Nat) (result : Json × List Token) (input : List Token) : Prop :=
  ∀ stack : List Frame, stack.length ≤ room → run room .value stack input = some result →
    Begins room stack result input

theorem exists_items_of_run {room bound : Nat} {result : Json × List Token}
    (shorter : ∀ input : List Token, input.length < bound → Recognized room result input)
    {stack : List Frame} (opens : stack.length < room) {input : List Token}
    (small : input.length ≤ bound) {reversed : List Json}
    (read : run room (.afterItem reversed) stack input = some result) :
    ∃ items values rest, input = tokens.itemsTokens items ++ rest ∧
      value?.itemsValues? items = some values ∧
      (∀ item ∈ items, stack.length + 1 + item.depth ≤ room) ∧
      resume room (deliver (.array (reversed.reverse ++ values)) stack) rest = some result := by
  cases input with
  | nil => cases read
  | cons token rest =>
    rw [List.length_cons] at small
    rw [run_cons] at read
    cases token with
    | closeArray =>
      exact ⟨[], [], rest, rfl, rfl, List.forall_mem_nil _, by rwa [List.append_nil]⟩
    | comma =>
      cases shorter rest small (.item reversed :: stack) opens read with
      | @phrase item value rest means fits further =>
        rw [List.length_append] at small
        obtain ⟨items, values, behind, rfl, areValues, fitFurther, done⟩ :=
          exists_items_of_run shorter opens (by omega) further
        refine ⟨item :: items, value :: values, behind, ?_, ?_, ?_, ?_⟩
        · rw [tokens.itemsTokens, List.cons_append, List.append_assoc]
        · exact itemsValues?_cons_iff.mpr ⟨value, values, means, areValues, rfl⟩
        · exact List.forall_mem_cons.mpr ⟨fits, fitFurther⟩
        · rwa [List.reverse_cons, List.append_assoc, List.singleton_append] at done
    | _ => cases read
termination_by input.length
decreasing_by
  subst_vars
  simp only [List.length_cons, List.length_append]
  omega

/-- Whatever is read as an item, or as the end of its array, ends the array or is an item. -/
theorem run_itemOrEnd_cons {room : Nat} {stack : List Frame} {token : Token}
    (goesOn : token ≠ .closeArray) (rest : List Token) :
    run room .itemOrEnd stack (token :: rest) =
      run room .value (.item [] :: stack) (token :: rest) := by
  rw [run_cons, run_cons]
  cases token with
  | closeArray => exact absurd rfl goesOn
  | _ => rfl

theorem begins_array {room bound : Nat} {result : Json × List Token}
    (shorter : ∀ input : List Token, input.length < bound → Recognized room result input)
    {stack : List Frame} (opens : stack.length < room) {input : List Token}
    (small : input.length < bound)
    (read : run room .itemOrEnd stack input = some result) :
    Begins room stack result (.openArray :: input) := by
  cases input with
  | nil => cases read
  | cons token rest =>
    by_cases isEnd : token = .closeArray
    · subst isEnd
      rw [run_cons] at read
      exact .phrase (.array []) rfl (Nat.add_one_le_iff.mpr opens) read
    · rw [run_itemOrEnd_cons isEnd] at read
      generalize token :: rest = input at small read
      cases shorter input small (.item [] :: stack) opens read with
      | @phrase item value rest means fits further =>
        rw [List.length_append] at small
        obtain ⟨items, values, behind, rfl, areValues, fitFurther, done⟩ :=
          exists_items_of_run shorter opens (by omega) further
        have same : Token.openArray :: (item.tokens ++ (tokens.itemsTokens items ++ behind)) =
            (Phrase.array (item :: items)).tokens ++ behind := by
          rw [tokens, List.cons_append, List.append_assoc]
        rw [same]
        refine .phrase _ ?_ ?_ done
        · exact Option.map_eq_some_iff.mpr
            ⟨_, itemsValues?_cons_iff.mpr ⟨value, values, means, areValues, rfl⟩, rfl⟩
        · exact add_depth_array_le_iff.mpr ⟨opens, List.forall_mem_cons.mpr ⟨fits, fitFurther⟩⟩

/-- Whatever is read as a member, where a key is awaited, is a member. -/
theorem exists_member_of_run {room bound : Nat} {result : Json × List Token}
    (shorter : ∀ input : List Token, input.length < bound → Recognized room result input)
    {stack : List Frame} (opens : stack.length < room) {token : Token} {input : List Token}
    (small : input.length < bound) {members : Members}
    (read : resume room (beginMember members stack token) input = some result) :
    ∃ units key, ∃ phrase : Phrase, ∃ value rest, token = .text units ∧
      input = .colon :: (phrase.tokens ++ rest) ∧ TextUnit.text? units = some key ∧
      phrase.value? = some value ∧ stack.length + 1 + phrase.depth ≤ room ∧
      run room (.afterMember (members.insert key value)) stack rest = some result := by
  cases token with
  | text units =>
    rw [beginMember] at read
    split at read
    · next key isKey =>
      cases input with
      | nil => cases read
      | cons token rest =>
        rw [resume, run_cons] at read
        cases token with
        | colon =>
          have begins := shorter rest (Nat.lt_of_succ_lt small) (.member members key :: stack) opens
          cases begins read with
          | @phrase phrase value rest means fits further =>
            exact ⟨units, key, phrase, value, rest, rfl, rfl, isKey, means, fits, further⟩
        | _ => cases read
    · cases read
  | _ => cases read

theorem exists_members_of_run {room bound : Nat} {result : Json × List Token}
    (shorter : ∀ input : List Token, input.length < bound → Recognized room result input)
    {stack : List Frame} (opens : stack.length < room) {input : List Token}
    (small : input.length ≤ bound) {members : Members}
    (read : run room (.afterMember members) stack input = some result) :
    ∃ others merged rest, input = tokens.membersTokens others ++ rest ∧
      value?.mergeMembers? members others = some merged ∧
      (∀ member ∈ others, stack.length + 1 + member.2.depth ≤ room) ∧
      resume room (deliver (.object merged) stack) rest = some result := by
  cases input with
  | nil => cases read
  | cons token rest =>
    rw [List.length_cons] at small
    rw [run_cons] at read
    cases token with
    | closeObject => exact ⟨[], members, rest, rfl, rfl, List.forall_mem_nil _, read⟩
    | comma =>
      cases rest with
      | nil => cases read
      | cons token rest =>
        rw [List.length_cons] at small
        rw [step, resume, run_cons] at read
        obtain ⟨units, key, phrase, value, rest, rfl, rfl, isKey, means, fits, further⟩ :=
          exists_member_of_run shorter opens (by omega) read
        rw [List.length_cons, List.length_append] at small
        obtain ⟨others, merged, behind, rfl, areMerged, fitFurther, done⟩ :=
          exists_members_of_run shorter opens (by omega) further
        refine ⟨(units, phrase) :: others, merged, behind, ?_, ?_, ?_, done⟩
        · rw [tokens.membersTokens, List.cons_append, List.cons_append, List.cons_append,
            List.append_assoc]
        · exact mergeMembers?_cons_iff.mpr ⟨key, value, isKey, means, areMerged⟩
        · exact List.forall_mem_cons.mpr ⟨fits, fitFurther⟩
    | _ => cases read
termination_by input.length
decreasing_by
  subst_vars
  simp only [List.length_cons, List.length_append]
  omega

theorem begins_object {room bound : Nat} {result : Json × List Token}
    (shorter : ∀ input : List Token, input.length < bound → Recognized room result input)
    {stack : List Frame} (opens : stack.length < room) {input : List Token}
    (small : input.length < bound) (read : run room .keyOrEnd stack input = some result) :
    Begins room stack result (.openObject :: input) := by
  cases input with
  | nil => cases read
  | cons token rest =>
    rw [List.length_cons] at small
    rw [run_cons] at read
    by_cases isEnd : token = .closeObject
    · subst isEnd
      exact .phrase (.object []) rfl (Nat.add_one_le_iff.mpr opens) read
    · have isKey : step room stack .keyOrEnd token = beginMember [] stack token := by
        cases token with
        | closeObject => exact absurd rfl isEnd
        | _ => rfl
      rw [isKey] at read
      obtain ⟨units, key, phrase, value, rest, rfl, rfl, isKey, means, fits, further⟩ :=
        exists_member_of_run shorter opens (Nat.lt_of_succ_lt small) read
      rw [List.length_cons, List.length_append] at small
      obtain ⟨others, merged, behind, rfl, areMerged, fitFurther, done⟩ :=
        exists_members_of_run shorter opens (by omega) further
      have same : Token.openObject :: .text units :: .colon ::
          (phrase.tokens ++ (tokens.membersTokens others ++ behind)) =
            (Phrase.object ((units, phrase) :: others)).tokens ++ behind := by
        rw [tokens, List.cons_append, List.cons_append, List.cons_append, List.append_assoc]
      rw [same]
      refine .phrase _ ?_ ?_ done
      · exact Option.map_eq_some_iff.mpr
          ⟨_, mergeMembers?_cons_iff.mpr ⟨key, value, isKey, means, areMerged⟩, rfl⟩
      · exact add_depth_object_le_iff.mpr ⟨opens, List.forall_mem_cons.mpr ⟨fits, fitFurther⟩⟩

/-- Whatever is read to its end was a phrase that there was room for. -/
theorem recognized (room : Nat) (result : Json × List Token) (input : List Token) :
    Recognized room result input := by
  intro stack fits read
  cases input with
  | nil => cases read
  | cons token rest =>
    have shorter (other : List Token) (small : other.length < rest.length + 1) :
        Recognized room result other := recognized room result other
    have inside : rest.length < rest.length + 1 := Nat.lt_add_one _
    rw [run_cons, step] at read
    cases token with
    | null => exact .phrase .null rfl fits read
    | bool value => exact .phrase (.bool value) rfl fits read
    | numeral numeral =>
      rw [beginValue] at read
      split at read
      · next number has =>
        exact .phrase (.numeral numeral)
          (Option.map_eq_some_iff.mpr ⟨number, has, rfl⟩) fits read
      · cases read
    | text units =>
      rw [beginValue] at read
      split at read
      · next text spelled =>
        exact .phrase (.text units)
          (Option.map_eq_some_iff.mpr ⟨text, spelled, rfl⟩) fits read
      · cases read
    | openArray =>
      rw [beginValue] at read
      split at read
      · next opens => exact begins_array shorter opens inside read
      · cases read
    | openObject =>
      rw [beginValue] at read
      split at read
      · next opens => exact begins_object shorter opens inside read
      · cases read
    | _ => cases read
termination_by input.length

end Phrase

/-- Brackets, braces, commas and colons, which mean nothing by themselves. -/
def Token.IsMark : Token → Prop
  | .openArray | .closeArray | .openObject | .closeObject | .comma | .colon => True
  | _ => False

/-- A numeral that has a number, a text that can be spelled, or any other token. -/
def Token.HasMeaning : Token → Prop
  | .numeral value => ∃ number, value.number? = some number
  | .text units => ∃ text, TextUnit.text? units = some text
  | _ => True

instance : DecidablePred Token.HasMeaning
  | .numeral _ | .text _ => decidable_of_iff _ Option.isSome_iff_exists
  | .openArray | .closeArray | .openObject | .closeObject | .comma | .colon | .null | .bool _
  | .broken => .isTrue trivial

namespace Phrase

/-! ### What the tokens tell -/

section Each

variable {Holds : Token → Prop} (marks : ∀ token : Token, token.IsMark → Holds token)

include marks

theorem forall_mem_itemsTokens_iff {items : List Phrase} :
    (∀ token ∈ tokens.itemsTokens items, Holds token) ↔
      ∀ item ∈ items, ∀ token ∈ item.tokens, Holds token := by
  induction items with
  | nil => simp [tokens.itemsTokens, marks .closeArray trivial]
  | cons item others inductionHypothesis =>
    rw [tokens.itemsTokens, List.forall_mem_cons, List.forall_mem_append, inductionHypothesis,
      List.forall_mem_cons]
    exact and_iff_right (marks .comma trivial)

theorem forall_mem_tokens_array_iff {items : List Phrase} :
    (∀ token ∈ (Phrase.array items).tokens, Holds token) ↔
      ∀ item ∈ items, ∀ token ∈ item.tokens, Holds token := by
  have opens : Holds .openArray := marks .openArray trivial
  cases items with
  | nil => simp [tokens, opens, marks .closeArray trivial]
  | cons item others =>
    rw [tokens, List.forall_mem_cons, List.forall_mem_append, forall_mem_itemsTokens_iff marks,
      List.forall_mem_cons]
    exact and_iff_right opens

theorem forall_mem_membersTokens_iff {members : List (List TextUnit × Phrase)} :
    (∀ token ∈ tokens.membersTokens members, Holds token) ↔
      ∀ member ∈ members, Holds (.text member.1) ∧ ∀ token ∈ member.2.tokens, Holds token := by
  induction members with
  | nil => simp [tokens.membersTokens, marks .closeObject trivial]
  | cons member others inductionHypothesis =>
    rw [tokens.membersTokens, List.forall_mem_cons, List.forall_mem_cons, List.forall_mem_cons,
      List.forall_mem_append, inductionHypothesis, List.forall_mem_cons,
      and_iff_right (marks .comma trivial), and_iff_right (marks .colon trivial), and_assoc]

theorem forall_mem_tokens_object_iff {members : List (List TextUnit × Phrase)} :
    (∀ token ∈ (Phrase.object members).tokens, Holds token) ↔
      ∀ member ∈ members, Holds (.text member.1) ∧ ∀ token ∈ member.2.tokens, Holds token := by
  have opens : Holds .openObject := marks .openObject trivial
  cases members with
  | nil => simp [tokens, opens, marks .closeObject trivial]
  | cons member others =>
    rw [tokens, List.forall_mem_cons, List.forall_mem_cons, List.forall_mem_cons,
      List.forall_mem_append, forall_mem_membersTokens_iff marks, List.forall_mem_cons,
      and_iff_right opens, and_iff_right (marks .colon trivial), and_assoc]

end Each

theorem broken_not_mem_tokens (phrase : Phrase) : .broken ∉ phrase.tokens := by
  have marks (token : Token) (isMark : token.IsMark) : token ≠ .broken := by
    rintro rfl
    exact isMark
  suffices whole : ∀ token ∈ phrase.tokens, token ≠ .broken from
    fun inside => whole _ inside rfl
  induction phrase using Phrase.induction with
  | null | bool | numeral | text => exact List.forall_mem_singleton.mpr nofun
  | array items inductionHypothesis =>
    exact (forall_mem_tokens_array_iff marks).mpr inductionHypothesis
  | object members inductionHypothesis =>
    exact (forall_mem_tokens_object_iff marks).mpr fun member inside =>
      ⟨nofun, inductionHypothesis member inside⟩

theorem exists_itemsValues?_iff {items : List Phrase} :
    (∃ values, value?.itemsValues? items = some values) ↔
      ∀ item ∈ items, ∃ value, item.value? = some value := by
  induction items with
  | nil => exact ⟨fun _ => List.forall_mem_nil _, fun _ => ⟨[], rfl⟩⟩
  | cons item others inductionHypothesis =>
    rw [List.forall_mem_cons, ← inductionHypothesis]
    constructor
    · rintro ⟨values, means⟩
      obtain ⟨value, further, isValue, areValues, -⟩ := itemsValues?_cons_iff.mp means
      exact ⟨⟨value, isValue⟩, further, areValues⟩
    · rintro ⟨⟨value, isValue⟩, further, areValues⟩
      exact ⟨_, itemsValues?_cons_iff.mpr ⟨value, further, isValue, areValues, rfl⟩⟩

theorem exists_mergeMembers?_iff {merged : Members} {others : List (List TextUnit × Phrase)} :
    (∃ members, value?.mergeMembers? merged others = some members) ↔
      ∀ member ∈ others, (∃ key, TextUnit.text? member.1 = some key) ∧
        ∃ value, member.2.value? = some value := by
  induction others generalizing merged with
  | nil => exact ⟨fun _ => List.forall_mem_nil _, fun _ => ⟨merged, rfl⟩⟩
  | cons member others inductionHypothesis =>
    rw [List.forall_mem_cons]
    constructor
    · rintro ⟨members, means⟩
      obtain ⟨key, value, isKey, isValue, areMembers⟩ := mergeMembers?_cons_iff.mp means
      exact ⟨⟨⟨key, isKey⟩, value, isValue⟩, inductionHypothesis.mp ⟨members, areMembers⟩⟩
    · rintro ⟨⟨⟨key, isKey⟩, value, isValue⟩, further⟩
      obtain ⟨members, areMembers⟩ := (@inductionHypothesis (merged.insert key value)).mpr further
      exact ⟨members, mergeMembers?_cons_iff.mpr ⟨key, value, isKey, isValue, areMembers⟩⟩

theorem exists_map_eq_some_iff {α β : Type} {make : α → β} {part : Option α} :
    (∃ whole, part.map make = some whole) ↔ ∃ value, part = some value := by
  simp only [← Option.isSome_iff_exists, Option.isSome_map]

/-- A phrase has a value where every numeral in it has a number and every text in it, the keys
included, can be spelled. -/
theorem exists_value?_iff (phrase : Phrase) :
    (∃ value, phrase.value? = some value) ↔ ∀ token ∈ phrase.tokens, token.HasMeaning := by
  have marks (token : Token) (isMark : token.IsMark) : token.HasMeaning := by
    cases token <;> trivial
  induction phrase using Phrase.induction with
  | null | bool value =>
    exact ⟨fun _ => List.forall_mem_singleton.mpr trivial, fun _ => ⟨_, rfl⟩⟩
  | numeral value =>
    rw [value?, exists_map_eq_some_iff, tokens, List.forall_mem_singleton]
    rfl
  | text units =>
    rw [value?, exists_map_eq_some_iff, tokens, List.forall_mem_singleton]
    rfl
  | array items inductionHypothesis =>
    rw [value?, exists_map_eq_some_iff, exists_itemsValues?_iff, forall_mem_tokens_array_iff marks]
    exact forall₂_congr inductionHypothesis
  | object members inductionHypothesis =>
    rw [value?, exists_map_eq_some_iff, exists_mergeMembers?_iff,
      forall_mem_tokens_object_iff marks]
    exact forall₂_congr fun member inside => and_congr Iff.rfl (inductionHypothesis member inside)

/-- A text that is cut into the tokens of a phrase writes them, and the other way round. -/
theorem writes_iff (phrase : Phrase) {text : List Char} :
    Writes text phrase.tokens ↔ Gateway.tokens text = phrase.tokens :=
  ⟨fun writes => tokens_of_writes writes phrase.separate_tokens,
    fun same => same ▸ writes_tokens (same ▸ phrase.broken_not_mem_tokens)⟩

/-- The phrase can be read as a text: its containers nest no deeper than texts may, every numeral
has a number, and every text in it, the keys included, can be spelled. -/
def IsReadable (phrase : Phrase) : Prop :=
  phrase.depth ≤ Json.nestingLimit ∧ ∀ token ∈ phrase.tokens, token.HasMeaning

instance : DecidablePred IsReadable :=
  fun _ => inferInstanceAs (Decidable (_ ∧ _))

end Phrase

/-! ### Texts -/

namespace Json

/-- The text is JSON: it writes the tokens of one phrase and no more, however deep it nests its
containers, however great its numbers are, and whatever its texts spell. -/
def IsText (text : String) : Prop :=
  ∃ phrase : Phrase, Writes text.toList phrase.tokens

/-- The text is JSON that a reader takes. -/
def IsReadable (text : String) : Prop :=
  ∃ phrase : Phrase, Writes text.toList phrase.tokens ∧ phrase.IsReadable

/-- Whether a reader takes a text is told by its only phrase. -/
theorem isReadable_iff {text : String} {phrase : Phrase}
    (writes : Writes text.toList phrase.tokens) : IsReadable text ↔ phrase.IsReadable := by
  refine ⟨fun ⟨other, writesOther, readable⟩ => ?_, fun readable => ⟨phrase, writes, readable⟩⟩
  have same : phrase.tokens = other.tokens :=
    (phrase.writes_iff.mp writes).symm.trans (other.writes_iff.mp writesOther)
  exact Phrase.tokens_injective same ▸ readable

/-- Reading finds a phrase that there is room for and that has a value, and nothing else. -/
theorem ofTokens?_eq_some_iff {room : Nat} {input : List Token} {value : Json}
    {rest : List Token} :
    ofTokens? room input = some (value, rest) ↔
      ∃ phrase : Phrase, input = phrase.tokens ++ rest ∧ phrase.depth ≤ room ∧
        phrase.value? = some value := by
  constructor
  · intro read
    cases Phrase.recognized room (value, rest) input [] (Nat.zero_le room) read with
    | @phrase phrase found behind means fits done =>
      obtain ⟨rfl, rfl⟩ := Prod.mk.inj (Option.some.inj done)
      exact ⟨phrase, rfl, by rwa [List.length_nil, Nat.zero_add] at fits, means⟩
  · rintro ⟨phrase, rfl, fits, means⟩
    exact phrase.reads value means room [] rest (by rwa [List.length_nil, Nat.zero_add])

/-- A text is read as the value that its phrase means. -/
theorem ofText?_eq_some_iff {text : String} {value : Json} :
    ofText? text = some value ↔
      ∃ phrase : Phrase, Writes text.toList phrase.tokens ∧ phrase.depth ≤ nestingLimit ∧
        phrase.value? = some value := by
  have alone : ofText? text = some value ↔
      ofTokens? nestingLimit (tokens text.toList) = some (value, []) := by
    rw [ofText?]
    split
    · next found =>
      rw [found, Option.some.injEq, Option.some.injEq, Prod.mk.injEq, eq_self, and_true]
    · next unlike => exact ⟨nofun, fun read => absurd read (unlike value)⟩
  rw [alone, ofTokens?_eq_some_iff]
  refine exists_congr fun phrase => ?_
  rw [List.append_nil, phrase.writes_iff]

/-- Exactly the readable texts are read. -/
theorem exists_ofText?_iff {text : String} :
    (∃ value, ofText? text = some value) ↔ IsReadable text := by
  simp only [ofText?_eq_some_iff, IsReadable, Phrase.IsReadable, ← Phrase.exists_value?_iff]
  constructor
  · rintro ⟨value, phrase, writes, fits, means⟩
    exact ⟨phrase, writes, fits, value, means⟩
  · rintro ⟨phrase, writes, fits, value, means⟩
    exact ⟨value, phrase, writes, fits, means⟩

/-- A blank behind a text does not change the value that it is read as. -/
theorem ofText?_push {blank : Char} (isBlank : Text.isJsonBlank blank = true) (text : String) :
    ofText? (text.push blank) = ofText? text := by
  refine Option.ext fun value => ?_
  rw [ofText?_eq_some_iff, ofText?_eq_some_iff]
  simp only [String.toList_push, writes_concat_blank_iff isBlank]

end Json

end Gateway
