/-
This file reads phrases. A phrase is a value as it stands in a text, with its numbers by their
numerals and with every member that is named, however often. It has a value where all its numerals
have numbers and all its texts can be spelled, and the value is what its tokens are read as: they
come to where the value is handed to the container that awaits it, whatever stands around them, as
long as there is room for all containers. The tokens of a phrase are found again in a text that
writes them, since a numeral in it stands at its end or before what closes a value; and no other
phrase has the same tokens.
-/

import Gateway.Json.Reader
import Gateway.Proofs.Json.Lexemes

namespace Gateway

namespace Reading

/-- Reads the remaining tokens from where a token has led. -/
def resume (room : Nat) : Progress → List Token → Option (Json × List Token)
  | .refused, _ => none
  | .reading stage stack, rest => run room stage stack rest
  | .finished value, rest => some (value, rest)

theorem run_cons (room : Nat) (stage : Stage) (stack : List Frame) (token : Token)
    (rest : List Token) :
    run room stage stack (token :: rest) = resume room (step room stack stage token) rest := by
  rw [run]
  cases step room stack stage token <;> rfl

end Reading

/-- A value as it stands in a text. -/
inductive Phrase
  | null
  | bool (value : Bool)
  | numeral (value : Numeral)
  | text (units : List TextUnit)
  | array (items : List Phrase)
  | object (members : List (List TextUnit × Phrase))

namespace Phrase

/-! ### What a phrase is made of -/

/-- The tokens of the phrase. -/
def tokens : Phrase → List Token
  | .null => [.null]
  | .bool value => [.bool value]
  | .numeral value => [.numeral value]
  | .text units => [.text units]
  | .array [] => [.openArray, .closeArray]
  | .array (item :: others) => .openArray :: (item.tokens ++ itemsTokens others)
  | .object [] => [.openObject, .closeObject]
  | .object ((key, value) :: others) =>
    .openObject :: .text key :: .colon :: (value.tokens ++ membersTokens others)
where
  /-- The items behind the first one, and the end of their array. -/
  itemsTokens : List Phrase → List Token
    | [] => [.closeArray]
    | item :: others => .comma :: (item.tokens ++ itemsTokens others)
  /-- The members behind the first one, and the end of their object. -/
  membersTokens : List (List TextUnit × Phrase) → List Token
    | [] => [.closeObject]
    | (key, value) :: others =>
      .comma :: .text key :: .colon :: (value.tokens ++ membersTokens others)

/-- How many containers stand inside one another at the deepest place of the phrase. -/
def depth : Phrase → Nat
  | .array items => 1 + itemsDepth items
  | .object members => 1 + membersDepth members
  | _ => 0
where
  itemsDepth : List Phrase → Nat
    | [] => 0
    | item :: others => max item.depth (itemsDepth others)
  membersDepth : List (List TextUnit × Phrase) → Nat
    | [] => 0
    | (_, value) :: others => max value.depth (membersDepth others)

/-- The value of the phrase, if all its numerals have numbers and all its texts can be spelled. A
member that is named again keeps its first place and takes its last value. -/
def value? : Phrase → Option Json
  | .null => some .null
  | .bool value => some (.bool value)
  | .numeral value => value.number?.map .number
  | .text units => (TextUnit.text? units).map .text
  | .array items => (itemsValues? items).map .array
  | .object members => (mergeMembers? [] members).map .object
where
  itemsValues? : List Phrase → Option (List Json)
    | [] => some []
    | item :: others => do return (← item.value?) :: (← itemsValues? others)
  /-- The members so far and those behind them. -/
  mergeMembers? (merged : Members) : List (List TextUnit × Phrase) → Option Members
    | [] => some merged
    | (units, phrase) :: others => do
      let key ← TextUnit.text? units
      let value ← phrase.value?
      mergeMembers? (merged.insert key value) others

/-- What holds of a phrase without parts, of an array whenever it holds of its items, and of an
object whenever it holds of its members' values, holds of every phrase. -/
theorem induction {motive : Phrase → Prop} (null : motive .null)
    (bool : ∀ value, motive (.bool value)) (numeral : ∀ value, motive (.numeral value))
    (text : ∀ units, motive (.text units))
    (array : ∀ items, (∀ item ∈ items, motive item) → motive (.array items))
    (object : ∀ members, (∀ member ∈ members, motive member.2) → motive (.object members))
    (phrase : Phrase) : motive phrase :=
  Phrase.rec (motive_1 := motive) (motive_2 := fun items => ∀ item ∈ items, motive item)
    (motive_3 := fun members => ∀ member ∈ members, motive member.2)
    (motive_4 := fun member => motive member.2)
    null bool numeral text array object
    (List.forall_mem_nil _) (fun _ _ here further => List.forall_mem_cons.mpr ⟨here, further⟩)
    (List.forall_mem_nil _) (fun _ _ here further => List.forall_mem_cons.mpr ⟨here, further⟩)
    (fun _ _ value => value) phrase

theorem itemsValues?_cons_iff {item : Phrase} {others : List Phrase} {values : List Json} :
    value?.itemsValues? (item :: others) = some values ↔
      ∃ value further, item.value? = some value ∧ value?.itemsValues? others = some further ∧
        value :: further = values := by
  simp only [value?.itemsValues?, Option.bind_eq_bind, Option.pure_def, Option.bind_eq_some_iff,
    Option.some.injEq, exists_and_left]

theorem mergeMembers?_cons_iff {merged members : Members} {units : List TextUnit}
    {phrase : Phrase} {others : List (List TextUnit × Phrase)} :
    value?.mergeMembers? merged ((units, phrase) :: others) = some members ↔
      ∃ key value, TextUnit.text? units = some key ∧ phrase.value? = some value ∧
        value?.mergeMembers? (merged.insert key value) others = some members := by
  simp only [value?.mergeMembers?, Option.bind_eq_bind, Option.bind_eq_some_iff, exists_and_left]

/-- An array has room where it begins exactly if there is room for one container more, and all its
items have room inside it. -/
theorem add_depth_array_le_iff {above room : Nat} {items : List Phrase} :
    above + (Phrase.array items).depth ≤ room ↔
      above < room ∧ ∀ item ∈ items, above + 1 + item.depth ≤ room := by
  rw [depth]
  induction items with
  | nil =>
    rw [depth.itemsDepth, and_iff_left (List.forall_mem_nil _)]
    exact Nat.add_one_le_iff
  | cons item others inductionHypothesis =>
    rw [List.forall_mem_cons, and_left_comm, ← inductionHypothesis, depth.itemsDepth]
    omega

theorem add_depth_object_le_iff {above room : Nat} {members : List (List TextUnit × Phrase)} :
    above + (Phrase.object members).depth ≤ room ↔
      above < room ∧ ∀ member ∈ members, above + 1 + member.2.depth ≤ room := by
  rw [depth]
  induction members with
  | nil =>
    rw [depth.membersDepth, and_iff_left (List.forall_mem_nil _)]
    exact Nat.add_one_le_iff
  | cons member others inductionHypothesis =>
    rw [List.forall_mem_cons, and_left_comm, ← inductionHypothesis, depth.membersDepth]
    omega

/-! ### Cutting -/

/-- Behind these tokens nothing, or what closes a value, may stand. -/
def Ends (rest : List Token) : Prop :=
  ∀ token ∈ rest.head?, token.Closes

theorem ends_itemsTokens (items : List Phrase) (rest : List Token) :
    Ends (tokens.itemsTokens items ++ rest) := by
  cases items <;> (rintro _ ⟨⟩; trivial)

theorem ends_membersTokens (members : List (List TextUnit × Phrase)) (rest : List Token) :
    Ends (tokens.membersTokens members ++ rest) := by
  cases members <;> (rintro _ ⟨⟩; trivial)

/-- The tokens of the phrase stay separate before what may stand behind a value. -/
def StaysSeparate (phrase : Phrase) : Prop :=
  ∀ rest, Separate rest → Ends rest → Separate (phrase.tokens ++ rest)

theorem separate_itemsTokens {items : List Phrase} (each : ∀ item ∈ items, item.StaysSeparate)
    {rest : List Token} (separate : Separate rest) :
    Separate (tokens.itemsTokens items ++ rest) := by
  induction items with
  | nil => exact separate_cons rfl separate
  | cons item others inductionHypothesis =>
    obtain ⟨here, further⟩ := List.forall_mem_cons.mp each
    rw [tokens.itemsTokens, List.cons_append, List.append_assoc]
    exact separate_cons rfl (here _ (inductionHypothesis further) (ends_itemsTokens _ _))

theorem separate_membersTokens {members : List (List TextUnit × Phrase)}
    (each : ∀ member ∈ members, member.2.StaysSeparate) {rest : List Token}
    (separate : Separate rest) : Separate (tokens.membersTokens members ++ rest) := by
  induction members with
  | nil => exact separate_cons rfl separate
  | cons member others inductionHypothesis =>
    obtain ⟨here, further⟩ := List.forall_mem_cons.mp each
    have value := here _ (inductionHypothesis further) (ends_membersTokens _ _)
    rw [tokens.membersTokens, List.cons_append, List.cons_append, List.cons_append,
      List.append_assoc]
    exact separate_cons rfl (separate_cons rfl (separate_cons rfl value))

theorem staysSeparate (phrase : Phrase) : phrase.StaysSeparate := by
  induction phrase using Phrase.induction with
  | null => exact fun _ separate _ => separate_cons rfl separate
  | bool value => exact fun _ separate _ => separate_cons rfl separate
  | numeral value =>
    exact fun _ separate ends =>
      List.isChain_cons.mpr ⟨fun next first _ => ends next first, separate⟩
  | text units => exact fun _ separate _ => separate_cons rfl separate
  | array items inductionHypothesis =>
    intro rest separate ends
    cases items with
    | nil => exact separate_cons rfl (separate_cons rfl separate)
    | cons item others =>
      obtain ⟨here, further⟩ := List.forall_mem_cons.mp inductionHypothesis
      rw [tokens, List.cons_append, List.append_assoc]
      exact separate_cons rfl
        (here _ (separate_itemsTokens further separate) (ends_itemsTokens _ _))
  | object members inductionHypothesis =>
    intro rest separate ends
    cases members with
    | nil => exact separate_cons rfl (separate_cons rfl separate)
    | cons member others =>
      obtain ⟨here, further⟩ := List.forall_mem_cons.mp inductionHypothesis
      have value := here _ (separate_membersTokens further separate) (ends_membersTokens _ _)
      rw [tokens, List.cons_append, List.cons_append, List.cons_append, List.append_assoc]
      exact separate_cons rfl (separate_cons rfl (separate_cons rfl value))

theorem separate_tokens (phrase : Phrase) : Separate phrase.tokens := by
  have alone := phrase.staysSeparate [] List.isChain_nil fun _ inside => nomatch inside
  rwa [List.append_nil] at alone

/-! ### One phrase only -/

/-- Nothing else has the same tokens at its front. -/
def IsPrefixFree (phrase : Phrase) : Prop :=
  ∀ (other : Phrase) (rest behind : List Token), phrase.tokens ++ rest = other.tokens ++ behind →
    phrase = other ∧ rest = behind

theorem itemsTokens_inj {items others : List Phrase} (each : ∀ item ∈ items, item.IsPrefixFree)
    {rest behind : List Token}
    (same : tokens.itemsTokens items ++ rest = tokens.itemsTokens others ++ behind) :
    items = others ∧ rest = behind := by
  induction items generalizing others with
  | nil =>
    cases others with
    | nil => exact ⟨rfl, List.cons.inj same |>.2⟩
    | cons => cases same
  | cons item items inductionHypothesis =>
    cases others with
    | nil => cases same
    | cons other others =>
      obtain ⟨here, further⟩ := List.forall_mem_cons.mp each
      simp only [tokens.itemsTokens, List.cons_append, List.append_assoc, List.cons.injEq,
        true_and] at same
      obtain ⟨rfl, sameRest⟩ := here other _ _ same
      obtain ⟨rfl, ends⟩ := inductionHypothesis further sameRest
      exact ⟨rfl, ends⟩

theorem membersTokens_inj {members others : List (List TextUnit × Phrase)}
    (each : ∀ member ∈ members, member.2.IsPrefixFree) {rest behind : List Token}
    (same : tokens.membersTokens members ++ rest = tokens.membersTokens others ++ behind) :
    members = others ∧ rest = behind := by
  induction members generalizing others with
  | nil =>
    cases others with
    | nil => exact ⟨rfl, List.cons.inj same |>.2⟩
    | cons => cases same
  | cons member members inductionHypothesis =>
    cases others with
    | nil => cases same
    | cons other others =>
      obtain ⟨key, value⟩ := member
      obtain ⟨otherKey, otherValue⟩ := other
      obtain ⟨here, further⟩ := List.forall_mem_cons.mp each
      simp only [tokens.membersTokens, List.cons_append, List.append_assoc, List.cons.injEq,
        Token.text.injEq, true_and] at same
      obtain ⟨rfl, sameValue⟩ := same
      obtain ⟨rfl, sameRest⟩ := here otherValue _ _ sameValue
      obtain ⟨rfl, ends⟩ := inductionHypothesis further sameRest
      exact ⟨rfl, ends⟩

/-- No phrase begins with the end of an array. -/
theorem tokens_append_ne (phrase : Phrase) (rest behind : List Token) :
    phrase.tokens ++ rest ≠ .closeArray :: behind := by
  rcases phrase with _ | _ | _ | _ | ⟨_ | _⟩ | ⟨_ | _⟩ <;> exact nofun

theorem isPrefixFree_array {items : List Phrase} (each : ∀ item ∈ items, item.IsPrefixFree) :
    (Phrase.array items).IsPrefixFree := by
  intro other rest behind same
  rcases items with _ | ⟨item, items⟩ <;>
    rcases other with _ | _ | _ | _ | ⟨_ | ⟨other, others⟩⟩ | ⟨_ | _⟩ <;>
    try cases same
  · exact ⟨rfl, rfl⟩
  · simp only [tokens, List.cons_append, List.append_assoc, List.cons.injEq, true_and] at same
    exact (tokens_append_ne _ _ _ same.symm).elim
  · simp only [tokens, List.cons_append, List.append_assoc, List.cons.injEq, true_and] at same
    exact (tokens_append_ne _ _ _ same).elim
  · obtain ⟨here, further⟩ := List.forall_mem_cons.mp each
    simp only [tokens, List.cons_append, List.append_assoc, List.cons.injEq, true_and] at same
    obtain ⟨rfl, sameRest⟩ := here other _ _ same
    obtain ⟨rfl, ends⟩ := itemsTokens_inj further sameRest
    exact ⟨rfl, ends⟩

theorem isPrefixFree_object {members : List (List TextUnit × Phrase)}
    (each : ∀ member ∈ members, member.2.IsPrefixFree) : (Phrase.object members).IsPrefixFree := by
  intro other rest behind same
  rcases members with _ | ⟨⟨key, value⟩, members⟩ <;>
    rcases other with _ | _ | _ | _ | ⟨_ | _⟩ | ⟨_ | ⟨⟨otherKey, otherValue⟩, others⟩⟩ <;>
    try cases same
  · exact ⟨rfl, rfl⟩
  · obtain ⟨here, further⟩ := List.forall_mem_cons.mp each
    simp only [tokens, List.cons_append, List.append_assoc, List.cons.injEq, Token.text.injEq,
      true_and] at same
    obtain ⟨rfl, sameValue⟩ := same
    obtain ⟨rfl, sameRest⟩ := here otherValue _ _ sameValue
    obtain ⟨rfl, ends⟩ := membersTokens_inj further sameRest
    exact ⟨rfl, ends⟩

theorem isPrefixFree (phrase : Phrase) : phrase.IsPrefixFree := by
  induction phrase using Phrase.induction with
  | null | bool | numeral | text =>
    intro other rest behind same
    rcases other with _ | _ | _ | _ | ⟨_ | _⟩ | ⟨_ | _⟩ <;> cases same
    exact ⟨rfl, rfl⟩
  | array items inductionHypothesis => exact isPrefixFree_array inductionHypothesis
  | object members inductionHypothesis => exact isPrefixFree_object inductionHypothesis

theorem tokens_injective {phrase other : Phrase} (same : phrase.tokens = other.tokens) :
    phrase = other :=
  (phrase.isPrefixFree other [] [] (by rw [List.append_nil, List.append_nil, same])).1

/-! ### Reading a phrase -/

open Reading

/-- Reading the tokens of the phrase comes to where its value is handed to the container that awaits
it. -/
def Reads (phrase : Phrase) : Prop :=
  ∀ value, phrase.value? = some value → ∀ (room : Nat) (stack : List Frame) (rest : List Token),
    stack.length + phrase.depth ≤ room →
    run room .value stack (phrase.tokens ++ rest) = resume room (deliver value stack) rest

/-- The tokens of a phrase do not end an array before its first item. -/
theorem run_itemOrEnd_tokens (phrase : Phrase) (room : Nat) (stack : List Frame)
    (rest : List Token) :
    run room .itemOrEnd stack (phrase.tokens ++ rest) =
      run room .value (.item [] :: stack) (phrase.tokens ++ rest) := by
  rcases phrase with _ | _ | _ | _ | items | members
  · rfl
  · rfl
  · rfl
  · rfl
  · cases items <;> rfl
  · cases members <;> rfl

theorem run_itemsTokens {items : List Phrase} (each : ∀ item ∈ items, item.Reads)
    {values : List Json} (means : value?.itemsValues? items = some values) {room : Nat}
    {stack : List Frame} (fits : ∀ item ∈ items, stack.length + 1 + item.depth ≤ room)
    (reversed : List Json) (rest : List Token) :
    run room (.afterItem reversed) stack (tokens.itemsTokens items ++ rest) =
      resume room (deliver (.array (reversed.reverse ++ values)) stack) rest := by
  induction items generalizing reversed values with
  | nil =>
    obtain rfl := Option.some.inj means
    rw [tokens.itemsTokens, List.singleton_append, run_cons, List.append_nil]
    rfl
  | cons item others inductionHypothesis =>
    obtain ⟨here, further⟩ := List.forall_mem_cons.mp each
    obtain ⟨hereFits, furtherFit⟩ := List.forall_mem_cons.mp fits
    obtain ⟨value, more, isValue, areMore, rfl⟩ := itemsValues?_cons_iff.mp means
    rw [tokens.itemsTokens, List.cons_append, List.append_assoc, run_cons, step, resume,
      here value isValue room (.item reversed :: stack) _ hereFits, deliver, resume,
      inductionHypothesis further areMore furtherFit, List.reverse_cons, List.append_assoc,
      List.singleton_append]

theorem reads_array {items : List Phrase} (each : ∀ item ∈ items, item.Reads) :
    (Phrase.array items).Reads := by
  intro value means room stack rest fits
  obtain ⟨opens, parts⟩ := add_depth_array_le_iff.mp fits
  obtain ⟨values, areValues, rfl⟩ := Option.map_eq_some_iff.mp means
  have begins (inner : List Token) :
      run room .value stack (.openArray :: inner) = run room .itemOrEnd stack inner := by
    rw [run_cons, step, beginValue, if_pos opens, resume]
  cases items with
  | nil =>
    obtain rfl := Option.some.inj areValues
    rw [tokens, List.cons_append, begins, List.singleton_append, run_cons]
    rfl
  | cons item others =>
    obtain ⟨here, further⟩ := List.forall_mem_cons.mp each
    obtain ⟨hereFits, furtherFit⟩ := List.forall_mem_cons.mp parts
    obtain ⟨value, more, isValue, areMore, rfl⟩ := itemsValues?_cons_iff.mp areValues
    rw [tokens, List.cons_append, List.append_assoc, begins, run_itemOrEnd_tokens,
      here value isValue room (.item [] :: stack) _ hereFits, deliver, resume,
      run_itemsTokens further areMore furtherFit, List.reverse_singleton, List.singleton_append]

/-- A member is read from its key on, and set among the members before it. -/
theorem run_memberTokens {phrase : Phrase} (here : phrase.Reads) {value : Json}
    (isValue : phrase.value? = some value) {room : Nat} {stack : List Frame}
    (fits : stack.length + 1 + phrase.depth ≤ room) {stage : Stage} {members : Members}
    (awaits : ∀ units,
      step room stack stage (.text units) = beginMember members stack (.text units))
    {units : List TextUnit} {key : String} (isKey : TextUnit.text? units = some key)
    (rest : List Token) :
    run room stage stack (.text units :: .colon :: (phrase.tokens ++ rest)) =
      run room (.afterMember (members.insert key value)) stack rest := by
  rw [run_cons, awaits, beginMember, isKey, resume, run_cons, step, resume,
    here value isValue room (.member members key :: stack) rest fits, deliver, resume]

theorem run_membersTokens {others : List (List TextUnit × Phrase)}
    (each : ∀ member ∈ others, member.2.Reads) {members merged : Members}
    (means : value?.mergeMembers? members others = some merged) {room : Nat} {stack : List Frame}
    (fits : ∀ member ∈ others, stack.length + 1 + member.2.depth ≤ room) (rest : List Token) :
    run room (.afterMember members) stack (tokens.membersTokens others ++ rest) =
      resume room (deliver (.object merged) stack) rest := by
  induction others generalizing members with
  | nil =>
    obtain rfl := Option.some.inj means
    rw [tokens.membersTokens, List.singleton_append, run_cons]
    rfl
  | cons member further inductionHypothesis =>
    obtain ⟨here, eachFurther⟩ := List.forall_mem_cons.mp each
    obtain ⟨hereFits, furtherFit⟩ := List.forall_mem_cons.mp fits
    obtain ⟨key, value, isKey, isValue, areMore⟩ := mergeMembers?_cons_iff.mp means
    rw [tokens.membersTokens, List.cons_append, List.cons_append, List.cons_append,
      List.append_assoc, run_cons, step, resume,
      run_memberTokens here isValue hereFits (fun _ => rfl) isKey,
      inductionHypothesis eachFurther areMore furtherFit]

theorem reads_object {members : List (List TextUnit × Phrase)}
    (each : ∀ member ∈ members, member.2.Reads) : (Phrase.object members).Reads := by
  intro value means room stack rest fits
  obtain ⟨opens, parts⟩ := add_depth_object_le_iff.mp fits
  obtain ⟨merged, areMerged, rfl⟩ := Option.map_eq_some_iff.mp means
  have begins (inner : List Token) :
      run room .value stack (.openObject :: inner) = run room .keyOrEnd stack inner := by
    rw [run_cons, step, beginValue, if_pos opens, resume]
  cases members with
  | nil =>
    obtain rfl := Option.some.inj areMerged
    rw [tokens, List.cons_append, begins, List.singleton_append, run_cons]
    rfl
  | cons member others =>
    obtain ⟨here, further⟩ := List.forall_mem_cons.mp each
    obtain ⟨hereFits, furtherFit⟩ := List.forall_mem_cons.mp parts
    obtain ⟨key, value, isKey, isValue, areMore⟩ := mergeMembers?_cons_iff.mp areMerged
    rw [tokens, List.cons_append, List.cons_append, List.cons_append, List.append_assoc, begins,
      run_memberTokens here isValue hereFits (fun _ => rfl) isKey,
      run_membersTokens further areMore furtherFit]

theorem reads (phrase : Phrase) : phrase.Reads := by
  induction phrase using Phrase.induction with
  | null =>
    intro value means room stack rest _
    obtain rfl := Option.some.inj means
    exact run_cons room .value stack _ rest
  | bool value =>
    intro value means room stack rest _
    obtain rfl := Option.some.inj means
    exact run_cons room .value stack _ rest
  | numeral numeral =>
    intro value means room stack rest _
    obtain ⟨number, has, rfl⟩ := Option.map_eq_some_iff.mp means
    rw [tokens, List.singleton_append, run_cons, step, beginValue, has]
  | text units =>
    intro value means room stack rest _
    obtain ⟨text, spelled, rfl⟩ := Option.map_eq_some_iff.mp means
    rw [tokens, List.singleton_append, run_cons, step, beginValue, spelled]
  | array items inductionHypothesis => exact reads_array inductionHypothesis
  | object members inductionHypothesis => exact reads_object inductionHypothesis

end Phrase

end Gateway
