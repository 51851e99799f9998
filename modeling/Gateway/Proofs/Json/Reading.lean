/-
This file proves what all values read from text have in common: they name no member twice, and they
nest no deeper than there is room for. Both pass from the parts of a value to the whole, so they are
two cases of one statement about whatever does. All that was read of a value stands in the stage and
in the frames of the open containers, and the invariant speaks of both. Every token keeps it: it
opens a container only where there is room, and a member that is named again is written over and
never added. With that every body holds a well-formed value, the octets of a response no less than a
value that was made.
-/

import Gateway.Resource.Body

namespace Gateway

namespace Json

theorem wellFormed_array_iff (items : List Json) :
    (Json.array items).WellFormed ↔ ∀ item ∈ items, item.WellFormed :=
  itemsWellFormed_iff items

theorem wellFormed_object_iff (members : Members) :
    (Json.object members).WellFormed ↔
      members.keys.Nodup ∧ ∀ member ∈ members, member.2.WellFormed := by
  rw [WellFormed, membersWellFormed_iff]
  rfl

/-- An array has room where it begins exactly if there is room for one container more, and all its
items have room inside it. -/
theorem add_depth_array_le_iff {above room : Nat} {items : List Json} :
    above + (Json.array items).depth ≤ room ↔
      above < room ∧ ∀ item ∈ items, above + 1 + item.depth ≤ room := by
  rw [depth]
  induction items with
  | nil =>
    rw [depth.itemsDepth, and_iff_left (List.forall_mem_nil _)]
    exact Nat.add_one_le_iff
  | cons item rest inductionHypothesis =>
    rw [List.forall_mem_cons, and_left_comm, ← inductionHypothesis, depth.itemsDepth]
    omega

theorem add_depth_object_le_iff {above room : Nat} {members : Members} :
    above + (Json.object members).depth ≤ room ↔
      above < room ∧ ∀ member ∈ members, above + 1 + member.2.depth ≤ room := by
  rw [depth]
  induction members with
  | nil =>
    rw [depth.membersDepth, and_iff_left (List.forall_mem_nil _)]
    exact Nat.add_one_le_iff
  | cons member rest inductionHypothesis =>
    rw [List.forall_mem_cons, and_left_comm, ← inductionHypothesis, depth.membersDepth]
    omega

end Json

/-! ### From the parts to the whole -/

namespace Reading

/-- What holds of values by the number of containers around them: of the scalars, and of a container
that there is room for whenever it holds of the parts, where no two members have one key. -/
structure Heritable (room : Nat) (holds : Nat → Json → Prop) : Prop where
  null (above : Nat) : holds above .null
  bool (above : Nat) (value : Bool) : holds above (.bool value)
  number (above : Nat) (value : Number) : holds above (.number value)
  text (above : Nat) (value : String) : holds above (.text value)
  array {above : Nat} {items : List Json} (fits : above < room)
    (parts : ∀ item ∈ items, holds (above + 1) item) : holds above (.array items)
  object {above : Nat} {members : Members} (fits : above < room) (distinct : members.keys.Nodup)
    (parts : ∀ member ∈ members, holds (above + 1) member.2) : holds above (.object members)

variable (room : Nat) (holds : Nat → Json → Prop)

/-- There is room for an array with these items so far, and it holds of each of them. -/
def ItemsHold (above : Nat) (items : List Json) : Prop :=
  above < room ∧ ∀ item ∈ items, holds (above + 1) item

/-- There is room for an object with these members so far, they differ in their keys, and it holds
of each of them. -/
def MembersHold (above : Nat) (members : Members) : Prop :=
  above < room ∧ members.keys.Nodup ∧ ∀ member ∈ members, holds (above + 1) member.2

/-- It holds of what the frame has read so far. -/
def Frame.Holds (above : Nat) : Frame → Prop
  | .item reversed => ItemsHold room holds above reversed
  | .member members _ => MembersHold room holds above members

/-- It holds of what the stage has read of the innermost container. -/
def Stage.Holds (above : Nat) : Stage → Prop
  | .value => True
  | .itemOrEnd => ItemsHold room holds above []
  | .afterItem reversed => ItemsHold room holds above reversed
  | .keyOrEnd => MembersHold room holds above []
  | .key members | .colon members _ | .afterMember members => MembersHold room holds above members

/-- It holds of what every open container has read so far. -/
def StackHolds : List Frame → Prop
  | [] => True
  | frame :: outer => frame.Holds room holds outer.length ∧ StackHolds outer

/-- It holds of all that was read. -/
def Progress.Holds : Progress → Prop
  | .refused => True
  | .reading stage stack => stage.Holds room holds stack.length ∧ StackHolds room holds stack
  | .finished value => holds 0 value

variable {room holds}

theorem MembersHold.insert {above : Nat} {members : Members}
    (object : MembersHold room holds above members) (key : String) {value : Json}
    (part : holds (above + 1) value) : MembersHold room holds above (members.insert key value) := by
  obtain ⟨fits, distinct, parts⟩ := object
  refine ⟨fits, Members.nodup_keys_insert distinct key value, fun member inside => ?_⟩
  rcases Members.eq_or_mem_of_mem_insert inside with rfl | old
  · exact part
  · exact parts member old

/-! ### One token -/

theorem holds_deliver {value : Json} {stack : List Frame} (whole : holds stack.length value)
    (frames : StackHolds room holds stack) : (deliver value stack).Holds room holds := by
  cases stack with
  | nil => exact whole
  | cons frame outer =>
    obtain ⟨inner, further⟩ := frames
    cases frame with
    | item reversed => exact ⟨⟨inner.1, List.forall_mem_cons.mpr ⟨whole, inner.2⟩⟩, further⟩
    | member members key => exact ⟨MembersHold.insert inner key whole, further⟩

theorem holds_beginValue (heritable : Heritable room holds) {stack : List Frame}
    (frames : StackHolds room holds stack) (token : Token) :
    (beginValue room stack token).Holds room holds := by
  cases token with
  | null => exact holds_deliver (heritable.null _) frames
  | bool value => exact holds_deliver (heritable.bool _ value) frames
  | numeral numeral =>
    rw [beginValue]
    split
    · exact holds_deliver (heritable.number _ _) frames
    · trivial
  | text units =>
    rw [beginValue]
    split
    · exact holds_deliver (heritable.text _ _) frames
    · trivial
  | openArray =>
    rw [beginValue]
    split
    · next fits => exact ⟨⟨fits, fun _ inside => nomatch inside⟩, frames⟩
    · trivial
  | openObject =>
    rw [beginValue]
    split
    · next fits => exact ⟨⟨fits, List.nodup_nil, fun _ inside => nomatch inside⟩, frames⟩
    · trivial
  | _ => trivial

theorem holds_beginMember {members : Members} {stack : List Frame}
    (object : MembersHold room holds stack.length members) (frames : StackHolds room holds stack)
    (token : Token) : (beginMember members stack token).Holds room holds := by
  cases token with
  | text units =>
    rw [beginMember]
    split
    · exact ⟨object, frames⟩
    · trivial
  | _ => trivial

/-- Every token keeps what holds of all that was read. -/
theorem holds_step (heritable : Heritable room holds) {stack : List Frame} {stage : Stage}
    (here : stage.Holds room holds stack.length) (frames : StackHolds room holds stack)
    (token : Token) : (step room stack stage token).Holds room holds := by
  fun_cases step room stack stage token with
  | case1 token => exact holds_beginValue heritable frames token
  | case2 => exact holds_deliver (heritable.array here.1 here.2) frames
  | case3 token =>
    have opened : StackHolds room holds (.item [] :: stack) := ⟨here, frames⟩
    exact holds_beginValue heritable opened token
  | case4 reversed => exact ⟨trivial, here, frames⟩
  | case5 reversed =>
    refine holds_deliver (heritable.array here.1 fun item inside => ?_) frames
    exact here.2 item (List.mem_reverse.mp inside)
  | case6 => exact holds_deliver (heritable.object here.1 here.2.1 here.2.2) frames
  | case7 token => exact holds_beginMember here frames token
  | case8 members token => exact holds_beginMember here frames token
  | case9 members key => exact ⟨trivial, here, frames⟩
  | case10 members => exact ⟨here, frames⟩
  | case11 members => exact holds_deliver (heritable.object here.1 here.2.1 here.2.2) frames
  | case12 => trivial

/-! ### All tokens -/

theorem holds_run (heritable : Heritable room holds) {stage : Stage} {stack : List Frame}
    {input : List Token} {result : Json × List Token}
    (read : run room stage stack input = some result)
    (here : stage.Holds room holds stack.length) (frames : StackHolds room holds stack) :
    holds 0 result.1 := by
  induction input generalizing stage stack with
  | nil => cases read
  | cons token rest inductionHypothesis =>
    have kept := holds_step heritable here frames token
    rw [run] at read
    cases progress : step room stack stage token with
    | refused =>
      rw [progress] at read
      cases read
    | reading next inside =>
      rw [progress] at read kept
      exact inductionHypothesis read kept.1 kept.2
    | finished value =>
      rw [progress] at read kept
      cases read
      exact kept

end Reading

/-! ### Values of texts -/

namespace Json

/-- What passes from the parts of a value to the whole holds of a value read from text. -/
theorem holds_of_ofText? {holds : Nat → Json → Prop}
    (heritable : Reading.Heritable nestingLimit holds) {text : String} {value : Json}
    (read : ofText? text = some value) : holds 0 value := by
  rw [ofText?] at read
  split at read
  · next found =>
    cases read
    have run : Reading.run nestingLimit .value [] (tokens text.toList) = some (_, []) := found
    exact Reading.holds_run heritable run trivial trivial
  · cases read

/-- A value read from text names no member twice. -/
theorem wellFormed_of_ofText? {text : String} {value : Json} (read : ofText? text = some value) :
    value.WellFormed := by
  have heritable : Reading.Heritable nestingLimit fun _ value => value.WellFormed := {
    null := fun _ => trivial
    bool := fun _ _ => trivial
    number := fun _ _ => trivial
    text := fun _ _ => trivial
    array := fun _ parts => (wellFormed_array_iff _).mpr parts
    object := fun _ distinct parts => (wellFormed_object_iff _).mpr ⟨distinct, parts⟩ }
  exact holds_of_ofText? heritable read

/-- A value read from text nests no deeper than texts may. -/
theorem depth_of_ofText? {text : String} {value : Json} (read : ofText? text = some value) :
    value.depth ≤ nestingLimit := by
  have heritable : Reading.Heritable nestingLimit fun above value =>
      above ≤ nestingLimit → above + value.depth ≤ nestingLimit := {
    null := fun _ room => room
    bool := fun _ _ room => room
    number := fun _ _ room => room
    text := fun _ _ room => room
    array := fun fits parts _ =>
      add_depth_array_le_iff.mpr ⟨fits, fun item inside => parts item inside fits⟩
    object := fun fits _ parts _ =>
      add_depth_object_le_iff.mpr ⟨fits, fun member inside => parts member inside fits⟩ }
  have deep := holds_of_ofText? heritable read (Nat.zero_le _)
  rwa [Nat.zero_add] at deep

end Json

/-! ### Bodies -/

namespace Body

/-- A value that was made names no member twice. Octets may be any. -/
def WellFormed : Body → Prop
  | .raw _ => True
  | .value content => content.WellFormed

/-- A value that was made nests no deeper than texts may. Octets may be any. -/
def Shallow : Body → Prop
  | .raw _ => True
  | .value content => content.depth ≤ Json.nestingLimit

/-- What octets hold is null, a text of their own, or a value read from text. -/
theorem contentOf_cases {motive : Json → Prop} (null : motive .null)
    (text : ∀ value, motive (.text value))
    (read : ∀ text value, Json.ofText? text = some value → motive value) (octets : List UInt8) :
    motive (contentOf octets) := by
  rw [contentOf]
  split
  · exact null
  · cases found : Json.ofOctets? octets with
    | none => exact text _
    | some content =>
      obtain ⟨spelled, -, isText⟩ := Option.bind_eq_some_iff.mp found
      exact read spelled content isText

theorem wellFormed_contentOf (octets : List UInt8) : (contentOf octets).WellFormed :=
  contentOf_cases trivial (fun _ => trivial) (fun _ _ => Json.wellFormed_of_ofText?) octets

theorem depth_contentOf (octets : List UInt8) : (contentOf octets).depth ≤ Json.nestingLimit :=
  contentOf_cases (Nat.zero_le _) (fun _ => Nat.zero_le _) (fun _ _ => Json.depth_of_ofText?) octets

theorem WellFormed.content {body : Body} (wellFormed : body.WellFormed) :
    body.content.WellFormed := by
  cases body with
  | raw octets => exact wellFormed_contentOf octets
  | value content => exact wellFormed

theorem Shallow.content {body : Body} (shallow : body.Shallow) :
    body.content.depth ≤ Json.nestingLimit := by
  cases body with
  | raw octets => exact depth_contentOf octets
  | value content => exact shallow

end Body

end Gateway
