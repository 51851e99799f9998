/-
This file defines JSON values. The members of an object keep their order, because answers show
it; a number is an integer of 64 bits, signed or unsigned, or a finite double. A value read from
text names no member twice, and `Json.WellFormed` says so of every object inside it.
-/

import Gateway.Decimal.Layout

namespace Gateway

open Decimal (Double)

/-- A number of a JSON value. -/
inductive Number
  /-- An integer that fits 64 bits with a sign or without one. -/
  | integer (value : Int) (fits : -0x8000000000000000 ≤ value ∧ value < 0x10000000000000000)
  /-- Any other number, as the double that it was rounded to. -/
  | real (value : Double)
  deriving DecidableEq

/-- A JSON value. -/
inductive Json
  | null
  | bool (value : Bool)
  | number (value : Number)
  | text (value : String)
  | array (items : List Json)
  | object (members : List (String × Json))

namespace Json

instance : Inhabited Json := ⟨.null⟩

/-- An unsigned integer of 64 bits as a JSON number. -/
def ofUInt64 (value : UInt64) : Json :=
  .number (.integer value.toNat (by have := value.toNat_lt; omega))

/-- A status or another small natural as a JSON number. -/
def ofUInt16 (value : UInt16) : Json :=
  .number (.integer value.toNat (by have := value.toNat_lt; omega))

/-- A signed integer of 64 bits as a JSON number. -/
def ofInt64 (value : Int64) : Json :=
  .number (.integer value.toInt (by
    have := value.le_toInt
    have := value.toInt_lt
    omega))

/-- The value, or null in its absence. -/
def ofOption : Option Json → Json
  | none => .null
  | some value => value

/-- The value as a signed integer of 64 bits, when it is one. -/
def asInt64? : Json → Option Int64
  | .number (.integer value _) =>
    if -0x8000000000000000 ≤ value ∧ value < 0x8000000000000000 then some (Int64.ofInt value)
    else none
  | _ => none

@[simp] theorem asInt64?_ofInt64 (value : Int64) : (ofInt64 value).asInt64? = some value := by
  have lower := value.le_toInt
  have upper := value.toInt_lt
  simp only [ofInt64, asInt64?]
  rw [if_pos (by omega)]
  simp

/-! ### The shape of a value -/

/-- How many containers stand inside one another at the deepest place of the value. -/
def depth : Json → Nat
  | .array items => 1 + itemsDepth items
  | .object members => 1 + membersDepth members
  | _ => 0
where
  itemsDepth : List Json → Nat
    | [] => 0
    | item :: rest => max item.depth (itemsDepth rest)
  membersDepth : List (String × Json) → Nat
    | [] => 0
    | (_, value) :: rest => max value.depth (membersDepth rest)

/-- Every object inside the value names each of its members once. -/
def WellFormed : Json → Prop
  | .array items => itemsWellFormed items
  | .object members => (members.map Prod.fst).Nodup ∧ membersWellFormed members
  | _ => True
where
  itemsWellFormed : List Json → Prop
    | [] => True
    | item :: rest => item.WellFormed ∧ itemsWellFormed rest
  membersWellFormed : List (String × Json) → Prop
    | [] => True
    | (_, value) :: rest => value.WellFormed ∧ membersWellFormed rest

theorem itemsWellFormed_iff (items : List Json) :
    WellFormed.itemsWellFormed items ↔ ∀ item ∈ items, item.WellFormed := by
  induction items with
  | nil => simp [WellFormed.itemsWellFormed]
  | cons item rest inductionHypothesis =>
    simp [WellFormed.itemsWellFormed, inductionHypothesis]

theorem membersWellFormed_iff (members : List (String × Json)) :
    WellFormed.membersWellFormed members ↔ ∀ member ∈ members, member.2.WellFormed := by
  induction members with
  | nil => simp [WellFormed.membersWellFormed]
  | cons member rest inductionHypothesis =>
    simp [WellFormed.membersWellFormed, inductionHypothesis]

/-- What holds of the scalars, of an array whenever it holds of its items, and of an object
whenever it holds of its members' values, holds of every value. -/
theorem induction {motive : Json → Prop} (null : motive .null)
    (bool : ∀ value, motive (.bool value))
    (number : ∀ value, motive (.number value)) (text : ∀ value, motive (.text value))
    (array : ∀ items, (∀ item ∈ items, motive item) → motive (.array items))
    (object : ∀ members, (∀ member ∈ members, motive member.2) → motive (.object members))
    (value : Json) : motive value :=
  Json.rec (motive_1 := motive) (motive_2 := fun items => ∀ item ∈ items, motive item)
    (motive_3 := fun members => ∀ member ∈ members, motive member.2)
    (motive_4 := fun member => motive member.2)
    null bool number text array object
    (by simp) (fun _ _ head tail => by simpa using ⟨head, fun _ m => tail _ m⟩)
    (by simp) (fun _ _ head tail => by
      intro member inside
      rcases List.mem_cons.mp inside with rfl | inRest
      · exact head
      · exact tail member inRest)
    (fun _ _ value => value) value

/-! ### Equal content -/

/-- Whether two values hold the same content. The order of members does not count, and zeros of
either sign are the same number. -/
def sameContent : Json → Json → Bool
  | .null, .null => true
  | .bool first, .bool second => first == second
  | .number (.integer first _), .number (.integer second _) => first == second
  | .number (.real first), .number (.real second) => first.sameNumber second
  | .text first, .text second => first == second
  | .array first, .array second => sameItems first second
  | .object first, .object second =>
    first.length == second.length && sameMembers first second
  | _, _ => false
where
  sameItems : List Json → List Json → Bool
    | [], [] => true
    | first :: firstRest, second :: secondRest =>
      sameContent first second && sameItems firstRest secondRest
    | _, _ => false
  sameMembers : List (String × Json) → List (String × Json) → Bool
    | [], _ => true
    | (key, value) :: rest, second =>
      (match second.lookup key with
        | some other => sameContent value other
        | none => false) && sameMembers rest second

end Json

end Gateway
