/-
This file holds the operations on an object's members. A key that is written again keeps its
place, a new one goes to the end, and a removed one leaves a hole that the last member fills.
Each operation is pinned down by what a look-up finds afterwards, at the key and elsewhere.
-/

import Gateway.Json.Basic

namespace Gateway

/-- The members of a JSON object in their order. -/
abbrev Members := List (String × Json)

namespace Members

/-- The value of the first member with the key. -/
def find? : Members → String → Option Json
  | [], _ => none
  | (name, value) :: rest, key => if name = key then some value else find? rest key

/-- The members with the key set to the value: in its place, or at the end when it is new. -/
def insert : Members → String → Json → Members
  | [], key, value => [(key, value)]
  | (name, old) :: rest, key, value =>
    if name = key then (key, value) :: rest else (name, old) :: insert rest key value

/-- The members without the key: the last member takes its place, all others keep theirs. -/
def remove : Members → String → Members
  | [], _ => []
  | (name, value) :: rest, key =>
    if name = key then
      match rest.getLast? with
      | none => []
      | some last => last :: rest.dropLast
    else (name, value) :: remove rest key

/-- The keys in the order of the members. -/
def keys (members : Members) : List String :=
  members.map Prod.fst

/-! ### What a look-up finds -/

@[simp] theorem find?_nil (key : String) : find? [] key = none := rfl

theorem find?_cons (member : String × Json) (rest : Members) (key : String) :
    find? (member :: rest) key = if member.1 = key then some member.2 else find? rest key := rfl

theorem find?_eq_none_iff (members : Members) (key : String) :
    members.find? key = none ↔ key ∉ members.keys := by
  induction members with
  | nil => simp [keys]
  | cons member rest inductionHypothesis =>
    simp only [find?_cons, keys, List.map_cons, List.mem_cons, not_or] at *
    split
    · rename_i same
      simp [same]
    · rename_i other
      rw [inductionHypothesis]
      exact ⟨fun absent => ⟨fun same => other same.symm, absent⟩, fun both => both.2⟩

theorem mem_of_find? {members : Members} {key : String} {value : Json}
    (found : members.find? key = some value) : (key, value) ∈ members := by
  induction members with
  | nil => simp at found
  | cons member rest inductionHypothesis =>
    rw [find?_cons] at found
    split at found
    · rename_i same
      obtain ⟨name, old⟩ := member
      simp only at same found
      simp [same, ← Option.some.inj found]
    · exact List.mem_cons_of_mem _ (inductionHypothesis found)

/-- Among distinct keys every member is found under its own. -/
theorem find?_of_mem {members : Members} (distinct : members.keys.Nodup) {member : String × Json}
    (inside : member ∈ members) : members.find? member.1 = some member.2 := by
  induction members with
  | nil => simp at inside
  | cons head rest inductionHypothesis =>
    simp only [keys, List.map_cons, List.nodup_cons] at distinct
    rw [find?_cons]
    rcases List.mem_cons.mp inside with rfl | inRest
    · simp
    · rw [if_neg, inductionHypothesis distinct.2 inRest]
      intro same
      exact distinct.1 (List.mem_map.mpr ⟨member, inRest, same.symm⟩)

theorem find?_insert_self (members : Members) (key : String) (value : Json) :
    (members.insert key value).find? key = some value := by
  induction members with
  | nil => simp [insert, find?]
  | cons member rest inductionHypothesis =>
    obtain ⟨name, old⟩ := member
    simp only [insert]
    split
    · simp [find?]
    · rename_i other
      simp [find?, other, inductionHypothesis]

theorem find?_insert_other (members : Members) {key other : String} (different : other ≠ key)
    (value : Json) : (members.insert key value).find? other = members.find? other := by
  induction members with
  | nil => simp [insert, find?, different.symm]
  | cons member rest inductionHypothesis =>
    obtain ⟨name, old⟩ := member
    simp only [insert]
    split
    · rename_i same
      subst same
      simp [find?, different.symm]
    · simp [find?, inductionHypothesis]

/-- Writing a key that is there leaves the keys as they are; a new one comes last. -/
theorem keys_insert (members : Members) (key : String) (value : Json) :
    (members.insert key value).keys =
      if key ∈ members.keys then members.keys else members.keys ++ [key] := by
  induction members with
  | nil => simp [insert, keys]
  | cons member rest inductionHypothesis =>
    obtain ⟨name, old⟩ := member
    simp only [insert]
    by_cases same : name = key
    · simp [same, keys]
    · simp only [if_neg same, keys, List.map_cons, List.mem_cons] at *
      rw [inductionHypothesis]
      have different : key ≠ name := fun equal => same equal.symm
      simp only [different, false_or]
      split <;> simp_all

theorem nodup_keys_insert {members : Members} (distinct : members.keys.Nodup) (key : String)
    (value : Json) : (members.insert key value).keys.Nodup := by
  rw [keys_insert]
  split
  · exact distinct
  · rename_i absent
    exact (List.perm_append_singleton key _).symm.nodup (List.nodup_cons.mpr ⟨absent, distinct⟩)

theorem eq_or_mem_of_mem_insert {members : Members} {key : String} {value : Json}
    {member : String × Json} (inside : member ∈ members.insert key value) :
    member = (key, value) ∨ member ∈ members := by
  induction members with
  | nil => exact Or.inl (List.mem_singleton.mp inside)
  | cons head rest inductionHypothesis =>
    obtain ⟨name, old⟩ := head
    by_cases same : name = key
    · rw [insert, if_pos same] at inside
      exact (List.mem_cons.mp inside).imp_right (List.mem_cons_of_mem _)
    · rw [insert, if_neg same] at inside
      rcases List.mem_cons.mp inside with rfl | inRest
      · exact Or.inr List.mem_cons_self
      · exact (inductionHypothesis inRest).imp_right (List.mem_cons_of_mem _)

/-- Writing a key with the value it has changes nothing. -/
theorem insert_of_find? {members : Members} {key : String} {value : Json}
    (found : members.find? key = some value) : members.insert key value = members := by
  induction members with
  | nil => cases found
  | cons member rest inductionHypothesis =>
    obtain ⟨name, old⟩ := member
    rw [find?_cons] at found
    by_cases same : name = key
    · rw [if_pos same] at found
      rw [insert, if_pos same, ← same, ← Option.some.inj found]
    · rw [if_neg same] at found
      rw [insert, if_neg same, inductionHypothesis found]

/-- Writing a key that is not there adds its member behind the others. -/
theorem insert_of_not_mem_keys {members : Members} {key : String} (absent : key ∉ members.keys)
    (value : Json) : members.insert key value = members ++ [(key, value)] := by
  induction members with
  | nil => rfl
  | cons member rest inductionHypothesis =>
    obtain ⟨name, old⟩ := member
    rw [keys, List.map_cons, List.mem_cons, not_or] at absent
    rw [insert, if_neg fun same => absent.1 same.symm, inductionHypothesis absent.2,
      List.cons_append]

/-! ### The hole of a removed key -/

/-- Up to order, removing a key takes its first member out and leaves all others. -/
theorem remove_perm (members : Members) (key : String) :
    (members.remove key).Perm (members.eraseP fun member => member.1 == key) := by
  induction members with
  | nil => exact List.Perm.refl _
  | cons member rest inductionHypothesis =>
    obtain ⟨name, value⟩ := member
    by_cases same : name = key
    · rw [remove, if_pos same, List.eraseP_cons_of_pos (by simpa using same)]
      cases equal : rest.getLast? with
      | none => rw [List.getLast?_eq_none_iff.mp equal]
      | some last =>
        obtain ⟨front, rfl⟩ := List.getLast?_eq_some_iff.mp equal
        rw [List.dropLast_concat]
        exact (List.perm_append_singleton last front).symm
    · rw [remove, if_neg same, List.eraseP_cons_of_neg (by simpa using same)]
      exact List.Perm.cons _ inductionHypothesis

theorem nodup_keys_remove {members : Members} (distinct : members.keys.Nodup) (key : String) :
    (members.remove key).keys.Nodup := by
  have kept : ((members.eraseP fun member => member.1 == key).map Prod.fst).Nodup :=
    distinct.sublist (List.eraseP_sublist.map Prod.fst)
  exact ((members.remove_perm key).map Prod.fst).symm.nodup kept

/-- Among distinct keys a look-up finds exactly the members. -/
theorem find?_eq_some_iff {members : Members} (distinct : members.keys.Nodup) {key : String}
    {value : Json} : members.find? key = some value ↔ (key, value) ∈ members :=
  ⟨mem_of_find?, fun inside => find?_of_mem distinct inside⟩

theorem mem_remove_iff {members : Members} (distinct : members.keys.Nodup) (key : String)
    (member : String × Json) :
    member ∈ members.remove key ↔ member ∈ members ∧ member.1 ≠ key := by
  rw [(members.remove_perm key).mem_iff]
  induction members with
  | nil => simp
  | cons head rest inductionHypothesis =>
    simp only [keys, List.map_cons, List.nodup_cons] at distinct
    have headOnce : member ∈ rest → member.1 ≠ head.1 := fun inRest same =>
      distinct.1 (same ▸ List.mem_map_of_mem inRest)
    by_cases same : head.1 = key
    · rw [List.eraseP_cons_of_pos (by simpa using same), List.mem_cons]
      constructor
      · exact fun inRest => ⟨Or.inr inRest, same ▸ headOnce inRest⟩
      · rintro ⟨rfl | inRest, other⟩
        · exact absurd same other
        · exact inRest
    · rw [List.eraseP_cons_of_neg (by simpa using same), List.mem_cons, List.mem_cons,
        inductionHypothesis distinct.2]
      constructor
      · rintro (rfl | ⟨inRest, other⟩)
        · exact ⟨Or.inl rfl, same⟩
        · exact ⟨Or.inr inRest, other⟩
      · rintro ⟨rfl | inRest, other⟩
        · exact Or.inl rfl
        · exact Or.inr ⟨inRest, other⟩

theorem find?_remove_self {members : Members} (distinct : members.keys.Nodup) (key : String) :
    (members.remove key).find? key = none := by
  rw [find?_eq_none_iff]
  intro inside
  obtain ⟨member, inRemoved, same⟩ := List.mem_map.mp inside
  exact ((mem_remove_iff distinct key member).mp inRemoved).2 same

theorem find?_remove_other {members : Members} (distinct : members.keys.Nodup)
    {key other : String} (different : other ≠ key) :
    (members.remove key).find? other = members.find? other := by
  refine Option.ext fun value => ?_
  rw [find?_eq_some_iff (nodup_keys_remove distinct key), find?_eq_some_iff distinct,
    mem_remove_iff distinct]
  exact ⟨fun both => both.1, fun inside => ⟨inside, different⟩⟩

/-- Removing a key that is there makes one place less. -/
theorem length_keys_remove {members : Members} {key : String} (inside : key ∈ members.keys) :
    (members.remove key).keys.length + 1 = members.keys.length := by
  obtain ⟨member, isMember, same⟩ := List.mem_map.mp inside
  have shorter : (members.eraseP fun member => member.1 == key).length = members.length - 1 :=
    List.length_eraseP_of_mem isMember (beq_iff_eq.mpr same)
  have filled := List.length_pos_of_mem isMember
  simp only [keys, List.length_map, (members.remove_perm key).length_eq, shorter]
  omega

/-- In every place that is left stands what stood there, but for the place of the removed key: the
key that stood behind the last place that is left has come there. -/
theorem getElem?_keys_remove (members : Members) (key : String) {place : Nat}
    (inside : place < (members.remove key).keys.length) :
    (members.remove key).keys[place]? = members.keys[place]? ∨
      members.keys[place]? = some key ∧
        (members.remove key).keys[place]? =
          members.keys[(members.remove key).keys.length]? := by
  induction members generalizing place with
  | nil => exact Or.inl rfl
  | cons member rest inductionHypothesis =>
    obtain ⟨name, value⟩ := member
    by_cases same : name = key
    · subst same
      rw [remove, if_pos rfl] at inside ⊢
      cases equal : rest.getLast? with
      | none =>
        rw [equal] at inside
        cases inside
      | some last =>
        obtain ⟨front, rfl⟩ := List.getLast?_eq_some_iff.mp equal
        rw [equal] at inside
        dsimp only
        rw [List.dropLast_concat] at inside ⊢
        cases place with
        | zero => exact Or.inr ⟨rfl, by simp [keys]⟩
        | succ before =>
          have short : before < front.length := by simpa [keys] using inside
          exact Or.inl (by simp [keys, List.getElem?_append_left, short])
    · rw [remove, if_neg same] at inside ⊢
      cases place with
      | zero => exact Or.inl rfl
      | succ before => exact inductionHypothesis (Nat.lt_of_succ_lt_succ inside)

/-- Removing a key that is not there changes nothing. -/
theorem remove_of_find?_eq_none {members : Members} {key : String}
    (absent : members.find? key = none) : members.remove key = members := by
  induction members with
  | nil => rfl
  | cons member rest inductionHypothesis =>
    obtain ⟨name, value⟩ := member
    rw [find?_cons] at absent
    by_cases same : name = key
    · rw [if_pos same] at absent
      cases absent
    · rw [if_neg same] at absent
      rw [remove, if_neg same, inductionHypothesis absent]

end Members

end Gateway
