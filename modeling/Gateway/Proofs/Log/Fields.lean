/-
This file says in which order the fields of a log line stand: by the octets of their keys, and
fields of one key as they were given. There is one such order, so the fields that are logged count
only up to the order of different keys.
-/

import Gateway.Log.Entry
import Gateway.Proofs.Text.Utf8

namespace Gateway

namespace LogEntry

/-- The fields with the key, in their order. -/
def withKey (key : String) (fields : List (String × String)) : List (String × String) :=
  fields.filter fun field => field.1 == key

/-- The second list holds the fields of the first in ascending order of the octets of their keys,
and those of one key in the order of the first. -/
structure StablySorted (fields sorted : List (String × String)) : Prop where
  ordered : sorted.Pairwise fun before after => ¬ Text.OctetsBefore after.1 before.1
  stable : ∀ key, withKey key sorted = withKey key fields

/-- No field stands before one with a smaller key. -/
def Ordered (fields : List (String × String)) : Prop :=
  fields.Pairwise fun before after => ¬ after.1 < before.1

variable {fields sorted other : List (String × String)} {field : String × String}

/-! ### One order -/

theorem withKey_cons (key : String) (field : String × String) (rest : List (String × String)) :
    withKey key (field :: rest) =
      if field.1 = key then field :: withKey key rest else withKey key rest := by
  rw [withKey, List.filter_cons]
  simp only [beq_iff_eq]
  rfl

theorem withKey_append (key : String) (first second : List (String × String)) :
    withKey key (first ++ second) = withKey key first ++ withKey key second :=
  List.filter_append ..

theorem mem_withKey_self (inside : field ∈ fields) : field ∈ withKey field.1 fields :=
  List.mem_filter.mpr ⟨inside, beq_self_eq_true field.1⟩

theorem mem_of_withKey_eq (same : ∀ key, withKey key fields = withKey key other)
    (inside : field ∈ fields) : field ∈ other :=
  List.mem_of_mem_filter (same field.1 ▸ mem_withKey_self inside)

theorem Ordered.not_lt_head {head : String × String} (ordered : Ordered (head :: fields))
    (inside : field ∈ head :: fields) : ¬ field.1 < head.1 := by
  rcases List.mem_cons.mp inside with rfl | inRest
  · exact String.lt_irrefl _
  · exact (List.pairwise_cons.mp ordered).1 field inRest

/-- Lists in the order of keys that agree on each key are the same. -/
theorem eq_of_withKey_eq {first second : List (String × String)}
    (firstOrdered : Ordered first) (secondOrdered : Ordered second)
    (same : ∀ key, withKey key first = withKey key second) : first = second := by
  induction first generalizing second with
  | nil =>
    cases second with
    | nil => rfl
    | cons field rest =>
      cases mem_of_withKey_eq (fun key => (same key).symm) (List.mem_cons_self (a := field))
  | cons field rest inductionHypothesis =>
    cases second with
    | nil => cases mem_of_withKey_eq same (List.mem_cons_self (a := field))
    | cons other others =>
      have notBelow := secondOrdered.not_lt_head (mem_of_withKey_eq same List.mem_cons_self)
      have notAbove := firstOrdered.not_lt_head
        (mem_of_withKey_eq (fun key => (same key).symm) List.mem_cons_self)
      have keys : field.1 = other.1 :=
        String.le_antisymm (String.not_lt.mp notAbove) (String.not_lt.mp notBelow)
      have heads := same other.1
      rw [withKey_cons, withKey_cons, if_pos keys, if_pos rfl] at heads
      obtain ⟨rfl, -⟩ := List.cons.inj heads
      congr 1
      refine inductionHypothesis firstOrdered.of_cons secondOrdered.of_cons fun key => ?_
      have tails := same key
      rw [withKey_cons, withKey_cons] at tails
      split at tails
      · exact (List.cons.inj tails).2
      · exact tails

/-! ### The order of the line -/

theorem mem_insertField_iff {inserted : String × String} :
    field ∈ insertField inserted sorted ↔ field = inserted ∨ field ∈ sorted := by
  induction sorted with
  | nil => simp [insertField]
  | cons head rest inductionHypothesis =>
    rw [insertField]
    split
    · exact List.mem_cons
    · rw [List.mem_cons, inductionHypothesis, List.mem_cons, or_left_comm]

theorem ordered_insertField (field : String × String) (ordered : Ordered sorted) :
    Ordered (insertField field sorted) := by
  induction sorted with
  | nil => exact List.pairwise_singleton _ field
  | cons head rest inductionHypothesis =>
    obtain ⟨above, restOrdered⟩ := List.pairwise_cons.mp ordered
    rw [insertField]
    split
    · next before =>
      refine List.pairwise_cons.mpr ⟨fun later inside below => ?_, ordered⟩
      rcases List.mem_cons.mp inside with rfl | inRest
      · exact String.lt_irrefl _ (String.lt_trans before below)
      · exact above later inRest (String.lt_trans below before)
    · next notBefore =>
      refine List.pairwise_cons.mpr ⟨fun later inside => ?_, inductionHypothesis restOrdered⟩
      rcases mem_insertField_iff.mp inside with rfl | inRest
      · exact notBefore
      · exact above later inRest

/-- A field comes behind those of its key. -/
theorem withKey_insertField (field : String × String) (ordered : Ordered sorted) (key : String) :
    withKey key (insertField field sorted) = withKey key sorted ++ withKey key [field] := by
  induction sorted with
  | nil => rfl
  | cons head rest inductionHypothesis =>
    obtain ⟨above, restOrdered⟩ := List.pairwise_cons.mp ordered
    rw [insertField]
    split
    · next before =>
      rw [withKey_cons, withKey_cons key field []]
      split
      · next same =>
        -- no field of the key stands behind a greater one
        have absent : withKey key (head :: rest) = [] := by
          refine List.filter_eq_nil_iff.mpr fun later inside equal => ?_
          have equal : later.1 = field.1 := (beq_iff_eq.mp equal).trans same.symm
          rcases List.mem_cons.mp inside with rfl | inRest
          · exact String.lt_irrefl _ (equal ▸ before)
          · exact above later inRest (equal ▸ before)
        rw [absent]
        rfl
      · exact (List.append_nil _).symm
    · rw [withKey_cons, withKey_cons, inductionHypothesis restOrdered]
      split <;> rfl

theorem foldl_insertField (fields : List (String × String)) (ordered : Ordered sorted) :
    Ordered (fields.foldl (fun sorted field => insertField field sorted) sorted) ∧
      ∀ key, withKey key (fields.foldl (fun sorted field => insertField field sorted) sorted) =
        withKey key sorted ++ withKey key fields := by
  induction fields generalizing sorted with
  | nil => exact ⟨ordered, fun key => (List.append_nil _).symm⟩
  | cons field rest inductionHypothesis =>
    obtain ⟨restOrdered, restStable⟩ := inductionHypothesis (ordered_insertField field ordered)
    refine ⟨restOrdered, fun key => ?_⟩
    rw [List.foldl_cons, restStable, withKey_insertField field ordered, List.append_assoc,
      ← withKey_append, List.singleton_append]

/-- The fields of a line are stably sorted by the octets of their keys. -/
theorem stablySorted_sortFields (fields : List (String × String)) :
    StablySorted fields (sortFields fields) := by
  obtain ⟨ordered, stable⟩ := foldl_insertField fields List.Pairwise.nil
  refine ⟨?_, stable⟩
  simp only [Text.octetsBefore_iff]
  exact ordered

/-- Nothing else is. -/
theorem stablySorted_iff : StablySorted fields sorted ↔ sorted = sortFields fields := by
  constructor
  · rintro ⟨ordered, stable⟩
    obtain ⟨ownOrdered, ownStable⟩ := stablySorted_sortFields fields
    simp only [Text.octetsBefore_iff] at ordered ownOrdered
    exact eq_of_withKey_eq ordered ownOrdered fun key => (stable key).trans (ownStable key).symm
  · rintro rfl
    exact stablySorted_sortFields fields

/-- Fields are sorted alike exactly where those of each key are the same in their order. -/
theorem sortFields_eq_iff :
    sortFields fields = sortFields other ↔ ∀ key, withKey key fields = withKey key other := by
  constructor
  · intro same key
    rw [← (stablySorted_sortFields fields).stable, same, (stablySorted_sortFields other).stable]
  · intro same
    refine stablySorted_iff.mp ⟨(stablySorted_sortFields fields).ordered, fun key => ?_⟩
    exact ((stablySorted_sortFields fields).stable key).trans (same key)

/-- Where no two fields have one key, their order does not count. -/
theorem sortFields_eq_of_perm (permuted : fields.Perm other)
    (distinct : (fields.map Prod.fst).Nodup) : sortFields fields = sortFields other := by
  refine sortFields_eq_iff.mpr fun key => ?_
  have alike : (withKey key fields).Perm (withKey key other) := permuted.filter _
  have atMostOne : ((withKey key fields).map Prod.fst).Nodup :=
    distinct.sublist (List.filter_sublist.map Prod.fst)
  have ofKey : ∀ field ∈ withKey key fields, field.1 = key := fun field inside =>
    beq_iff_eq.mp (List.mem_filter.mp inside).2
  match found : withKey key fields with
  | [] => exact (List.nil_perm.mp (found ▸ alike)).symm
  | [field] => exact (List.perm_singleton.mp (found ▸ alike).symm).symm
  | first :: second :: rest =>
    rw [found] at atMostOne ofKey
    have same : first.1 = second.1 :=
      (ofKey first List.mem_cons_self).trans
        (ofKey second (List.mem_cons_of_mem first List.mem_cons_self)).symm
    exact absurd (same ▸ List.mem_cons_self) (List.nodup_cons.mp atMostOne).1

end LogEntry

end Gateway
