/-
This file holds what computations that may fail have in common. Each of them ends in a result or in
the first fault that it meets: it goes on with a result, over the elements of a list one after the
other, and stops at a fault, which depends on no step behind it.
-/

import Gateway.Filter.Fault
import Mathlib.Data.List.Forall2

namespace Gateway

variable {α β γ ε : Type}

/-! ### Element by element -/

theorem findSome?_congr {elements : List α} {first second : α → Option β}
    (same : ∀ element ∈ elements, first element = second element) :
    elements.findSome? first = elements.findSome? second := by
  induction elements with
  | nil => rfl
  | cons element rest inductionHypothesis =>
    obtain ⟨here, further⟩ := List.forall_mem_cons.mp same
    rw [List.findSome?_cons, List.findSome?_cons, here, inductionHypothesis further]

theorem findSome?_flatMap (elements : List α) (parts : α → List β) (find : β → Option γ) :
    (elements.flatMap parts).findSome? find =
      elements.findSome? fun element => (parts element).findSome? find := by
  induction elements with
  | nil => rfl
  | cons element rest inductionHypothesis =>
    rw [List.flatMap_cons, List.findSome?_append, List.findSome?_cons, inductionHypothesis]
    cases (parts element).findSome? find <;> rfl

theorem exists_mem_of_forall₂ {relation : α → β → Prop} {elements : List α} {images : List β}
    (each : List.Forall₂ relation elements images) {element : α} (inside : element ∈ elements) :
    ∃ image ∈ images, relation element image := by
  induction each with
  | nil => cases inside
  | cons first _ inductionHypothesis =>
    rcases List.mem_cons.mp inside with rfl | inRest
    · exact ⟨_, List.mem_cons_self, first⟩
    · obtain ⟨image, isImage, related⟩ := inductionHypothesis inRest
      exact ⟨image, List.mem_cons_of_mem _ isImage, related⟩

theorem forall₂_flip_of_mem {relation : α → β → Prop} {other : β → α → Prop} {elements : List α}
    {images : List β}
    (turned : ∀ element ∈ elements, ∀ image, relation element image → other image element)
    (each : List.Forall₂ relation elements images) : List.Forall₂ other images elements := by
  induction each with
  | nil => exact .nil
  | cons first _ inductionHypothesis =>
    obtain ⟨here, further⟩ := List.forall_mem_cons.mp turned
    exact .cons (here _ first) (inductionHypothesis further)

/-- Where each image is an image of itself, so is the list of them. -/
theorem forall₂_again {relation : α → α → Prop} {elements images : List α}
    (again : ∀ element ∈ elements, ∀ image, relation element image → relation image image)
    (each : List.Forall₂ relation elements images) : List.Forall₂ relation images images := by
  induction each with
  | nil => exact .nil
  | cons first _ inductionHypothesis =>
    obtain ⟨here, further⟩ := List.forall_mem_cons.mp again
    exact .cons (here _ first) (inductionHypothesis further)

/-- Lists are equal where their elements are, one by one. -/
theorem beq_iff_forall₂ [BEq α] {first second : List α} :
    first == second ↔ List.Forall₂ (fun one other => one == other) first second := by
  induction first generalizing second with
  | nil => cases second <;> simp
  | cons element rest inductionHypothesis =>
    cases second with
    | nil => simp
    | cons other others =>
      rw [List.cons_beq_cons, Bool.and_eq_true, List.forall₂_cons, inductionHypothesis]

/-! ### Results -/

/-- A mapped computation comes to a result where the computation does. -/
theorem map_eq_ok_iff {computed : Except ε α} {build : α → β} {image : β} :
    computed.map build = .ok image ↔ ∃ result, image = build result ∧ computed = .ok result := by
  cases computed with
  | error fault => simp [Except.map]
  | ok result => simp [Except.map, eq_comm]

theorem bind_eq_ok_iff {computed : Except ε α} {next : α → Except ε β} {image : β} :
    computed.bind next = .ok image ↔ ∃ result, computed = .ok result ∧ next result = .ok image := by
  cases computed with
  | error fault => simp [Except.bind]
  | ok result => simp [Except.bind]

/-- The elements of a list come to the results that they come to one by one. -/
theorem mapM_eq_ok_iff {each : α → Except ε β} {elements : List α} {images : List β} :
    elements.mapM each = .ok images ↔
      List.Forall₂ (fun element image => each element = .ok image) elements images := by
  induction elements generalizing images with
  | nil =>
    rw [List.mapM_nil, List.forall₂_nil_left_iff]
    exact ⟨fun done => (Except.ok.inj done).symm, fun same => congrArg Except.ok same.symm⟩
  | cons element rest inductionHypothesis =>
    rw [List.mapM_cons, List.forall₂_cons_left_iff]
    refine bind_eq_ok_iff.trans (exists_congr fun image => ?_)
    constructor
    · rintro ⟨first, remaining⟩
      obtain ⟨others, done, same⟩ := bind_eq_ok_iff.mp remaining
      exact ⟨others, first, inductionHypothesis.mp done, (Except.ok.inj same).symm⟩
    · rintro ⟨others, first, remaining, rfl⟩
      exact ⟨first, bind_eq_ok_iff.mpr ⟨others, inductionHypothesis.mpr remaining, rfl⟩⟩

theorem exists_mem_of_mapM {each : α → Except ε β} {elements : List α} {images : List β}
    (done : elements.mapM each = .ok images) {image : β} (inside : image ∈ images) :
    ∃ element ∈ elements, each element = .ok image :=
  exists_mem_of_forall₂ (mapM_eq_ok_iff.mp done).flip inside

/-- Lists whose elements come to the same one by one come to the same. -/
theorem mapM_eq_of_forall₂ {each : α → Except ε γ} {twin : β → Except ε γ} {first : List α}
    {second : List β} (same : List.Forall₂ (fun one other => each one = twin other) first second) :
    first.mapM each = second.mapM twin := by
  induction same with
  | nil => rfl
  | cons here _ inductionHypothesis =>
    rw [List.mapM_cons, List.mapM_cons, here, inductionHypothesis]

/-- What each step preserves holds at the end of a fold, if it holds at its start. -/
theorem foldlM_preserves {holds : α → Prop} {step : α → β → Except ε α} {parts : List β}
    (preserved : ∀ part ∈ parts, ∀ before after, holds before → step before part = .ok after →
      holds after) {start result : α} (initial : holds start)
    (done : parts.foldlM step start = .ok result) : holds result := by
  induction parts generalizing start with
  | nil => exact Except.ok.inj done ▸ initial
  | cons part rest inductionHypothesis =>
    obtain ⟨here, further⟩ := List.forall_mem_cons.mp preserved
    rw [List.foldlM_cons] at done
    obtain ⟨next, first, remaining⟩ := bind_eq_ok_iff.mp done
    exact inductionHypothesis further (here start next initial first) remaining

/-- What one of the steps of a fold establishes, and each of them preserves, holds at the end. -/
theorem foldlM_establishes {holds : α → Prop} {step : α → β → Except ε α} {parts : List β}
    {part : β} (inside : part ∈ parts)
    (established : ∀ before after, step before part = .ok after → holds after)
    (preserved : ∀ part ∈ parts, ∀ before after, holds before → step before part = .ok after →
      holds after) {start result : α} (done : parts.foldlM step start = .ok result) :
    holds result := by
  induction parts generalizing start with
  | nil => cases inside
  | cons first rest inductionHypothesis =>
    obtain ⟨-, further⟩ := List.forall_mem_cons.mp preserved
    rw [List.foldlM_cons] at done
    obtain ⟨next, here, remaining⟩ := bind_eq_ok_iff.mp done
    rcases List.mem_cons.mp inside with rfl | inRest
    · exact foldlM_preserves further (established start next here) remaining
    · exact inductionHypothesis inRest further remaining

/-! ### Faults -/

namespace Fault

/-- The fault that a computation ends in, if it does. -/
def of? : Except Fault α → Option Fault
  | .ok _ => none
  | .error fault => some fault

theorem of?_eq_none_iff {computed : Except Fault α} :
    of? computed = none ↔ ∃ result, computed = .ok result := by
  cases computed <;> simp [of?]

theorem of?_eq_some_iff {computed : Except Fault α} {fault : Fault} :
    of? computed = some fault ↔ computed = .error fault := by
  cases computed <;> simp [of?]

@[simp] theorem of?_map (computed : Except Fault α) (build : α → β) :
    of? (computed.map build) = of? computed := by
  cases computed <;> rfl

/-- Where what comes next ends alike for every result, the first fault is that of the computation,
or else the one that comes next. -/
theorem of?_bind {computed : Except Fault α} {next : α → Except Fault β} {later : Option Fault}
    (alike : ∀ result, of? (next result) = later) :
    of? (computed.bind next) = (of? computed).or later := by
  cases computed with
  | error fault => rfl
  | ok result => exact alike result

/-- The fault of a list is that of its first element with one. -/
theorem of?_mapM (each : α → Except Fault β) (elements : List α) :
    of? (elements.mapM each) = elements.findSome? fun element => of? (each element) := by
  induction elements with
  | nil => rfl
  | cons element rest inductionHypothesis =>
    rw [List.mapM_cons, List.findSome?_cons, ← inductionHypothesis]
    have alike : ∀ image, of? ((rest.mapM each).map (image :: ·)) = of? (rest.mapM each) :=
      fun image => of?_map _ _
    refine (of?_bind alike).trans ?_
    cases of? (each element) <;> rfl

end Fault

end Gateway
