/-
This file says when the order in which headers are visited shows in an answer. A look-up takes the
first header of a name and does not care for the case of letters, so of names that differ in case
alone the order decides. The answer is the same in every order exactly if all headers of the name
give it: their values for a look-up, and for a record what they leave of the policy of the options.
So no order shows where no two names differ in case alone, and where two do it can decide whether
caching is forbidden at all.
-/

import Gateway.Proofs.Record.Caching
import Mathlib.Data.List.Nodup

namespace Gateway

namespace Response

/-- The response with its headers visited in the given order. -/
def visiting (response : Response) (order : List (String × String)) : Response :=
  { response with headers := order }

/-- Every two orders of the headers give the same answer. -/
def OrderFree {α : Type} (response : Response) (answer : Response → α) : Prop :=
  ∀ first second : List (String × String), first.Perm response.headers →
    second.Perm response.headers → answer (response.visiting first) =
      answer (response.visiting second)

/-- All values that the response has for the name give the same answer. -/
def AllAgree {α : Type} (response : Response) (name : String) (answer : Option String → α) :
    Prop :=
  ∀ value other, response.Carries name (some value) → response.Carries name (some other) →
    answer (some value) = answer (some other)

variable {response : Response} {name : String}

/-- What a look-up finds is a header of the name, and it finds one if there is any. -/
theorem carries_header (response : Response) (name : String) :
    response.Carries name (response.header name) := by
  rw [header, lookUp]
  cases found : response.headers.find? fun header => sameName header.1 name with
  | none => exact .absent (by simpa using List.find?_eq_none.mp found)
  | some own =>
    have same : sameName own.1 name := by simpa using List.find?_some found
    exact .present same (List.mem_of_find?_eq_some found)

/-- The headers of a name are the same in every order. -/
theorem Carries.of_visiting {order : List (String × String)} {header : Option String}
    (permuted : order.Perm response.headers)
    (carries : (response.visiting order).Carries name header) : response.Carries name header := by
  cases carries with
  | present same inside => exact .present same (permuted.mem_iff.mp inside)
  | absent other => exact .absent fun own inside => other own (permuted.mem_iff.mpr inside)

/-- Every header of the name is the one that is found in some order. -/
theorem exists_order_of_carries {value : String} (carries : response.Carries name (some value)) :
    ∃ order : List (String × String), order.Perm response.headers ∧
      (response.visiting order).header name = some value := by
  cases carries with
  | @present own _ same inside =>
    obtain ⟨before, after, split⟩ := List.append_of_mem inside
    refine ⟨(own, value) :: (before ++ after), ?_, ?_⟩
    · rw [split]
      exact List.perm_middle.symm
    · show (List.find? (fun header => sameName header.1 name) ((own, value) :: _)).map Prod.snd = _
      rw [List.find?_cons_of_pos (by exact same), Option.map_some]

/-- An answer that is made of what a look-up finds does not depend on the order exactly where all
headers of the name give the same. -/
theorem orderFree_header_iff {α : Type} (response : Response) (name : String)
    (answer : Option String → α) :
    (response.OrderFree fun visited => answer (visited.header name)) ↔
      response.AllAgree name answer := by
  constructor
  · intro free value other carries carriesOther
    obtain ⟨first, firstPermuted, found⟩ := exists_order_of_carries carries
    obtain ⟨second, secondPermuted, foundOther⟩ := exists_order_of_carries carriesOther
    have same := free first second firstPermuted secondPermuted
    simpa only [found, foundOther] using same
  · intro agree first second firstPermuted secondPermuted
    have carries := (carries_header (response.visiting first) name).of_visiting firstPermuted
    have carriesOther := (carries_header (response.visiting second) name).of_visiting secondPermuted
    show answer ((response.visiting first).header name) =
      answer ((response.visiting second).header name)
    generalize (response.visiting first).header name = header at carries
    generalize (response.visiting second).header name = headerOther at carriesOther
    cases carries with
    | absent other =>
      cases carriesOther with
      | absent => rfl
      | present same inside => exact absurd same (other _ inside)
    | present same inside =>
      cases carriesOther with
      | absent other => exact absurd same (other _ inside)
      | present sameOther insideOther =>
        exact agree _ _ (.present same inside) (.present sameOther insideOther)

theorem namesOnce_of_nodup
    (distinct : (response.headers.map fun header => header.1.toList.map Char.toLower).Nodup)
    (name : String) : response.NamesOnce name := by
  intro first inFirst second inSecond same sameOther
  refine List.inj_on_of_nodup_map distinct inFirst inSecond ?_
  exact (beq_iff_eq.mp same).trans (beq_iff_eq.mp sameOther).symm

/-- Headers whose names differ in more than case agree on every answer. -/
theorem agree_of_namesOnce {α : Type} (once : response.NamesOnce name)
    (answer : Option String → α) : response.AllAgree name answer := by
  intro value other carries carriesOther
  cases carries with
  | present same inside =>
    cases carriesOther with
    | present sameOther insideOther =>
      obtain ⟨-, rfl⟩ := Prod.mk.inj (once _ inside _ insideOther same sameOther)
      rfl

end Response

namespace Record

open Response (AllAgree OrderFree)

/-- Where the order of the headers does not show. A look-up, the policy of the headers and that of a
record are each the same in every order exactly if all headers of the name come to the same there;
so they are all the same where no two headers have the name. -/
theorem orderFree_iff (response : Response) :
    (∀ name, response.OrderFree (·.header name) ↔ response.AllAgree name id) ∧
    (response.OrderFree responsePolicy? ↔
      response.AllAgree "Cache-Control" (·.bind CacheHeader.policy?)) ∧
    (∀ request options,
      (response.OrderFree fun visited =>
        (ofResponse request visited options).value.details.cachePolicy) ↔
      response.AllAgree "Cache-Control" fun header =>
        CachePolicy.merge (header.bind CacheHeader.policy?) options.cachePolicy?) ∧
    ((∀ name, response.NamesOnce name) →
      (∀ name, response.OrderFree (·.header name)) ∧ response.OrderFree responsePolicy? ∧
        ∀ request options, response.OrderFree fun visited =>
          (ofResponse request visited options).value.details.cachePolicy) := by
  have header (name : String) : response.OrderFree (·.header name) ↔ response.AllAgree name id :=
    Response.orderFree_header_iff response name id
  have policy : response.OrderFree responsePolicy? ↔
      response.AllAgree "Cache-Control" (·.bind CacheHeader.policy?) :=
    Response.orderFree_header_iff response cacheControlHeader (·.bind CacheHeader.policy?)
  have record (request : Request) (options : CallOptions) :
      (response.OrderFree fun visited =>
        (ofResponse request visited options).value.details.cachePolicy) ↔
      response.AllAgree "Cache-Control" fun header =>
        CachePolicy.merge (header.bind CacheHeader.policy?) options.cachePolicy? :=
    Response.orderFree_header_iff response cacheControlHeader fun header =>
      CachePolicy.merge (header.bind CacheHeader.policy?) options.cachePolicy?
  refine ⟨header, policy, record, fun once => ?_⟩
  have agree (name : String) {α : Type} (answer : Option String → α) :
      response.AllAgree name answer :=
    Response.agree_of_namesOnce (once name) answer
  exact ⟨fun name => (header name).mpr (agree name id), policy.mpr (agree _ _),
    fun request options => (record request options).mpr (agree _ _)⟩

theorem orderFree_iff_hero :
    (∀ name, heroResponse.NamesOnce name) ∧ (∀ name, heroResponse.OrderFree (·.header name)) ∧
      heroResponse.OrderFree responsePolicy? ∧
      ∀ request options, heroResponse.OrderFree fun visited =>
        (ofResponse request visited options).value.details.cachePolicy := by
  have once : ∀ name, heroResponse.NamesOnce name := Response.namesOnce_of_nodup (by decide)
  obtain ⟨-, -, -, free⟩ := orderFree_iff heroResponse
  exact ⟨once, free once⟩

/-- A response with two headers whose names differ in case alone. -/
def spelledResponse : Response :=
  { status := 200
    headers := [("Cache-Control", "max-age=60"), ("cache-control", "no-cache")] }

/-- Of two names that differ in case alone the one that is visited first decides, here whether
caching is forbidden. -/
theorem not_orderFree_spelledResponse :
    (spelledResponse.headers.map Prod.fst).Nodup ∧
      ¬ spelledResponse.OrderFree (·.header "Cache-Control") ∧
      ¬ spelledResponse.OrderFree responsePolicy? ∧
      ¬ spelledResponse.OrderFree fun visited =>
        (ofResponse {} visited {}).value.details.cachePolicy := by
  have turned : spelledResponse.headers.reverse.Perm spelledResponse.headers :=
    List.reverse_perm _
  refine ⟨by decide, fun free => ?_, fun free => ?_, fun free => ?_⟩
  · exact absurd (free _ _ turned (List.Perm.refl _)) (by decide)
  · exact absurd (free _ _ turned (List.Perm.refl _)) (by decide)
  · exact absurd (free _ _ turned (List.Perm.refl _)) (by decide)

end Record

end Gateway
