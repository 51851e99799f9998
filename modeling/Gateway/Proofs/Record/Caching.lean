/-
This file says what the cache policy of an answered call is, from the header, the statement and the
configuration to the record. A header that holds the word against caching anywhere forbids it, and
nothing else counts then. Otherwise each age has two sources, on its own: the header, and the
directive that counts, which is the statement's if it is an integer of 64 bits with a sign, or else
the configured one if that is. The shorter age of the two is kept. A directive that is no such
integer is passed over, so it never stands in the way of the configured one.
-/

import Gateway.Proofs.Cache.Header
import Gateway.Record.Assembly
import Mathlib.Order.Bounds.Defs

namespace Gateway

/-! ### The directive that counts -/

/-- A value is read as an integer exactly where it is the number of one that fits. -/
theorem Json.asInt64?_eq_some_iff {value : Json} {seconds : Int64} :
    value.asInt64? = some seconds ↔ value = .ofInt64 seconds := by
  constructor
  · intro read
    unfold asInt64? at read
    split at read
    · next number fits =>
      split at read
      · next bounds =>
        cases read
        have same := Int64.toInt_ofInt_of_le bounds.1 bounds.2
        simp only [ofInt64, same]
      · cases read
    · cases read
  · rintro rfl
    exact asInt64?_ofInt64 seconds

/-- The age that the directives of a statement and of the configuration come to: the statement's
where it is an integer that fits, the configured one where only that is, and none elsewhere. -/
inductive Directives.Counts : Option Json → Option Json → Option Int64 → Prop
  | own (seconds : Int64) (configured : Option Json) :
    Counts (some (.ofInt64 seconds)) configured (some seconds)
  | configured {own : Option Json} (unfit : ∀ seconds, own ≠ some (.ofInt64 seconds))
    (seconds : Int64) : Counts own (some (.ofInt64 seconds)) (some seconds)
  | neither {own configured : Option Json} (unfit : ∀ seconds, own ≠ some (.ofInt64 seconds))
    (unfitConfigured : ∀ seconds, configured ≠ some (.ofInt64 seconds)) :
    Counts own configured none

namespace CallOptions

open Directives (Counts)

theorem directiveOr_of_unfit {own : Option Json} (unfit : ∀ seconds, own ≠ some (.ofInt64 seconds))
    (configured : Option Json) : directiveOr own configured = configured := by
  cases own with
  | none => rfl
  | some value =>
    rw [directiveOr]
    refine if_neg fun read => ?_
    obtain ⟨seconds, found⟩ := Option.isSome_iff_exists.mp read
    exact unfit seconds (congrArg some (Json.asInt64?_eq_some_iff.mp found))

theorem bind_asInt64?_of_unfit {directive : Option Json}
    (unfit : ∀ seconds, directive ≠ some (.ofInt64 seconds)) :
    directive.bind Json.asInt64? = none := by
  refine Option.eq_none_iff_forall_ne_some.mpr fun seconds read => ?_
  obtain ⟨value, rfl, found⟩ := Option.bind_eq_some_iff.mp read
  exact unfit seconds (congrArg some (Json.asInt64?_eq_some_iff.mp found))

/-- The directive that is chosen writes the age that counts. -/
theorem bind_directiveOr {own configured : Option Json} {age : Option Int64}
    (counts : Counts own configured age) :
    (directiveOr own configured).bind Json.asInt64? = age := by
  cases counts with
  | own seconds => simp [directiveOr]
  | configured unfit seconds => simp [directiveOr_of_unfit unfit]
  | neither unfit unfitConfigured =>
    rw [directiveOr_of_unfit unfit, bind_asInt64?_of_unfit unfitConfigured]

end CallOptions

/-! ### Words in a header -/

namespace CacheHeader

/-- The header is there, and holds the word against caching. -/
def Forbids (header : Option String) : Prop :=
  ∃ text, header = some text ∧ "no-cache".toList <:+: text.toList

theorem policy?_of_forbids {header : Option String} (forbids : Forbids header) :
    header.bind policy? = some .forbidden := by
  obtain ⟨text, rfl, word⟩ := forbids
  exact policy?_of_occurs word

/-- A header that does not forbid caching says nothing but ages. -/
theorem exists_ages_of_not_forbids {header : Option String} (allows : ¬ Forbids header) :
    ∃ maxAge sharedMaxAge, header.bind policy? = CachePolicy.ofAges? maxAge sharedMaxAge := by
  cases header with
  | none => exact ⟨none, none, rfl⟩
  | some text => exact ⟨_, _, policy?_of_not_occurs fun word => allows ⟨text, rfl, word⟩⟩

end CacheHeader

/-! ### Merging -/

namespace CachePolicy

open CacheHeader (Forbids)

/-- Of two ages that may be there the least one is kept, and none where there is none. -/
def KeptAge (first second kept : Option Int64) : Prop :=
  ∀ seconds, kept = some seconds ↔ IsLeast {age | first = some age ∨ second = some age} seconds

theorem keptAge_shorter (first second : Option Int64) :
    KeptAge first second (shorter first second) := by
  intro seconds
  show _ ↔ (first = some seconds ∨ second = some seconds) ∧
    ∀ ⦃age⦄, first = some age ∨ second = some age → seconds ≤ age
  cases first with
  | none =>
    cases second with
    | none => simp [shorter]
    | some own => simpa [shorter] using fun same : own = seconds => Int64.le_of_eq same.symm
  | some one =>
    cases second with
    | none => simpa [shorter] using fun same : one = seconds => Int64.le_of_eq same.symm
    | some other =>
      simp only [shorter, Option.some.injEq]
      constructor
      · rintro rfl
        refine ⟨Std.min_eq_or.imp Eq.symm Eq.symm, ?_⟩
        rintro age (rfl | rfl)
        · exact Std.min_le_left
        · exact Std.min_le_right
      · rintro ⟨chosen, least⟩
        refine Int64.le_antisymm ?_ (Std.le_min_iff.mpr ⟨least (Or.inl rfl), least (Or.inr rfl)⟩)
        rcases chosen with rfl | rfl
        · exact Std.min_le_left
        · exact Std.min_le_right

theorem bind_maxAge_ofAges? (maxAge sharedMaxAge : Option Int64) :
    (ofAges? maxAge sharedMaxAge).bind CachePolicy.maxAge = maxAge := by
  cases maxAge <;> cases sharedMaxAge <;> rfl

theorem bind_sharedMaxAge_ofAges? (maxAge sharedMaxAge : Option Int64) :
    (ofAges? maxAge sharedMaxAge).bind CachePolicy.sharedMaxAge = sharedMaxAge := by
  cases maxAge <;> cases sharedMaxAge <;> rfl

theorem merge_forbidden (defaults : Option CachePolicy) :
    merge (some forbidden) defaults = forbidden := by
  cases defaults <;> rfl

/-- Ages are merged each on its own. -/
theorem merge_ofAges? (maxAge sharedMaxAge ownMaxAge ownSharedMaxAge : Option Int64) :
    merge (ofAges? maxAge sharedMaxAge) (ofAges? ownMaxAge ownSharedMaxAge) =
      { maxAge := shorter maxAge ownMaxAge
        sharedMaxAge := shorter sharedMaxAge ownSharedMaxAge } := by
  cases maxAge <;> cases sharedMaxAge <;> cases ownMaxAge <;> cases ownSharedMaxAge <;> rfl

/-- The policy that a header and the ages of the directives that count come to. -/
structure Settled (header : Option String) (maxAge sharedMaxAge : Option Int64)
    (policy : CachePolicy) : Prop where
  forbidden : Forbids header → policy = { noCache := true }
  allowed : ¬ Forbids header → policy.noCache = false
  maxAge : ¬ Forbids header →
    KeptAge ((header.bind CacheHeader.policy?).bind CachePolicy.maxAge) maxAge policy.maxAge
  sharedMaxAge : ¬ Forbids header →
    KeptAge ((header.bind CacheHeader.policy?).bind CachePolicy.sharedMaxAge) sharedMaxAge
      policy.sharedMaxAge
  ageless : policy.noCache = true → policy.maxAge = none ∧ policy.sharedMaxAge = none

theorem settled_merge (header : Option String) (maxAge sharedMaxAge : Option Int64) :
    Settled header maxAge sharedMaxAge
      (merge (header.bind CacheHeader.policy?) (ofAges? maxAge sharedMaxAge)) := by
  by_cases forbids : Forbids header
  · rw [CacheHeader.policy?_of_forbids forbids, merge_forbidden]
    exact {
      forbidden := fun _ => rfl
      allowed := fun allows => absurd forbids allows
      maxAge := fun allows => absurd forbids allows
      sharedMaxAge := fun allows => absurd forbids allows
      ageless := fun _ => ⟨rfl, rfl⟩ }
  · obtain ⟨headerMaxAge, headerSharedMaxAge, ages⟩ :=
      CacheHeader.exists_ages_of_not_forbids forbids
    have merged : merge (header.bind CacheHeader.policy?) (ofAges? maxAge sharedMaxAge) =
        { maxAge := shorter headerMaxAge maxAge
          sharedMaxAge := shorter headerSharedMaxAge sharedMaxAge } := by
      rw [ages, merge_ofAges?]
    rw [merged]
    refine {
      forbidden := fun isForbidden => absurd isForbidden forbids
      allowed := fun _ => rfl
      maxAge := fun _ => ?_
      sharedMaxAge := fun _ => ?_
      ageless := fun noCache => absurd noCache Bool.false_ne_true }
    · rw [ages, bind_maxAge_ofAges?]
      exact keptAge_shorter headerMaxAge maxAge
    · rw [ages, bind_sharedMaxAge_ofAges?]
      exact keptAge_shorter headerSharedMaxAge sharedMaxAge

end CachePolicy

/-! ### The header of a response -/

namespace Response

variable {response : Response} {name : String}

/-- No two headers of the response have the name. -/
def NamesOnce (response : Response) (name : String) : Prop :=
  ∀ first ∈ response.headers, ∀ second ∈ response.headers,
    sameName first.1 name → sameName second.1 name → first = second

/-- The value of the header with the name, if there is such a header. -/
inductive Carries (response : Response) (name : String) : Option String → Prop
  | present {own value : String} (same : sameName own name)
    (inside : (own, value) ∈ response.headers) : Carries response name (some value)
  | absent (other : ∀ header ∈ response.headers, ¬ sameName header.1 name) :
    Carries response name none

/-- The header that a look-up finds is the one of the name. -/
theorem header_eq_of_carries {header : Option String} (once : response.NamesOnce name)
    (carries : response.Carries name header) : response.header name = header := by
  rw [Response.header, lookUp]
  cases carries with
  | absent other => rw [List.find?_eq_none.mpr other, Option.map_none]
  | @present own value same inside =>
    cases found : response.headers.find? fun header => sameName header.1 name with
    | none => exact absurd same (List.find?_eq_none.mp found (own, value) inside)
    | some header =>
      have isSame : sameName header.1 name := by simpa using List.find?_some found
      rw [once header (List.mem_of_find?_eq_some found) (own, value) inside isSame same,
        Option.map_some]

end Response

/-! ### The policy of a record -/

namespace Record

open Directives (Counts)

variable {statement : Statement} {config : Config} {maxAge sharedMaxAge : Option Int64}

/-- The policy of an answered call is settled by the header that a look-up finds and by the
directives that count. -/
theorem settled_ofResponse
    (counts : Counts statement.directives.maxAge config.defaults.maxAge maxAge)
    (sharedCounts :
      Counts statement.directives.sharedMaxAge config.defaults.sharedMaxAge sharedMaxAge)
    (debugRequested : Bool) (request : Request) (response : Response) :
    CachePolicy.Settled (response.header cacheControlHeader) maxAge sharedMaxAge
      (ofResponse request response
        (.resolve statement config debugRequested)).value.details.cachePolicy := by
  have asked : (CallOptions.resolve statement config debugRequested).cachePolicy? =
      CachePolicy.ofAges? maxAge sharedMaxAge := by
    rw [← CallOptions.bind_directiveOr counts, ← CallOptions.bind_directiveOr sharedCounts]
    rfl
  rw [ofResponse, asked]
  exact CachePolicy.settled_merge _ maxAge sharedMaxAge

/-- The cache policy of an answered call, for any request and whether or not debug output is asked
for. Where the header for caching holds the word against it, the policy forbids caching and names no
age. Elsewhere each age is the least of what the header gives and of the directive that counts. -/
theorem cachePolicy_ofResponse (debugRequested : Bool) (request : Request) {response : Response}
    {header : Option String} (once : response.NamesOnce "Cache-Control")
    (carries : response.Carries "Cache-Control" header)
    (counts : Counts statement.directives.maxAge config.defaults.maxAge maxAge)
    (sharedCounts :
      Counts statement.directives.sharedMaxAge config.defaults.sharedMaxAge sharedMaxAge) :
    CachePolicy.Settled header maxAge sharedMaxAge
      (ofResponse request response
        (.resolve statement config debugRequested)).value.details.cachePolicy := by
  have found : response.header cacheControlHeader = header :=
    Response.header_eq_of_carries once carries
  exact found ▸ settled_ofResponse counts sharedCounts debugRequested request response

/-- A statement with a directive that is no integer, and one that is below zero. -/
def heroStatement : Statement :=
  { resource := "heroes"
    directives := { maxAge := some (.text "60"), sharedMaxAge := some (.ofInt64 (-5)) } }

/-- A configuration with both directives. -/
def heroConfig : Config :=
  { defaults := { maxAge := some (.ofInt64 300), sharedMaxAge := some (.ofInt64 10) } }

/-- A response whose header for caching is not written in the usual case. -/
def heroResponse : Response :=
  { status := 200
    headers := [("ETag", "x"), ("cache-control", "public, max-age=600, s-maxage=60")] }

theorem cachePolicy_ofResponse_hero :
    heroResponse.NamesOnce "Cache-Control" ∧
      heroResponse.Carries "Cache-Control" (some "public, max-age=600, s-maxage=60") ∧
      Counts heroStatement.directives.maxAge heroConfig.defaults.maxAge (some 300) ∧
      Counts heroStatement.directives.sharedMaxAge heroConfig.defaults.sharedMaxAge (some (-5)) ∧
      CachePolicy.Settled (some "public, max-age=600, s-maxage=60") (some 300) (some (-5))
        (ofResponse {} heroResponse
          (.resolve heroStatement heroConfig true)).value.details.cachePolicy := by
  have once : heroResponse.NamesOnce "Cache-Control" := by
    unfold Response.NamesOnce
    decide
  have carries :
      heroResponse.Carries "Cache-Control" (some "public, max-age=600, s-maxage=60") := by
    refine .present (show Response.sameName "cache-control" "Cache-Control" from ?_) ?_
    · decide
    · decide
  have counts : Counts (some (.text "60")) (some (.ofInt64 300)) (some 300) :=
    .configured (fun seconds => by simp [Json.ofInt64]) 300
  have sharedCounts : Counts (some (.ofInt64 (-5))) (some (.ofInt64 10)) (some (-5)) :=
    .own (-5) _
  exact ⟨once, carries, counts, sharedCounts,
    cachePolicy_ofResponse true {} once carries counts sharedCounts⟩

end Record

end Gateway
