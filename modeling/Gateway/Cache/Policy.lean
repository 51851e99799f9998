/-
This file defines cache policies: not to cache at all, or for how long, in seconds, for every cache
and for shared ones. Two policies merge into the most restrictive one: not caching wins, and of two
ages the shorter one. A policy on one side only is taken as it is.
-/

import Gateway.Json.Shape

namespace Gateway

/-- What a result says about caching it. -/
structure CachePolicy where
  noCache : Bool := false
  maxAge : Option Int64 := none
  sharedMaxAge : Option Int64 := none
  deriving DecidableEq, Inhabited

namespace CachePolicy

/-- The policy that forbids caching. -/
def forbidden : CachePolicy := { noCache := true }

/-- Whether the policy says nothing. -/
def isEmpty (policy : CachePolicy) : Bool :=
  !policy.noCache && policy.maxAge.isNone && policy.sharedMaxAge.isNone

/-- The policy, unless it says nothing. -/
def nonempty? (policy : CachePolicy) : Option CachePolicy :=
  if policy.isEmpty then none else some policy

/-- The policy of two ages, where at least one is there. -/
def ofAges? (maxAge sharedMaxAge : Option Int64) : Option CachePolicy :=
  nonempty? { maxAge, sharedMaxAge }

/-! ### Merging -/

/-- The shorter of two ages, or the one that is there. -/
def shorter : Option Int64 → Option Int64 → Option Int64
  | some first, some second => some (min first second)
  | some first, none => some first
  | none, second => second

/-- The most restrictive of two policies. -/
def restrict (first second : CachePolicy) : CachePolicy :=
  if first.noCache || second.noCache then forbidden
  else
    { maxAge := shorter first.maxAge second.maxAge
      sharedMaxAge := shorter first.sharedMaxAge second.sharedMaxAge }

/-- The policy of a header and that of the defaults, where either may be missing. -/
def merge : Option CachePolicy → Option CachePolicy → CachePolicy
  | some header, some defaults => restrict header defaults
  | some policy, none => policy
  | none, some policy => policy
  | none, none => {}

/-! ### The wire -/

/-- The policy as JSON. What it does not say is left out. -/
def toJson (policy : CachePolicy) : Json :=
  .object
    ((if policy.noCache then [("noCache", .bool true)] else []) ++
      (policy.maxAge.map fun age => ("maxAge", Json.ofInt64 age)).toList ++
      (policy.sharedMaxAge.map fun age => ("sMaxAge", Json.ofInt64 age)).toList)

/-- The shape of a policy. -/
def shape : RecordShape := ⟨"ResourceCacheControl", ["noCache", "maxAge", "sMaxAge"], []⟩

/-- Sets one part of the policy by its member. -/
def set (policy : CachePolicy) (field : String) (value : Json) : Decoded CachePolicy := do
  match field with
  | "noCache" => return { policy with noCache := ← value.decodeBool }
  | "maxAge" => return { policy with maxAge := ← Json.decodeOption Json.decodeInt64 value }
  | "sMaxAge" => return { policy with sharedMaxAge := ← Json.decodeOption Json.decodeInt64 value }
  | _ => return policy

/-- The policy that a JSON value writes. -/
def decode (value : Json) : Decoded CachePolicy :=
  shape.decode {} set value

/-- The text of an age for diagnostics. -/
def dumpAge (age : Option Int64) : String :=
  Text.Dump.option (age.map fun seconds => String.ofList (Decimal.integerText seconds.toInt))

/-- The text for diagnostics. -/
def dump (policy : CachePolicy) : String :=
  Text.Dump.record "ResourceCacheControl"
    [("no_cache", Text.Dump.bool policy.noCache), ("max_age", dumpAge policy.maxAge),
      ("s_max_age", dumpAge policy.sharedMaxAge)]

end CachePolicy

end Gateway
