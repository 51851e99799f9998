/-
This file settles the options of a call. A cache directive of the statement counts when it is a
signed integer of 64 bits; any other one gives way to the configured default, whatever that is.
Debug output needs a query that asks for it and a configuration that allows it.
-/

import Gateway.Cache.Policy
import Gateway.Config

namespace Gateway

/-- The options of a call. -/
structure CallOptions where
  debugging : Bool := false
  ignoreErrors : Bool := false
  maxAge : Option Json := none
  sharedMaxAge : Option Json := none

namespace CallOptions

/-- The directive when it is an integer, and the default otherwise. -/
def directiveOr (directive fallback : Option Json) : Option Json :=
  match directive with
  | none => fallback
  | some value => if value.asInt64?.isSome then some value else fallback

/-- The options of a call of the statement. -/
def resolve (statement : Statement) (config : Config) (debugRequested : Bool) : CallOptions where
  debugging := debugRequested && config.debugEnabled
  ignoreErrors := statement.ignoreErrors
  maxAge := directiveOr statement.directives.maxAge config.defaults.maxAge
  sharedMaxAge := directiveOr statement.directives.sharedMaxAge config.defaults.sharedMaxAge

/-- The cache policy that the options ask for, when they ask for any. -/
def cachePolicy? (options : CallOptions) : Option CachePolicy :=
  CachePolicy.ofAges? (options.maxAge.bind Json.asInt64?) (options.sharedMaxAge.bind Json.asInt64?)

end CallOptions

/-! ### Asking for debug output -/

/-- The input of a query: the parameters and headers of the call that carried it. -/
structure QueryInput where
  parameters : Dictionary Json := Dictionary.empty
  headers : Dictionary String := Dictionary.empty

namespace QueryInput

/-- The shape of an input. -/
def shape : RecordShape := ⟨"QueryInput", ["params", "headers"], []⟩

/-- Sets one part of the input by its member. -/
def set (input : QueryInput) (field : String) (value : Json) : Decoded QueryInput := do
  match field with
  | "params" => return { input with parameters := ← Json.decodeDictionary .ok value }
  | "headers" => return { input with headers := ← Json.decodeDictionary Json.decodeText value }
  | _ => return input

/-- The input that a JSON value writes. -/
def decode (value : Json) : Decoded QueryInput :=
  shape.decode {} set value

/-- The parameter that asks for debug output. -/
def debugParameter : String := "_debug"

/-- The texts that mean yes. -/
def trueTexts : List String := ["1", "t", "T", "TRUE", "true", "True"]

/-- Whether the input asks for debug output, by a text that means yes. -/
def debugRequested (input : QueryInput) : Bool :=
  match input.parameters.find? debugParameter with
  | some (.text flag) => trueTexts.contains flag
  | _ => false

end QueryInput

end Gateway
