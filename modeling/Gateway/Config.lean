/-
This file defines the configuration of the gateway: whether queries may ask for debug output, and
the cache directives of calls whose statements declare none.
-/

import Gateway.Query.Statement

namespace Gateway

/-- The configuration of the gateway. -/
structure Config where
  debugEnabled : Bool := true
  defaults : Directives := {}

namespace Config

/-- The configuration as JSON. -/
def toJson (config : Config) : Json :=
  .object [("debugEnabled", .bool config.debugEnabled), ("cacheControl", config.defaults.toJson)]

end Config

end Gateway
