/-
This file says what the command that makes records answers. It fails only where its request cannot
be decoded. Otherwise it ends in one record, for the first of three reasons: parameters of the call
are missing, the transport failed, or there is a response. The reason decides which parts of the
request and of the configuration each member of the answer is made of; no other part counts.
-/

import Gateway.Command.Run
import Gateway.Proofs.Filter.Disclosure
import Gateway.Proofs.Record.Caching

namespace Gateway

/-! ### Records in answers -/

namespace CachePolicy

end CachePolicy

namespace Record

end Record

/-! ### Options -/

namespace AssembleRequest

open Directives (Counts)

variable {call : AssembleRequest} {config : Config}

/-- The options of the call. -/
def options (call : AssembleRequest) (config : Config) : CallOptions :=
  .resolve call.statement config call.context.debugRequested

end AssembleRequest

end Gateway
