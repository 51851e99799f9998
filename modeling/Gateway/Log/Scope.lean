/-
This file defines the log of a command: one entry when it begins, and one when it ends, which says
whether it was completed, failed, or was left without either.
-/

import Gateway.Log.Entry

namespace Gateway

/-- How a scope ends. -/
inductive ScopeEnd
  | completed (fields : List (String × String))
  | failed (reason : String)
  /-- The scope was left without being completed or failed. -/
  | dropped

namespace Scope

/-- The entry at the beginning of a scope. -/
def beginEntry (name : String) : LogEntry :=
  ⟨.info, name ++ "_BEGIN", []⟩

/-- The entry at the end of a scope. -/
def endEntry (name : String) : ScopeEnd → LogEntry
  | .completed fields => ⟨.info, name ++ "_COMPLETE", fields⟩
  | .failed reason => ⟨.error, name ++ "_FAILED", [("reason", reason)]⟩
  | .dropped =>
    ⟨.warn, name ++ "_INCOMPLETE", [("reason", "scope dropped without completion")]⟩

/-- The log of a whole scope, around what was logged inside it. -/
def enclose (name : String) (inner : List LogEntry) (ending : ScopeEnd) : List LogEntry :=
  beginEntry name :: (inner ++ [endEntry name ending])

end Scope

end Gateway
