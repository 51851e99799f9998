/-
This file runs commands. A command turns the input and the configuration into an outcome: one line
of output that holds an envelope, the log, and the error if there is one. The output, the log and
the exit code tell the same story. Where the configuration cannot be loaded the command does not
begin, and leaves neither output nor log.
-/

import Gateway.Command.Arguments
import Gateway.Command.Request
import Gateway.Config.Reader
import Gateway.Files
import Gateway.Filter.Results
import Gateway.Log.Scope
import Gateway.Record.Assembly

namespace Gateway

/-! ### The commands -/

/-- The results of a query with its selectors applied and its hidden statements left out. -/
def filterResults [LibraryReports] (request : Json) : Traced (Except CommandError Json) :=
  match FilterRequest.decode request with
  | .error error => ⟨.error ⟨.invalidRequest, "Invalid filter request: " ++ error.message⟩, []⟩
  | .ok ⟨query, resources⟩ =>
    let filtered := query.applyFilters resources
    match filtered.value with
    | .error failure => ⟨.error (.ofFailure failure), filtered.log⟩
    | .ok results =>
      ((query.applyHidden results).map fun visible => .ok (Resources.toJson visible)).after
        filtered.log

/-- The record of the call that a request describes. -/
def assembleRecord (config : Config) (request : AssembleRequest) : Traced Record :=
  let options :=
    CallOptions.resolve request.statement config request.context.debugRequested
  Record.ofCall request.statement.missingParameters request.error request.request request.response
    options

/-- The record of a call as JSON. -/
def assembleResult (config : Config) (request : Json) : Traced (Except CommandError Json) :=
  match AssembleRequest.decode request with
  | .error error => ⟨.error ⟨.invalidRequest, "Invalid assemble request: " ++ error.message⟩, []⟩
  | .ok call => (assembleRecord config call).map fun result => .ok result.toJson

/-- The answer of a command to a request. -/
def Command.answer [LibraryReports] (command : Command) (config : Config) (request : Json) :
    Traced (Except CommandError Json) :=
  match command with
  | .filter => filterResults request
  | .assemble => assembleResult config request

/-- The answer of a command to its whole input. -/
def Command.answerInput [LibraryReports] (command : Command) (config : Config)
    (input : List UInt8) : Traced (Except CommandError Json) :=
  match RequestLine.read input with
  | .error error => ⟨.error error, []⟩
  | .ok request => command.answer config request

/-! ### Envelopes -/

/-- The envelope of an answer. -/
def okEnvelope (data : Json) : Json :=
  .object [("status", .text "ok"), ("data", data)]

/-- The envelope of an error. -/
def errorEnvelope (error : CommandError) : Json :=
  .object
    [("status", .text "error"), ("code", .text error.code.name), ("message", .text error.message)]

/-! ### Outcomes -/

/-- The configuration that a command is given. -/
inductive ConfigSource
  /-- None; the defaults hold. -/
  | absent
  /-- A file that cannot be read, and why. -/
  | unreadable (path : String) (fault : FileFault)
  | file (path : String) (octets : List UInt8)

namespace ConfigSource

/-- The error of a configuration that cannot be read. -/
def readError (path reason : String) : CommandError :=
  ⟨.config, "Failed to read config " ++ path ++ ": " ++ reason⟩

/-- The configuration of the source. -/
def load [LibraryReports] : ConfigSource → Traced (Except CommandError Config)
  | .absent => ⟨.ok {}, []⟩
  | .unreadable path fault => ⟨.error (readError path fault.message), []⟩
  | .file path octets =>
    match Text.ofUtf8? octets with
    | none => ⟨.error (readError path RequestLine.notUtf8), []⟩
    | some text =>
      match Config.ofText text with
      | .error failure => ⟨.error ⟨.config, failure.message⟩, []⟩
      | .ok config =>
        ⟨.ok config,
          [Event.configLoaded.entry
            [("debug_enabled", Text.Dump.bool config.debugEnabled), ("path", path)]]⟩

end ConfigSource

/-- What a command leaves behind. -/
structure Outcome where
  /-- What is written to the output. -/
  output : String
  log : List LogEntry
  error : Option CommandError

namespace Outcome

/-- The exit code: zero when there is no error. -/
def exitCode (outcome : Outcome) : UInt32 :=
  if outcome.error.isSome then 1 else 0

/-- What is written beside the output: the log, and the error behind it. -/
def diagnostics (outcome : Outcome) : String :=
  String.join (outcome.log.map LogEntry.line) ++
    match outcome.error with
    | none => ""
    | some error => error.text ++ "\n"

end Outcome

/-- An envelope as a line of output. -/
def envelopeLine (envelope : Json) : String :=
  envelope.render ++ "\n"

/-- The outcome of a command with its configuration loaded. -/
def Command.runWith [LibraryReports] (command : Command) (config : Config)
    (input : List UInt8) : Outcome :=
  let answered := command.answerInput config input
  match answered.value with
  | .ok data =>
    { output := envelopeLine (okEnvelope data)
      log := Scope.enclose command.scopeName answered.log (.completed [])
      error := none }
  | .error error =>
    { output := envelopeLine (errorEnvelope error)
      log := Scope.enclose command.scopeName answered.log (.failed error.code.name)
      error := some error }

/-- The outcome of a command. -/
def Command.run [LibraryReports] (command : Command) (source : ConfigSource)
    (input : List UInt8) : Outcome :=
  let loaded := source.load
  match loaded.value with
  | .error error => ⟨"", loaded.log, some error⟩
  | .ok config =>
    let outcome := command.runWith config input
    { outcome with log := loaded.log ++ outcome.log }

end Gateway
