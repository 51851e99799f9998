/-
This file says what a command leaves behind. Where its configuration cannot be loaded it does not
begin, and there is neither output nor log. Everywhere else the output is one line with one
envelope, and the log has one beginning and one end around all that was logged in between. The
status in the envelope, the exit code, the end of the log and the text behind the log agree on how
the command ended, and on the code of its error.
-/

import Gateway.Command.Run
import Gateway.Proofs.Json.Spelling

namespace Gateway

/-! ### What is logged inside a command -/

/-- Every entry tells of an event of the gateway's life. -/
def OfEvents (log : List LogEntry) : Prop :=
  ∀ entry ∈ log, ∃ event : Event, entry.event = event.name

theorem ofEvents_nil : OfEvents [] :=
  List.forall_mem_nil _

theorem ofEvents_entry (event : Event) (fields : List (String × String)) :
    OfEvents [event.entry fields] :=
  List.forall_mem_singleton.mpr ⟨event, rfl⟩

theorem OfEvents.append {first second : List LogEntry} (before : OfEvents first)
    (after : OfEvents second) : OfEvents (first ++ second) :=
  List.forall_mem_append.mpr ⟨before, after⟩

namespace Query

theorem ofEvents_filteredLog (statement : Statement) : OfEvents statement.filteredLog := by
  rw [Statement.filteredLog]
  split
  · exact ofEvents_nil
  · exact ofEvents_entry _ _

/-- Each statement adds entries of events, whether it ends the query or not. -/
theorem ofEvents_filterFrom [LibraryReports] (resources : Resources) (statements : List Statement)
    (filtered : Resources) : OfEvents (filterFrom resources statements filtered).log := by
  induction statements generalizing filtered with
  | nil => exact ofEvents_nil
  | cons statement rest inductionHypothesis =>
    rw [filterFrom]
    split
    · exact ofEvents_entry _ _
    · exact (ofEvents_filteredLog statement).append (inductionHypothesis filtered)
    · exact (ofEvents_filteredLog statement).append (inductionHypothesis _)

end Query

theorem ofEvents_filterResults [LibraryReports] (request : Json) :
    OfEvents (filterResults request).log := by
  rw [filterResults]
  split
  · exact ofEvents_nil
  · dsimp only
    split
    · exact Query.ofEvents_filterFrom _ _ _
    · exact (Query.ofEvents_filterFrom _ _ _).append (ofEvents_entry _ _)

/-- The record of a call is logged by one event, whichever record that is. -/
theorem Record.ofEvents_ofCall (missing : List String) (error : Option String) (request : Request)
    (response : Response) (options : CallOptions) :
    OfEvents (ofCall missing error request response options).log := by
  rw [ofCall.eq_def]
  split
  · cases error with
    | some reason => exact ofEvents_entry _ _
    | none => exact ofEvents_entry _ _
  · exact ofEvents_entry _ _

theorem ofEvents_assembleResult (config : Config) (request : Json) :
    OfEvents (assembleResult config request).log := by
  rw [assembleResult]
  split
  · exact ofEvents_nil
  · exact Record.ofEvents_ofCall _ _ _ _ _

theorem Command.ofEvents_answerInput [LibraryReports] (command : Command) (config : Config)
    (input : List UInt8) : OfEvents (command.answerInput config input).log := by
  rw [answerInput]
  split
  · exact ofEvents_nil
  · cases command with
    | filter => exact ofEvents_filterResults _
    | assemble => exact ofEvents_assembleResult config _

/-! ### The log of a command -/

namespace Scope

/-- The events that a scope is logged by. -/
def events (name : String) : List String :=
  [name ++ "_BEGIN", name ++ "_COMPLETE", name ++ "_FAILED", name ++ "_INCOMPLETE"]

/-- Whether the entry is of the scope. -/
def logs (name : String) (entry : LogEntry) : Bool :=
  (events name).contains entry.event

/-- The log of a scope that ends with the closing entry: no other entry is of the scope, and only
the loading of the configuration was logged before it began. -/
structure Brackets (name : String) (closing : LogEntry) (log : List LogEntry) : Prop where
  around : ∃ loading inner, log = loading ++ beginEntry name :: (inner ++ [closing]) ∧
    ∀ entry ∈ loading, entry.event = Event.configLoaded.name
  only : log.filter (logs name) = [beginEntry name, closing]

/-- No event of the gateway's life passes for the beginning or the end of a command. -/
theorem filter_logs_of_ofEvents (command : Command) {log : List LogEntry}
    (ofEvents : OfEvents log) : log.filter (logs command.scopeName) = [] := by
  refine List.filter_eq_nil_iff.mpr fun entry inside => ?_
  obtain ⟨event, isEvent⟩ := ofEvents entry inside
  rw [logs, isEvent]
  cases command <;> cases event <;> decide +kernel

theorem logs_beginEntry (name : String) : logs name (beginEntry name) = true :=
  List.contains_iff_mem.mpr List.mem_cons_self

theorem logs_endEntry (name : String) (ending : ScopeEnd) :
    logs name (endEntry name ending) = true := by
  cases ending <;> simp [logs, events, endEntry]

theorem brackets_enclose (command : Command) {loading inner : List LogEntry} (ending : ScopeEnd)
    (fromConfig : ∀ entry ∈ loading, entry.event = Event.configLoaded.name)
    (ofEvents : OfEvents inner) :
    Brackets command.scopeName (endEntry command.scopeName ending)
      (loading ++ enclose command.scopeName inner ending) where
  around := ⟨loading, inner, rfl, fromConfig⟩
  only := by
    have before : OfEvents loading := fun entry inside => ⟨.configLoaded, fromConfig entry inside⟩
    rw [enclose, List.filter_append, filter_logs_of_ofEvents command before, List.nil_append,
      List.filter_cons_of_pos (logs_beginEntry _), List.filter_append,
      filter_logs_of_ofEvents command ofEvents, List.nil_append,
      List.filter_cons_of_pos (logs_endEntry _ _), List.filter_nil]

end Scope

namespace ConfigSource

/-- Nothing is logged for a configuration but that it was loaded. -/
theorem event_of_mem_load [LibraryReports] (source : ConfigSource) :
    ∀ entry ∈ source.load.log, entry.event = Event.configLoaded.name := by
  unfold load
  split
  · exact List.forall_mem_nil _
  · exact List.forall_mem_nil _
  · split
    · exact List.forall_mem_nil _
    · split
      · exact List.forall_mem_nil _
      · exact List.forall_mem_singleton.mpr rfl

theorem log_load_of_error [LibraryReports] {source : ConfigSource} {error : CommandError}
    (failed : source.load.value = .error error) : source.load.log = [] := by
  unfold load at failed ⊢
  split at failed
  · rfl
  · rfl
  · split at failed
    · rfl
    · split at failed
      · rfl
      · cases failed

end ConfigSource

/-! ### The output of a command -/

/-- The output is one line, and the line is an object with these members. -/
def IsObjectLine (output : String) (members : Members) : Prop :=
  ∃ text : List Char, output = String.ofList (text ++ ['\n']) ∧ '\n' ∉ text ∧
    Spells (.object members) (tokens text)

theorem isObjectLine_envelopeLine (members : Members) :
    IsObjectLine (envelopeLine (.object members)) members := by
  refine ⟨_, String.ofList_append.symm, fun inside => ?_, Json.spells_tokens_chars _⟩
  exact absurd (Json.printed_chars _ _ inside) (by decide)

/-! ### What a command leaves behind -/

namespace Command

/-- The outcome tells how the command ended, by the status in its output, by its exit code, at the
end of its log and by the text behind the log: with an answer it was completed, and with an error it
failed with the code of that error. -/
inductive Tells (command : Command) (outcome : Outcome) : Except CommandError Json → Prop
  | completed {data : Json}
    (output : IsObjectLine outcome.output [("status", .text "ok"), ("data", data)])
    (exitCode : outcome.exitCode = 0)
    (log : Scope.Brackets command.scopeName ⟨.info, command.scopeName ++ "_COMPLETE", []⟩
      outcome.log)
    (diagnostics : outcome.diagnostics = String.join (outcome.log.map LogEntry.line)) :
    Tells command outcome (.ok data)
  | failed {error : CommandError}
    (output : IsObjectLine outcome.output
      [("status", .text "error"), ("code", .text error.code.name),
        ("message", .text error.message)])
    (exitCode : outcome.exitCode = 1)
    (log : Scope.Brackets command.scopeName
      ⟨.error, command.scopeName ++ "_FAILED", [("reason", error.code.name)]⟩ outcome.log)
    (diagnostics : outcome.diagnostics =
      String.join (outcome.log.map LogEntry.line) ++
        (error.code.name ++ ": " ++ error.message ++ "\n")) :
    Tells command outcome (.error error)

section

variable (command : Command) {loading inner : List LogEntry}
  (fromConfig : ∀ entry ∈ loading, entry.event = Event.configLoaded.name)

include fromConfig

theorem tells_completed (ofEvents : OfEvents inner) (data : Json) :
    command.Tells
      ⟨envelopeLine (okEnvelope data),
        loading ++ Scope.enclose command.scopeName inner (.completed []), none⟩
      (.ok data) :=
  .completed (isObjectLine_envelopeLine _) rfl
    (Scope.brackets_enclose command (.completed []) fromConfig ofEvents) String.append_empty

theorem tells_failed (ofEvents : OfEvents inner) (error : CommandError) :
    command.Tells
      ⟨envelopeLine (errorEnvelope error),
        loading ++ Scope.enclose command.scopeName inner (.failed error.code.name), some error⟩
      (.error error) :=
  .failed (isObjectLine_envelopeLine _) rfl
    (Scope.brackets_enclose command (.failed error.code.name) fromConfig ofEvents) rfl

/-- A command that is given a configuration tells how it answered, whatever its input. -/
theorem tells_runWith [LibraryReports] (config : Config) (input : List UInt8) :
    command.Tells
      { command.runWith config input with
        log := loading ++ (command.runWith config input).log }
      (command.answerInput config input).value := by
  have inside := ofEvents_answerInput command config input
  rw [runWith]
  dsimp only
  cases (command.answerInput config input).value with
  | ok data => exact tells_completed command fromConfig inside data
  | error error => exact tells_failed command fromConfig inside error

end

/-- What a command leaves behind, on every input. Without a configuration that can be loaded it does
not begin, and otherwise it tells how it answered. -/
theorem run_protocol [LibraryReports] (command : Command) (source : ConfigSource)
    (input : List UInt8) :
    let outcome := command.run source input
    (∀ error, source.load.value = .error error →
      outcome.output = "" ∧ outcome.log = [] ∧ outcome.exitCode = 1) ∧
    ∀ config, source.load.value = .ok config →
      command.Tells outcome (command.answerInput config input).value := by
  intro outcome
  constructor
  · intro error failed
    have isOutcome : outcome = ⟨"", source.load.log, some error⟩ := by
      simp only [outcome, run, failed]
    rw [isOutcome, ConfigSource.log_load_of_error failed]
    exact ⟨rfl, rfl, rfl⟩
  · intro config loaded
    have isOutcome : outcome =
        { command.runWith config input with
          log := source.load.log ++ (command.runWith config input).log } := by
      simp only [outcome, run, loaded]
    rw [isOutcome]
    exact tells_runWith command source.event_of_mem_load config input

/-- The octets of a request to filter by a query without statements. -/
def emptyQuery : List UInt8 := "\x7b\"query\":[[]]\x7d\n".toUTF8.toList

/-- The request is answered without a configuration, and not begun with one that is missing. -/
theorem run_protocol_emptyQuery :
    let answered := filter.run .absent emptyQuery
    let unstarted := filter.run (.unreadable "gate.json" .missing) emptyQuery
    answered.exitCode = 0 ∧ filter.Tells answered (filter.answerInput {} emptyQuery).value ∧
      unstarted.output = "" ∧ unstarted.log = [] ∧ unstarted.exitCode = 1 :=
  ⟨by decide +kernel, (run_protocol .filter .absent emptyQuery).right _ rfl,
    (run_protocol .filter (.unreadable "gate.json" .missing) emptyQuery).left _ rfl⟩

end Command

end Gateway
