/-
This file is the program as a function of the host that it runs on. A host reads files and holds the
input; the program asks it for the configuration, hands that and the input to the command that the
arguments name, and leaves texts and an exit code. A tree of files in memory makes a host too, so
that what holds of the program is said and proved of the very steps that a system carries out.
-/

import Gateway.Command.Run
import Gateway.Command.Usage

namespace Gateway

/-- What a run of the program leaves behind. -/
structure Exit where
  /-- What is written to the output. -/
  output : String
  /-- What is written beside the output. -/
  diagnostics : String
  code : UInt32
  deriving DecidableEq, Repr

/-- What the program runs on. -/
structure Host (m : Type → Type) where
  /-- The octets of the file at a path. -/
  read (path : String) : m (Except FileFault (List UInt8))
  /-- The octets of the input, up to the end of its first line at least. -/
  input : m (List UInt8)

namespace Host

variable {m : Type → Type} [Monad m]

/-- The configuration at a path, if one is given. -/
def config (host : Host m) : Option String → m ConfigSource
  | none => return .absent
  | some path => do
    match ← host.read path with
    | .ok octets => return .file path octets
    | .error fault => return .unreadable path fault

/-- Runs the command that the arguments name. The input is not asked for when the configuration
cannot be loaded. -/
def run [LibraryReports] (host : Host m) (arguments : List String) : m Exit := do
  match Arguments.parse arguments with
  | .error usage => return ⟨usage.output, usage.diagnostics, usage.exitCode⟩
  | .ok asked =>
    let source ← host.config asked.configPath
    let input ← if source.load.value.isOk then host.input else pure []
    let outcome := asked.command.run source input
    return ⟨outcome.output, outcome.diagnostics, outcome.exitCode⟩

end Host

/-- The host of files in memory, with the names of a working directory and an input. -/
def FileTree.host (files : FileTree) (working : List String) (input : List UInt8) : Host Id where
  read path := files.read path working
  input := input

end Gateway
