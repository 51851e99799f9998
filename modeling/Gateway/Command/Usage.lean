/-
This file holds what the program says when its arguments name no command to run. Help and the
version are answers; all else is a fault of usage.
-/

import Gateway.Command.Arguments

namespace Gateway

namespace UsageError

/-- The line that tells the version. -/
def versionLine : String := "restgate 0.1.0\n"

/-- The option that takes the path of a configuration, and the one that asks for help. -/
def optionLines : List String :=
  ["      --config <CONFIG>  Path to configuration file (defaults apply when omitted)",
    "  -h, --help             Print help"]

/-- The help with a command, or with all. -/
def helpLines : Option Command → List String
  | none =>
    ["Result assembly and projection core for a REST aggregation gateway", "",
      "Usage: restgate [OPTIONS] <COMMAND>", "", "Commands:",
      "  filter    Apply `only` and `hidden` clauses to resolved results",
      "  assemble  Build the result record of a single call",
      "  help      Print this message or the help of the given subcommand(s)", "", "Options:"] ++
      optionLines ++ ["  -V, --version          Print version"]
  | some .filter =>
    ["Apply `only` and `hidden` clauses to resolved results", "",
      "Usage: restgate filter [OPTIONS]", "", "Options:"] ++ optionLines
  | some .assemble =>
    ["Build the result record of a single call", "", "Usage: restgate assemble [OPTIONS]", "",
      "Options:"] ++ optionLines

/-- The help as text. -/
def helpText (command : Option Command) : String :=
  String.join ((helpLines command).map fun line => line ++ "\n")

/-- What is written to the output. -/
def output : UsageError → String
  | .help command => helpText command
  | .version => versionLine
  | _ => ""

/-- What is written beside the output. -/
def diagnostics : UsageError → String
  | .help _ | .version => ""
  | .noArguments => helpText none
  | .missingCommand => "error: a command is required\n"
  | .unknownCommand => "error: unrecognized command\n"
  | .unknownArgument => "error: unexpected argument\n"
  | .invalidValue => "error: a value is required for '--config <CONFIG>'\n"
  | .excessValue => "error: unexpected value for an option that takes none\n"
  | .conflict => "error: the argument '--config <CONFIG>' cannot be used multiple times\n"

/-- The exit code: zero for an answer, two for a fault. -/
def exitCode : UsageError → UInt32
  | .help _ | .version => 0
  | _ => 2

end UsageError

end Gateway
