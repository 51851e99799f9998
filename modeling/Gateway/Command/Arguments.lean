/-
This file reads the arguments of the command line: a command, and before or behind it the path of a
configuration. A path given behind the command wins over one given before it; two on one side
conflict. An option's value is settled only when the next option comes or the arguments end, so a
fault behind it may be reported first.
-/

namespace Gateway

/-- A command of the gateway. -/
inductive Command
  /-- Applies the selectors of a query to its results. -/
  | filter
  /-- Makes the record of one call. -/
  | assemble
  deriving DecidableEq, Repr

namespace Command

/-- The name of the command's scope in the log. -/
def scopeName : Command → String
  | .filter => "FILTER"
  | .assemble => "ASSEMBLE"

/-- The command of an argument. -/
def ofArgument? : String → Option Command
  | "filter" => some .filter
  | "assemble" => some .assemble
  | _ => none

end Command

/-- Why the arguments name no command to run. -/
inductive UsageError
  /-- Help is asked for, with one command or with all. -/
  | help (command : Option Command)
  | version
  /-- No arguments at all, which asks for help too, but as a fault. -/
  | noArguments
  | missingCommand
  | unknownCommand
  | unknownArgument
  /-- A value is missing or empty. -/
  | invalidValue
  /-- A value is given to an option that takes none. -/
  | excessValue
  /-- An option is given twice. -/
  | conflict
  deriving DecidableEq, Repr

/-- The name of the kind of the error. -/
def UsageError.kind : UsageError → String
  | .help _ => "DisplayHelp"
  | .version => "DisplayVersion"
  | .noArguments => "DisplayHelpOnMissingArgumentOrSubcommand"
  | .missingCommand => "MissingSubcommand"
  | .unknownCommand => "InvalidSubcommand"
  | .unknownArgument => "UnknownArgument"
  | .invalidValue => "InvalidValue"
  | .excessValue => "TooManyValues"
  | .conflict => "ArgumentConflict"

/-- What the arguments ask for. -/
structure Arguments where
  command : Command
  configPath : Option String
  deriving DecidableEq, Repr

namespace Arguments

/-- Where an argument stands: before the command or behind it. -/
inductive Place
  | beforeCommand
  | behind (command : Command)
  deriving DecidableEq

/-- The command that the place is behind of. -/
def Place.command? : Place → Option Command
  | .beforeCommand => none
  | .behind command => some command

/-- The paths seen so far on one side of the command. -/
structure Options where
  /-- The path that was settled. -/
  path : Option String := none
  /-- An option that was not settled, with its value if that was read. -/
  pending : Option (Option String) := none

namespace Options

/-- The options with a path settled. -/
def settle (options : Options) (path : String) : Except UsageError Options :=
  if options.path.isSome then .error .conflict
  else if path.isEmpty then .error .invalidValue
  else .ok { path := some path }

/-- The options with the pending one settled. -/
def resolve (options : Options) : Except UsageError Options :=
  match options.pending with
  | none => .ok options
  | some none => .error .invalidValue
  | some (some path) => settle options path

/-- Whether the next argument may be the value of an option. -/
def awaiting (options : Options) : Bool :=
  options.pending == some none

end Options

/-- The name and the attached value of an argument with two hyphens. -/
def splitLong (argument : List Char) : String × Option String :=
  let name := argument.takeWhile fun character => character != '='
  match argument.drop name.length with
  | [] => (String.ofList name, none)
  | _ :: value => (String.ofList name, some (String.ofList value))

/-- An argument with two hyphens. -/
def long (place : Place) (options : Options) (argument : List Char) : Except UsageError Options :=
  let flag (value : Option String) (shown : UsageError) : Except UsageError Options :=
    if value.isSome then .error .excessValue
    else
      match options.resolve with
      | .error fault => .error fault
      | .ok _ => .error shown
  match splitLong argument with
  | ("config", value) =>
    match options.resolve with
    | .error fault => .error fault
    | .ok resolved =>
      match value with
      | none => .ok { resolved with pending := some none }
      | some path => resolved.settle path
  | ("help", value) => flag value (.help place.command?)
  | ("version", value) =>
    if place = .beforeCommand then flag value .version else .error .unknownArgument
  | _ => .error .unknownArgument

/-- An argument with one hyphen, which only asks for help or the version. -/
def short (place : Place) (options : Options) (letter : Char) : UsageError :=
  let shown (asked : UsageError) : UsageError :=
    match options.resolve with
    | .error fault => fault
    | .ok _ => asked
  if letter = 'h' then shown (.help place.command?)
  else if letter = 'V' ∧ place = .beforeCommand then shown .version
  else .unknownArgument

/-- What one argument is. -/
inductive Step
  | options (options : Options)
  /-- All arguments behind it are values. -/
  | endOfOptions
  /-- No option and no value of one. -/
  | word

/-- Reads one argument as an option or the value of one. -/
def step (place : Place) (options : Options) (argument : String) : Except UsageError Step :=
  match argument.toList with
  | ['-', '-'] => .ok .endOfOptions
  | '-' :: '-' :: rest => (long place options rest).map .options
  | '-' :: letter :: _ => .error (short place options letter)
  | _ =>
    if options.awaiting then .ok (.options { options with pending := some (some argument) })
    else .ok .word

/-- The arguments behind the command: the path that they give. -/
def behind (command : Command) : Options → List String → Except UsageError (Option String)
  | options, [] => options.resolve.map Options.path
  | options, argument :: rest =>
    match step (.behind command) options argument with
    | .error fault => .error fault
    | .ok (.options options) => behind command options rest
    | .ok .endOfOptions =>
      if rest.isEmpty then options.resolve.map Options.path else .error .unknownArgument
    | .ok .word => .error .unknownArgument

/-- Arguments that ask for help with a command. -/
def helpWith : List String → UsageError
  | [] => .help none
  | [name] =>
    match Command.ofArgument? name with
    | some command => .help (some command)
    | none => if name = "help" then .help none else .unknownCommand
  | _ => .unknownCommand

/-- Where no command was given. -/
def withoutCommand (options : Options) : UsageError :=
  match options.resolve with
  | .error fault => fault
  | .ok resolved => if resolved.path.isSome then .missingCommand else .noArguments

/-- The arguments from the options before the command on. -/
def before : Options → List String → Except UsageError Arguments
  | options, [] => .error (withoutCommand options)
  | options, argument :: rest =>
    match if options.awaiting then none else Command.ofArgument? argument with
    | some command =>
      match behind command {} rest with
      | .error fault => .error fault
      | .ok path =>
        options.resolve.map fun resolved => ⟨command, path.orElse fun _ => resolved.path⟩
    | none =>
      if argument = "help" ∧ !options.awaiting then .error (helpWith rest)
      else
        match step .beforeCommand options argument with
        | .error fault => .error fault
        | .ok (.options options) => before options rest
        | .ok .endOfOptions =>
          match rest with
          | [] => .error (withoutCommand options)
          | word :: _ =>
            if word = "help" ∨ (Command.ofArgument? word).isSome then .error .unknownArgument
            else .error .unknownCommand
        | .ok .word => .error .unknownCommand

/-- What the arguments ask for. -/
def parse (arguments : List String) : Except UsageError Arguments :=
  before {} arguments

end Arguments

end Gateway
