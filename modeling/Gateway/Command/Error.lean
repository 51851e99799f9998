/-
This file names the errors of commands. The code of an error says who can mend it: whoever wrote the
configuration, whoever runs the command, whoever wrote the request, or, when the filtering of a
query fails, whom the fault of the query concerns.
-/

import Gateway.Filter.Fault

namespace Gateway

/-- The code of an error of a command. -/
inductive CommandErrorCode
  | config
  | io
  | invalidRequest
  | filtering (code : FaultCode)
  deriving DecidableEq, Repr

/-- The code as it is reported. -/
def CommandErrorCode.name : CommandErrorCode → String
  | .config => "GATE_CLI_CONFIG_ERROR"
  | .io => "GATE_CLI_IO_ERROR"
  | .invalidRequest => "GATE_CLI_INVALID_REQUEST"
  | .filtering code => code.name

/-- Why a command has no answer. -/
structure CommandError where
  code : CommandErrorCode
  message : String
  deriving DecidableEq, Repr

namespace CommandError

/-- The error of a query that cannot be filtered. -/
def ofFailure [LibraryReports] (failure : FilterFailure) : CommandError :=
  ⟨.filtering failure.code, failure.message⟩

/-- The error as one text. -/
def text (error : CommandError) : String :=
  error.code.name ++ ": " ++ error.message

end CommandError

end Gateway
