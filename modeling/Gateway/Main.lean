/-
This file runs the program on the system: it reads the files and the standard input, and writes what
the program leaves behind.
-/

import Gateway.Program

namespace Gateway

/-- The number of a fault; some faults come with the negative of theirs. -/
def faultNumber (number : UInt32) : Nat :=
  min number.toNat (0 - number).toNat

/-- Why a file cannot be read. -/
def FileFault.ofError (error : IO.Error) : FileFault :=
  let known (number : UInt32) : FileFault :=
    (FileFault.ofNumber? (faultNumber number)).getD (.other (toString error))
  match error with
  | .noFileOrDirectory _ number _ => known number
  | .permissionDenied _ number _ => known number
  | .inappropriateType _ number _ => known number
  | .invalidArgument _ number _ => known number
  | _ => .other (toString error)

/-- Reads octets up to the first line feed, or to the end; nothing behind it is needed. -/
partial def readLine (stream : IO.FS.Stream) (line : ByteArray) : IO ByteArray := do
  let next ← stream.read 1
  if next.isEmpty then return line
  else if next.toList = [RequestLine.lineFeed] then return line ++ next
  else readLine stream (line ++ next)

/-- The system with its files and its standard input. -/
def Host.system : Host IO where
  read path := do
    match ← (IO.FS.readBinFile path).toBaseIO with
    | .ok octets => return .ok octets.toList
    | .error error => return .error (.ofError error)
  input := do return (← readLine (← IO.getStdin) ByteArray.empty).toList

/-- Writes to standard output and standard error. -/
def write (output diagnostics : String) : IO Unit := do
  IO.print output
  IO.eprint diagnostics
  (← IO.getStdout).flush

end Gateway

open Gateway in
/-- Runs the command that the arguments name. -/
def main (arguments : List String) : IO UInt32 := do
  let exit ← Host.system.run arguments
  write exit.output exit.diagnostics
  return exit.code
