import RunningConfig.CommandLine.Run
/-!
# The program

Runs the command line on the files of the machine. Only carrying out operations on files and
printing the report is left to this module.
-/

namespace RunningConfig

/-- A fault of the machine. -/
def faultOf : IO.Error → IoFault
  | .noFileOrDirectory .. => .notFound
  | .alreadyExists .. => .fileExists
  | .inappropriateType _ code _ =>
    if code.toInt32.toInt.natAbs = 20 then .notDirectory else .isDirectory
  | .invalidArgument _ code details =>
    if code.toInt32.toInt.natAbs = 36 then .nameTooLong else .other details
  | error => .other (toString error)

/-- Carry out an operation of the machine. -/
def carryOut {α : Type} (operation : IO α) : IO (Except IoFault α) := do
  try
    return .ok (← operation)
  catch error =>
    return .error (faultOf error)

/-- The files of the machine. -/
def machineFiles : Files IO where
  readText path := do
    match ← carryOut (IO.FS.readBinFile path) with
    | .error fault => return .error fault
    | .ok bytes =>
      match String.fromUTF8? bytes with
      | some text => return .ok text
      | none => return .error .invalidText
  writeText path text := carryOut (IO.FS.writeFile path text)
  makeDirectory path := carryOut (IO.FS.createDir path)
  isDirectory path := do
    match ← carryOut (IO.FS.realPath path) with
    | .ok place => place.isDir
    | .error _ => return false

end RunningConfig

open RunningConfig in
/-- Run the program with its arguments. -/
def main (arguments : List String) : IO UInt32 := do
  let filter ← IO.getEnv "RUST_LOG"
  let invocation? := CommandLine.Invocation.ofArguments? arguments
  let report ← CommandLine.run machineFiles filter invocation?
  IO.print report.output
  IO.eprint report.errors
  return report.code.toUInt32
