import PegTrace.Cli.Outcome

/-!
# The command

Reads the arguments and the text that they name, runs, and writes what the run leaves behind.
-/

namespace PegTrace.Cli

/-- The failure with the given number of the system, which may be given with its sign turned. -/
def failureOfCode (code : UInt32) (details : String) : ReadFailure :=
  match min code (0 - code) with
  | 2 => .missing
  | 13 => .denied
  | 20 => .notDirectory
  | 21 => .isDirectory
  | 36 => .nameTooLong
  | _ => .other details

/-- Why a text could not be read. -/
def readFailure (e : IO.Error) : ReadFailure :=
  match e with
  | .noFileOrDirectory _ code details | .inappropriateType _ code details
  | .permissionDenied _ code details | .invalidArgument _ code details => failureOfCode code details
  | e => .other (toString e)

/-- Reads the file that the options name, or standard input. -/
def readSource (options : Options) : IO Source := do
  try
    match options.file with
    | some name => return .ok (← IO.FS.readBinFile name)
    | none => return .ok (← (← IO.getStdin).readBinToEnd)
  catch e => return .error (readFailure e)

end PegTrace.Cli

open PegTrace.Cli

/-- Runs the command. -/
def main (args : List String) : IO UInt32 := do
  let command := Command.ofArguments args
  let source ← match command with
    | .run options => readSource options
    | _ => pure (.ok .empty)
  let outcome := command.execute fun _ => source
  IO.print outcome.output
  IO.eprint outcome.errors
  return outcome.status.toUInt32
