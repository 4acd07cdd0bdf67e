import EquityScreen.CommandLine.Run

/-! The command-line program. It reads files from the file system and writes to the output streams;
everything else is decided by the library. -/
namespace EquityScreen.CommandLine

/-- Why the file system gives no bytes. -/
def fileErrorOf : IO.Error → FileError
  | .noFileOrDirectory .. => .notFound
  | .inappropriateType .. => .isDirectory
  | e => .other (toString e)

/-- Read a file of the file system. -/
def readFile : FileReader IO := fun path => do
  try return .ok (← IO.FS.readBinFile path).toList
  catch e => return .error (fileErrorOf e)

/-- The output of a command. Serving pages needs a transport, which this program does not have. -/
def Outcome.output : Outcome → Output
  | .finished output => output
  | .serving _ => .ofFailure (.io "web feature is required for serve")

/-- How the program is called. -/
def usage : String := "usage: stockscreen [-v] screen|parse|fields|serve [OPTIONS]\n"

/-- The output for arguments that give no command. -/
def UsageFault.output (fault : UsageFault) : Output :=
  if fault = .help then .ofText usage.toList
  else { stdout := "", stderr := fault.message?.getD usage, exitCode := fault.exitCode }

/-- Write both streams. -/
def Output.emit (o : Output) : IO UInt32 := do
  IO.print o.stdout
  IO.eprint o.stderr
  return UInt32.ofNat o.exitCode

end EquityScreen.CommandLine

open EquityScreen.CommandLine in
/-- Run the command that the arguments give. -/
def main (args : List String) : IO UInt32 := do
  match Command.ofArguments args with
  | .error fault => fault.output.emit
  | .ok command => (← run readFile command).output.emit
