import TokenGrammar.CommandLine.Arguments
import TokenGrammar.CommandLine.Run

/-!
# The program

Reads the texts that the command names, runs it, and prints what the run leaves.
-/
namespace TokenGrammar

def usage : String :=
  "Usage: <check|tokens|parse|trace> <GRAMMAR> [SOURCE] [OPTIONS]\n"

def UsageError.message : UsageError → String
  | help | noAction => usage
  | unknownAction => "error: unrecognized subcommand\n" ++ usage
  | unknownArgument => "error: unexpected argument\n" ++ usage
  | invalidValue | invalidNumber => "error: invalid value\n" ++ usage
  | needlessValue => "error: unexpected value\n" ++ usage
  | conflict => "error: arguments cannot be used together\n" ++ usage
  | noGrammar => "error: the grammar is missing\n" ++ usage

def AccessError.ofIOError : IO.Error → AccessError
  | .noFileOrDirectory .. => notFound
  | .permissionDenied _ n details => .system details n.toNat
  | .inappropriateType _ n details => .system details n.toNat
  | e => .system (toString e) 5

def decode (bytes : ByteArray) : Except AccessError String :=
  match String.fromUTF8? bytes with
  | some text => .ok text
  | none => .error .notUnicode

def readPath (path : String) : IO (Except AccessError String) := do
  try
    if path = "-" then return decode (← (← IO.getStdin).readBinToEnd)
    else return decode (← IO.FS.readBinFile path)
  catch e => return .error (.ofIOError e)

def perform (c : Command) : IO UInt32 := do
  let texts ← c.paths.mapM fun path => do return (path, ← readPath path)
  let inputs : Inputs := fun path => (texts.lookup path).getD (.error .notFound)
  let stdout ← IO.getStdout
  let stderr ← IO.getStderr
  let outcome := c.run inputs (← stdout.isTty) (← stderr.isTty)
  stdout.putStr outcome.stdout
  stderr.putStr outcome.stderr
  return outcome.code.toUInt32

end TokenGrammar

open TokenGrammar in
def main (args : List String) : IO UInt32 := do
  match Command.ofArguments args with
  | .ok c => perform c
  | .error .help => do
    (← IO.getStdout).putStr usage
    return 0
  | .error e => do
    (← IO.getStderr).putStr e.message
    return e.code.toUInt32
