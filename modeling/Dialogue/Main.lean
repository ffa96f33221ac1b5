import Dialogue.Command.Perform

/-!
# The command line

The surroundings of the program on a real machine. Of the environment, the variables that configure
the program are looked up by their names in capital letters.
-/
namespace Dialogue.Machine

/-- Why a file cannot be read, in the words of the operating system. -/
def fault : IO.Error → FileFault
  | .noFileOrDirectory _ _ _ => ⟨false, "No such file or directory (os error 2)"⟩
  | e => ⟨true, toString e⟩

def attempt (read : IO String) : IO (Except FileFault String) := do
  try return .ok (← read)
  catch e => return .error (fault e)

/-- Everything from the standard input. -/
partial def readAll (stream : IO.FS.Stream) (sofar : String) : IO String := do
  let line ← stream.getLine
  if line.isEmpty then return sofar else readAll stream (sofar ++ line)

def variableNames : List String :=
  ["HARMONY__SCHEMA__ENVELOPE_PATH", "HARMONY__VALIDATION__WARNINGS_FAIL",
    "HARMONY__EXECUTION__SUMMARIZE_PROMPT", "HARMONY__EXECUTION__DEFAULT_VERSION",
    "HARMONY__LOGGING__LEVEL"]

def surroundings : Surroundings IO where
  fileText path := attempt (IO.FS.readFile path)
  stdinText := do return (← attempt (readAll (← IO.getStdin) "")).mapError (·.reason)
  environment := variableNames.filterMapM fun name => do
    return (← IO.getEnv name).map (name, ·)

end Dialogue.Machine

def main (words : List String) : IO UInt32 := do
  let outcome ← Dialogue.Program.perform Dialogue.Machine.surroundings words
  IO.print outcome.stdout
  IO.eprint outcome.stderr
  return UInt32.ofNat outcome.exitCode
