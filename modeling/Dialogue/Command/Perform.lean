import Dialogue.Command.Arguments
import Dialogue.Config.EnvFile
import Dialogue.Config.Load
import Dialogue.Load
import Dialogue.Run.Envelope
import Dialogue.Wire.Printer

/-!
# The program

What the program does with its words: read the configuration, load an envelope, and show it,
validate it or run it. The files, the standard input, the environment and the user who interrupts a
run are given from outside through `Surroundings`, in any monad, so that nothing here depends on a
real machine.

Failures of envelopes are results and are shown as JSON; whatever else goes wrong is a line for
people.
-/
namespace Dialogue

/-- Why a file cannot be read. -/
structure FileFault where
  /-- There is something under the name, though its text cannot be read. -/
  present : Bool
  reason : String
  deriving Repr, DecidableEq

/-- What the program finds around it. -/
structure Surroundings (m : Type → Type) where
  /-- The text of a file, or why it cannot be read. -/
  fileText : String → m (Except FileFault String)
  stdinText : m (Except String String)
  /-- Variables with their values. -/
  environment : m (List (String × String))
  /-- Whether a run is interrupted before it takes the turn of that number. -/
  interrupted : (turn : Nat) → Bool := fun _ => false

/-- What the program leaves behind. -/
structure Outcome where
  exitCode : Nat := 0
  stdout : String := ""
  stderr : String := ""
  deriving Repr, DecidableEq

namespace Outcome

/-- A line of output. -/
def shown (line : String) : Outcome := { stdout := line ++ "\n" }

/-- A value that ends the program as a failure. -/
def refused (j : Json) : Outcome := { exitCode := 1, stdout := j.indented ++ "\n" }

def ofFailure (failure : Failure) : Outcome := refused (.obj failure.listing)

/-- A line for people about what went wrong. -/
def complaint (message : String) : Outcome :=
  { exitCode := 1, stderr := "Error: " ++ message ++ "\n" }

def ofResult (result : RunResult) : Outcome :=
  { exitCode := if result.succeeded then 0 else 1
    stdout := (Json.obj result.listing).indented ++ "\n" }

def usage : String :=
  "Usage: harmony [--config FILE] [--log-level LEVEL] TASK\n\n" ++
    "Tasks:\n" ++
    "  parse [FILE]     print an envelope or wire text as JSON\n" ++
    "  render [FILE]    print an envelope or wire text as wire text\n" ++
    "  validate [FILE]  check an envelope against the schema and the rules\n" ++
    "  run [FILE] [-i INPUT] [-t TOOLS] [--reply REPLY]\n" ++
    "                   validate an envelope and run its script\n" ++
    "  config           print the configuration\n"

def ofRefusal : Refusal → Outcome
  | .help => { stdout := usage }
  | .misuse => { exitCode := 2, stderr := usage }

end Outcome

namespace Program

variable {m : Type → Type} [Monad m]

/-- A part of the program, which may end it early. -/
abbrev Attempt (m : Type → Type) := ExceptT Outcome m

/-- The value, or the end of the program. -/
def orElse {α ε : Type} (outcome : ε → Outcome) (r : Except ε α) : Attempt m α :=
  match r with
  | .ok a => pure a
  | .error e => throw (outcome e)

/-- The first variable of each name. -/
def firstOfEach (environment : List (String × String)) : List (String × String) :=
  environment.foldl (fun sofar v => if (sofar.lookup v.1).isSome then sofar else sofar ++ [v]) []

/-- The environment, filled up from an environment file. Of variables with one name the first
counts. -/
def environment (s : Surroundings m) : Attempt m (List (String × String)) := do
  let given ← s.environment
  match ← s.fileText ".env" with
  | .error _ => return firstOfEach given
  | .ok text => return firstOfEach (EnvFile.addLines (EnvFile.lines text) given)

/-- Why a configuration file that is named cannot be used. -/
def configFault (path : String) (fault : FileFault) : ConfigError :=
  if fault.present then .unreadable else .fileNotFound path

/-- The text of the configuration file; one that is named has to be there. -/
def configText (s : Surroundings m) (named : Option String) : Attempt m (Option String) := do
  match named with
  | none =>
      match ← s.fileText Config.defaultFile with
      | .ok text => return some text
      | .error _ => return none
  | some path =>
      match ← s.fileText path with
      | .ok text => return some text
      | .error fault => throw (.complaint (configFault path fault).message)

def config (s : Surroundings m) (named logLevel : Option String) : Attempt m Config := do
  let environment ← environment s
  let text ← configText s named
  orElse (fun e => .complaint e.message) (Config.load text environment logLevel)

/-- The text that a task works on. -/
def input (s : Surroundings m) (file : Option String) : Attempt m String := do
  match file with
  | none => orElse (fun _ => .complaint "Failed to read stdin") (← s.stdinText)
  | some path => orElse (fun _ => .complaint ("Failed to read " ++ path)) (← s.fileText path)

def envelope (s : Surroundings m) (c : Config) (file : Option String) : Attempt m Envelope := do
  orElse .ofFailure (Envelope.load (← input s file) c.defaultVersion)

/-- The structural checks that are configured. -/
def checks (s : Surroundings m) (c : Config) : Attempt m StructureChecks := do
  match c.envelopePath with
  | none => return .bundled
  | some path =>
      let text ← orElse
        (fun fault => .complaint ("failed to read schema " ++ path ++ ": " ++ fault.reason))
        (← s.fileText path)
      let document ← orElse
        (fun reason => .complaint ("schema document is not valid JSON: " ++ reason))
        (Json.ofText text)
      orElse (fun e => .complaint e.message) (StructureChecks.ofDocument document)

/-- The input of a script. -/
def scriptInput (text : String) : Attempt m Fields := do
  match ← orElse (fun _ => .complaint "--input must be JSON") (Json.ofText text) with
  | .obj fields => return fields
  | j => throw (.complaint ("--input must be a JSON object, got " ++ j.compact))

/-- The tools that a file has recorded results of. -/
def tools (s : Surroundings m) (file : Option String) : Attempt m (Registry Unit) := do
  match file with
  | none => return .empty
  | some path =>
      let text ← orElse (fun _ => .complaint ("Failed to read " ++ path)) (← s.fileText path)
      match ← orElse (fun _ => .complaint ("Invalid JSON in " ++ path)) (Json.ofText text) with
      | .obj fixtures => return .ofFixtures fixtures
      | _ => throw (.complaint ("Tool fixtures in " ++ path ++ " must be a JSON object"))

/-- A chat model that always gives the same reply, beside registered tools. Only the user stops the
run. -/
def collaborators (reply : String) (tools : Registry Unit) (interrupted : Nat → Bool) :
    Collaborators Unit where
  complete _ world := (.ok reply, world)
  resolve space function world := (tools.resolve space function, world)
  cancelled _ := false
  interrupted

def runTask (s : Surroundings m) (c : Config) (file : Option String) (text : String)
    (toolsFile : Option String) (reply : String) : Attempt m Outcome := do
  let e ← envelope s c file
  let fields ← scriptInput text
  let registry ← tools s toolsFile
  let checks ← checks s c
  let setup : RunSetup := { summarizePrompt := c.summarizePrompt }
  let around := collaborators reply registry s.interrupted
  match (e.run checks c.validationOptions around setup fields ()).1 with
  | .error failure => return .ofFailure failure
  | .ok result => return .ofResult result

def doTask (s : Surroundings m) (c : Config) : Task → Attempt m Outcome
  | .parse file => do return .shown (Json.obj (← envelope s c file).listing).indented
  | .render file => do return .shown (Wire.render (← envelope s c file).messages)
  | .validate file => do
      let e ← envelope s c file
      match e.failure? (← checks s c) c.validationOptions with
      | none => return .shown "valid"
      | some failure => return .ofFailure failure
  | .run file text toolsFile reply => runTask s c file text toolsFile reply
  | .config => return { stdout := c.toToml }

/-- What the program does with words. -/
def perform (s : Surroundings m) (words : List String) : m Outcome := do
  match Arguments.ofWords words with
  | .error refusal => return .ofRefusal refusal
  | .ok arguments =>
      let attempt : Attempt m Outcome := do
        doTask s (← config s arguments.configFile arguments.logLevel) arguments.task
      match ← attempt.run with
      | .ok outcome => return outcome
      | .error outcome => return outcome

end Program

end Dialogue
