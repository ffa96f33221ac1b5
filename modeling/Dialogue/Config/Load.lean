import Dialogue.Config.Basic
import Dialogue.Config.Toml

/-!
# Loading the configuration

The configuration comes from four sources, each of which is laid over those before it: the defaults,
a file, the variables of the environment, and the log level given by hand. Only the result has to
make sense; what a source says beyond it is passed over.
-/
namespace Dialogue

/-- Why there is no configuration. -/
inductive ConfigError where
  | fileNotFound (path : String)
  | unreadable
  | invalid
  deriving Repr, DecidableEq

def ConfigError.message : ConfigError → String
  | fileNotFound path => "Config file not found: " ++ path
  | unreadable => "Failed to load configuration"
  | invalid => "Invalid configuration"

namespace Config

/-- The file that is looked for when no other is given. -/
def defaultFile : String := "harmony.toml"

/-- What a variable has to begin with, in any letter case. -/
def variableStart : String := "harmony__"

/-- The defaults as settings. -/
def defaults : Settings :=
  let c : Config := {}
  Settings.setAll
    [("validation", .table [("warnings_fail", .flag c.warningsFail)]),
      ("execution",
        .table
          [("summarize_prompt", .text c.summarizePrompt),
            ("default_version", .text c.defaultVersion)]),
      ("logging", .table [("level", .text c.logLevel)])]
    []

/-- A text with every two underscores in a row made a point. -/
def withPoints : List Char → List Char
  | '_' :: '_' :: rest => '.' :: withPoints rest
  | c :: rest => c :: withPoints rest
  | [] => []

/-- A whole number of 64 bits, which may begin with a sign. -/
def integerOf? (cs : List Char) : Option Int :=
  let (negative, ds) :=
    match cs with
    | '-' :: ds => (true, ds)
    | '+' :: ds => (false, ds)
    | ds => (false, ds)
  if ds.isEmpty || !ds.all Char.isDigit then none
  else
    let n : Int := if negative then -(digitsValue ds : Int) else digitsValue ds
    if -9223372036854775808 ≤ n ∧ n < 9223372036854775808 then some n else none

/-- What a variable's value stands for: a flag, a number, or else the text itself. -/
def settingOfText (s : String) : Setting :=
  let word := Text.lowercase s
  if word = "true" then .flag true
  else if word = "false" then .flag false
  else
    match integerOf? s.toList with
    | some n => .integer n
    | none =>
        match Reading.ofText? s.toList with
        | some r => .float r
        | none => .text s

/-- The key and the setting of a variable, if it is one of the configuration. -/
def ofVariable? (name value : String) : Option (String × Setting) :=
  (Text.dropLeading? variableStart.toList (Text.lowercase name).toList).map fun key =>
    (String.ofList (withPoints key), settingOfText value)

/-- The members of a section that has to be there. -/
def section? (settings : Settings) (name : String) (keys : List String) :
    Option (List (Option Setting)) := do
  (← Entries.get? name settings).members? keys

/-- The path of the schema: the section and the value may both be absent. -/
def schemaPath? (settings : Settings) : Option (Option String) :=
  match Entries.get? "schema" settings with
  | none => some none
  | some s => do
      match ← s.members? ["envelope_path"] with
      | [some path] => return some (← path.asText?)
      | _ => return none

/-- The configuration that settings make up. -/
def ofSettings? (settings : Settings) : Option Config := do
  let envelopePath ← schemaPath? settings
  match ← section? settings "validation" ["warnings_fail"],
      ← section? settings "execution" ["summarize_prompt", "default_version"],
      ← section? settings "logging" ["level"] with
  | [some warningsFail], [some summarizePrompt, some defaultVersion], [some logLevel] =>
      return {
        envelopePath
        warningsFail := ← warningsFail.asFlag?
        summarizePrompt := ← summarizePrompt.asText?
        defaultVersion := ← defaultVersion.asText?
        logLevel := ← logLevel.asText? }
  | _, _, _ => none

/-- The configuration of all sources. -/
def load (file : Option String) (environment : List (String × String)) (logLevel : Option String) :
    Except ConfigError Config :=
  match (file.map Toml.settings?).getD (some []) with
  | none => .error .unreadable
  | some fromFile =>
      let fromVariables := environment.filterMap fun (name, value) => ofVariable? name value
      let fromHand := logLevel.toList.map fun level => ("logging.level", Setting.text level)
      let settings :=
        Settings.layOver fromHand <| Settings.layOver fromVariables <|
          Settings.layOver fromFile defaults
      match ofSettings? settings with
      | none => .error .invalid
      | some c => .ok c

end Config

end Dialogue
