import Dialogue.Schema.Document

/-!
# The schema of envelopes and scripts

The schema used where no other is given. An envelope has a version and a list of messages; a script
is a list of steps, each of which is exactly one of five kinds. Neither the version nor a list has
to hold anything, and further properties are allowed everywhere.
-/
namespace Dialogue.Schema.Bundled

/-- A value of one kind. -/
def ofKind (kind : JsonType) : Keyword := .type [kind] false

/-- A value of one kind, or null. -/
def orNull (kind : JsonType) : Keyword := .type [.null, kind] true

/-- Schemas of single properties; there may be others. -/
def having (own : List (String × Schema)) : Keyword := .properties own [] none

/-- A list of what the target of a name describes. -/
def listOf (name : String) : Schema :=
  .all [.items 0 (.all [.reference ("#/$defs/" ++ name)]), ofKind .array]

def string : Schema := .all [ofKind .string]

def stringOrNull : Schema := .all [orNull .string]

def steps : Schema := listOf "Step"

/-- One of the names, or null. -/
def nameOrNull (names : List String) : Schema := .all [.among (names.map .str ++ [.null])]

def kind (name : String) : String × Schema := ("type", .all [.const (.str name)])

def envelope : Schema :=
  .all
    [having [("HRFVersion", string), ("messages", listOf "Message")],
      .required ["HRFVersion", "messages"], ofKind .object]

def message : Schema :=
  .all
    [having
      [("channel", nameOrNull ["analysis", "commentary", "final"]), ("content", .anything),
        ("contentType", stringOrNull), ("recipient", stringOrNull), ("role", string),
        ("termination", nameOrNull ["end", "call", "return"])],
      .required ["role", "content"], ofKind .object]

def script : Schema :=
  .all
    [having [("steps", steps), ("vars", .all [orNull .object])], .required ["steps"],
      ofKind .object]

def step : Schema :=
  .all
    [.oneOf
      (["ExtractInputStep", "ToolCallStep", "IfStep", "AssistantMessageStep", "HaltStep"].map
        fun name => .all [.reference ("#/$defs/" ++ name)]),
      .required ["type"], ofKind .object]

def extractStep : Schema :=
  .all
    [having
      [("output", .all [.properties [] [] (some string), ofKind .object]), kind "extract_input"],
      .required ["type", "output"]]

def toolStep : Schema :=
  .all
    [having
      [("args", .all [ofKind .object]), ("channel", string), ("recipient", string),
        ("save_as", string), kind "tool_call"],
      .required ["type", "recipient", "channel", "save_as"]]

def branchStep : Schema :=
  .all
    [having [("condition", string), ("else", steps), ("then", steps), kind "if"],
      .required ["type", "condition"]]

def utteranceStep : Schema :=
  .all
    [having
      [("channel", string), ("content", stringOrNull), ("content_template", stringOrNull),
        kind "assistant_message"],
      .required ["type", "channel"]]

def haltStep : Schema := .all [having [kind "halt"], .required ["type"]]

def targets : Targets :=
  [("#/$defs/AssistantMessageStep", utteranceStep), ("#/$defs/ExtractInputStep", extractStep),
    ("#/$defs/HaltStep", haltStep), ("#/$defs/HarmonyScript", script),
    ("#/$defs/IfStep", branchStep), ("#/$defs/Message", message), ("#/$defs/Step", step),
    ("#/$defs/ToolCallStep", toolStep)]

end Dialogue.Schema.Bundled
