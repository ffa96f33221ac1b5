import Dialogue.Json.Decoder
import Dialogue.Script.Rules

/-!
# Scripts as values

A step is an object with its kind under `type` and the fields of that kind, all of them. It is read
from objects that leave optional fields out, and from lists that begin with the kind. A step is read
in full, the steps inside its branches first, and then has to pass its own rules; so a script that
was read satisfies all rules. Inside a branch a kind may also be written as its number.
-/
namespace Dialogue

open Json (Mismatch Decoder Slot Record ShapedSlot unwanted asText asTexts asObject asOptional)

namespace Step

def textFields (output : Entries String) : Fields := output.map fun (k, s) => (k, .str s)

mutual

def toJson : Step → Json
  | .extract output => .obj [("output", .obj (textFields output)), ("type", .str "extract_input")]
  | .tool call =>
      .obj
        [("args", .obj call.args), ("channel", .str call.channel),
          ("recipient", .str call.recipient), ("save_as", .str call.saveAs),
          ("type", .str "tool_call")]
  | .branch condition onTrue onFalse =>
      .obj
        [("condition", .str condition), ("else", .arr (toJsonAll onFalse)),
          ("then", .arr (toJsonAll onTrue)), ("type", .str "if")]
  | .say u =>
      .obj
        [("channel", .str u.channel), ("content", u.content.elim .null .str),
          ("content_template", u.template.elim .null .str), ("type", .str "assistant_message")]
  | .halt => .obj [("type", .str "halt")]
termination_by structural s => s

def toJsonAll : List Step → List Json
  | [] => []
  | s :: rest => toJson s :: toJsonAll rest
termination_by structural steps => steps

end

end Step

/-- The variables are left out where there are none. -/
def Script.toJson (script : Script) : Json :=
  let steps : String × Json := ("steps", .arr (Step.toJsonAll script.steps))
  match script.vars with
  | none => .obj [steps]
  | some vars => .obj [steps, ("vars", .obj vars)]

namespace Step

/-- The kinds of step, in the order in which messages list them. -/
inductive Kind where
  | extractInput
  | toolCall
  | branch
  | assistantMessage
  | halt
  deriving Repr, DecidableEq

def Kind.known : List (String × Kind) :=
  [("extract_input", .extractInput), ("tool_call", .toolCall), ("if", .branch),
    ("assistant_message", .assistantMessage), ("halt", .halt)]

def Kind.names : List String := Kind.known.map (·.1)

/-- The field that holds the kind. -/
def kindKey : String := "type"

/-- What a message calls the wanted value where something else than a step was found. -/
def wantedStep : String := "internally tagged enum StepRepr"

/-- The value of a field together with what it is when read as a list of steps. -/
structure Part where
  value : Json
  steps : Except Mismatch (List Step)

def extractRecord : Record Part (Entries String) :=
  ⟨"ExtractInput",
    [⟨"output", true, fun p _ => (asTexts p.value).map Entries.ofList⟩],
    []⟩

def toolRecord : Record Part ToolCall :=
  ⟨"ToolCall",
    [⟨"recipient", true, fun p call => (asText p.value).map ({ call with recipient := · })⟩,
      ⟨"channel", true, fun p call => (asText p.value).map ({ call with channel := · })⟩,
      ⟨"args", false, fun p call => (asObject p.value).map ({ call with args := · })⟩,
      ⟨"save_as", true, fun p call => (asText p.value).map ({ call with saveAs := · })⟩],
    {}⟩

/-- The parts of a branch. -/
structure BranchParts where
  condition : String := ""
  onTrue : List Step := []
  onFalse : List Step := []

def branchRecord : Record Part BranchParts :=
  ⟨"IfStep",
    [⟨"condition", true, fun p b => (asText p.value).map ({ b with condition := · })⟩,
      ⟨"then", false, fun p b => p.steps.map ({ b with onTrue := · })⟩,
      ⟨"else", false, fun p b => p.steps.map ({ b with onFalse := · })⟩],
    {}⟩

def utteranceRecord : Record Part Utterance :=
  ⟨"AssistantMessage",
    [⟨"channel", true, fun p u => (asText p.value).map ({ u with channel := · })⟩,
      ⟨"content", false, fun p u => (asOptional asText p.value).map ({ u with content := · })⟩,
      ⟨"content_template", false,
        fun p u => (asOptional asText p.value).map ({ u with template := · })⟩],
    {}⟩

/-- Any fields: a halt has none of its own. -/
def haltRecord : Record Part Unit := ⟨"Halt", [], ()⟩

/-- The step of a kind, once its record can be read. -/
def ofKind (read : {σ : Type} → Record Part σ → Except Mismatch σ) :
    Kind → Except Mismatch Step
  | .extractInput => (read extractRecord).map .extract
  | .toolCall => (read toolRecord).map .tool
  | .branch => (read branchRecord).map fun b => .branch b.condition b.onTrue b.onFalse
  | .assistantMessage => (read utteranceRecord).map .say
  | .halt => (read haltRecord).map fun _ => .halt

/-- A step that passes its own rules. -/
def checked (s : Step) : Except Mismatch Step :=
  match check s with
  | .ok _ => .ok s
  | .error e => .error (.refused e.message)

/-- How the kind of a step may be written. -/
inductive KindForm where
  | named
  /-- By its name or by its place among the kinds. -/
  | numbered
  deriving Repr, DecidableEq

/-- The kind at a place in the list of kinds. -/
def Kind.ofNumber (n : Number) : Except Mismatch Kind :=
  match n with
  | .whole i =>
      if i.value < 0 then unwanted (.num n) "variant identifier"
      else
        match Kind.known[i.value.toNat]? with
        | some (_, kind) => .ok kind
        | none =>
            .error (.wrongValue (.num n) s!"variant index 0 <= i < {Kind.known.length}")
  | .float _ => unwanted (.num n) "variant identifier"

def KindForm.read : KindForm → Json → Except Mismatch Kind
  | _, .str name => Json.asNamed Kind.known name
  | .numbered, .num n => Kind.ofNumber n
  | _, j => unwanted j "variant identifier"

/-- The kind that the fields name, once. -/
def kindOf (form : KindForm) : Option Kind → List (String × Part) → Except Mismatch Kind
  | some kind, [] => .ok kind
  | none, [] => .error (.missingField kindKey)
  | found, (key, p) :: rest =>
      if key ≠ kindKey then kindOf form found rest
      else if found.isSome then .error (.duplicateField kindKey)
      else
        match form.read p.value with
        | .error mismatch => .error mismatch
        | .ok kind => kindOf form (some kind) rest

/-- A step in object form. -/
def ofParts (form : KindForm) (parts : List (String × Part)) : Except Mismatch Step :=
  match kindOf form none parts with
  | .error mismatch => .error mismatch
  | .ok kind =>
      let rest := parts.filter fun (key, _) => key ≠ kindKey
      match ofKind (fun r => r.ofEntries rest) kind with
      | .error mismatch => .error mismatch
      | .ok s => checked s

/-- How the refusal of too long a list names the length of a record. -/
def elementsInSequence (n : Nat) : String :=
  if n = 1 then "1 element in sequence" else s!"{n} elements in sequence"

/-- A step in list form. -/
def ofRow (form : KindForm) : List Part → Except Mismatch Step
  | [] => .error (.missingField kindKey)
  | first :: rest =>
      match form.read first.value with
      | .error mismatch => .error mismatch
      | .ok kind =>
          let read {σ : Type} (r : Record Part σ) : Except Mismatch σ :=
            r.ofItems (elementsInSequence r.slots.length) rest
          match ofKind read kind with
          | .error mismatch => .error mismatch
          | .ok s => checked s

mutual

/-- The step that a value inside a branch holds. -/
def ofBranchItem : Json → Except Mismatch Step
  | .obj fields => ofParts .numbered (partsOfFields fields)
  | .arr items => ofRow .numbered (partsOfItems items)
  | .null => unwanted .null wantedStep
  | .bool b => unwanted (.bool b) wantedStep
  | .num n => unwanted (.num n) wantedStep
  | .str s => unwanted (.str s) wantedStep
termination_by structural j => j

def partsOfFields : List (String × Json) → List (String × Part)
  | [] => []
  | (key, j) :: rest => (key, ⟨j, branchOfJson j⟩) :: partsOfFields rest
termination_by structural fields => fields

def partsOfItems : List Json → List Part
  | [] => []
  | j :: rest => ⟨j, branchOfJson j⟩ :: partsOfItems rest
termination_by structural items => items

/-- The steps of a branch that a value holds. -/
def branchOfJson : Json → Except Mismatch (List Step)
  | .arr items => branchOfItems items
  | .null => unwanted .null "a sequence"
  | .bool b => unwanted (.bool b) "a sequence"
  | .num n => unwanted (.num n) "a sequence"
  | .str s => unwanted (.str s) "a sequence"
  | .obj fields => unwanted (.obj fields) "a sequence"
termination_by structural j => j

def branchOfItems : List Json → Except Mismatch (List Step)
  | [] => .ok []
  | j :: rest =>
      match ofBranchItem j with
      | .error mismatch => .error mismatch
      | .ok s =>
          match branchOfItems rest with
          | .error mismatch => .error mismatch
          | .ok steps => .ok (s :: steps)
termination_by structural items => items

end

/-- The step that a value holds. -/
def ofJson : Json → Except Mismatch Step
  | .obj fields => ofParts .named (partsOfFields fields)
  | .arr items => ofRow .named (partsOfItems items)
  | j => unwanted j wantedStep

def decoder : Decoder Step :=
  ⟨.tagged wantedStep kindKey Kind.names fun j => (ofJson j).map fun _ => (), ofJson⟩

end Step

namespace Script

def slots : List (ShapedSlot Script) :=
  [.ofDefault "vars" (.optional .object) fun vars script => { script with vars },
    .ofRequired "steps" (.listOf Step.decoder) fun steps script => { script with steps }]

def decoder : Decoder Script := .record "Script" slots {}

def ofJson : Json → Except Mismatch Script := decoder.ofJson

end Script

end Dialogue
