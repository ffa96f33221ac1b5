import Dialogue.Text.Leading

/-!
# Arguments

The words after the program's name: options, the name of a task, and what the task takes. An option
has a value, which follows its long name after an equals sign, follows its short name at once, or is
the next word. The options for the configuration may stand before the name of the task or after it;
where they stand in both places, those after it count.

Whatever makes no sense is answered in the same way, so no reason is kept.
-/
namespace Dialogue

/-- What the program is asked to do. A task reads the standard input unless it is given a file. -/
inductive Task where
  | parse (file : Option String)
  | render (file : Option String)
  | validate (file : Option String)
  | run (file : Option String) (input : String) (tools : Option String) (reply : String)
  | config
  deriving Repr, DecidableEq

structure Arguments where
  configFile : Option String
  logLevel : Option String
  task : Task
  deriving Repr, DecidableEq

/-- Why words are no arguments: help is wanted, or they make no sense. -/
inductive Refusal where
  | help
  | misuse
  deriving Repr, DecidableEq

namespace Arguments

/-- An option. -/
structure Flag where
  name : String
  short : Option Char := none
  mayBeEmpty : Bool := false
  deriving Repr, DecidableEq

def configFlag : Flag := { name := "config" }

def logLevelFlag : Flag := { name := "log-level", mayBeEmpty := true }

def commonFlags : List Flag := [configFlag, logLevelFlag]

def inputFlag : Flag := { name := "input", short := some 'i', mayBeEmpty := true }

def toolsFlag : Flag := { name := "tools", short := some 't' }

def replyFlag : Flag := { name := "reply", mayBeEmpty := true }

def runFlags : List Flag := [inputFlag, toolsFlag, replyFlag]

/-- What a word is by its first characters. -/
inductive Word where
  /-- Two hyphens alone: all words after it are plain. -/
  | divider
  | long (name : String) (value : Option String)
  | short (name : Char) (value : Option String)
  | plain

/-- A value that is attached to a short name, with or without an equals sign. -/
def attached? : List Char → Option String
  | [] => none
  | '=' :: value => some (String.ofList value)
  | value => some (String.ofList value)

/-- The name before the first equals sign and the value after it. -/
def splitLong (cs : List Char) : Word :=
  .long (String.ofList (cs.takeWhile (· ≠ '=')))
    (match cs.dropWhile (· ≠ '=') with
      | [] => none
      | _ :: value => some (String.ofList value))

def Word.ofString (word : String) : Word :=
  match word.toList with
  | ['-', '-'] => .divider
  | '-' :: '-' :: cs => splitLong cs
  | '-' :: c :: cs => .short c (attached? cs)
  | _ => .plain

/-- A word that may be the value of the option before it. -/
def Word.isPlain : Word → Bool
  | plain => true
  | _ => false

/-- The options and plain words read so far. -/
structure Draft where
  values : List (String × String) := []
  plain : List String := []

def Draft.value? (d : Draft) (flag : Flag) : Option String := d.values.lookup flag.name

/-- Give an option its value, once. -/
def Draft.give (d : Draft) (flag : Flag) (value : String) : Except Refusal Draft :=
  if (d.value? flag).isSome || (value.isEmpty && !flag.mayBeEmpty) then .error .misuse
  else .ok { d with values := (flag.name, value) :: d.values }

/-- Take a plain word, of which there may be one, and which is not empty. -/
def Draft.take (d : Draft) (word : String) : Except Refusal Draft :=
  if word.isEmpty || !d.plain.isEmpty then .error .misuse else .ok { d with plain := [word] }

/-- The words of a task after its name: options and at most one plain word. -/
def readTask (flags : List Flag) (d : Draft) : List String → Except Refusal Draft
  | [] => .ok d
  | word :: rest =>
      let give (flag? : Option Flag) (value : Option String) : Except Refusal Draft :=
        match flag?, value with
        | none, _ => .error .misuse
        | some flag, some value => (d.give flag value).bind (readTask flags · rest)
        | some flag, none =>
            match rest with
            | [] => .error .misuse
            | next :: rest =>
                if (Word.ofString next).isPlain then
                  (d.give flag next).bind (readTask flags · rest)
                else .error .misuse
      match Word.ofString word with
      | .divider => rest.foldlM Draft.take d
      | .long name value =>
          if name = "help" ∧ value = none then .error .help
          else give (flags.find? (·.name = name)) value
      | .short name value =>
          if name = 'h' then .error .help else give (flags.find? (·.short = some name)) value
      | .plain => (d.take word).bind (readTask flags · rest)

/-- The words up to the name of the task: common options. -/
def readCommon (d : Draft) : List String → Except Refusal (Draft × String × List String)
  | [] => .error .misuse
  | word :: rest =>
      match Word.ofString word with
      | .divider => .error .misuse
      | .long name value =>
          if name = "help" ∧ value = none then .error .help
          else
            match commonFlags.find? (·.name = name), value, rest with
            | none, _, _ => .error .misuse
            | some flag, some value, rest => (d.give flag value).bind (readCommon · rest)
            | some _, none, [] => .error .misuse
            | some flag, none, next :: rest =>
                if (Word.ofString next).isPlain then (d.give flag next).bind (readCommon · rest)
                else .error .misuse
      | .short name _ => if name = 'h' then .error .help else .error .misuse
      | .plain => .ok (d, word, rest)

def taskNames : List String := ["parse", "render", "validate", "run", "config"]

/-- The task of that name with what was read for it. -/
def taskOf? (name : String) (d : Draft) : Option Task :=
  let file := d.plain.head?
  match name with
  | "parse" => some (.parse file)
  | "render" => some (.render file)
  | "validate" => some (.validate file)
  | "run" =>
      some (.run file ((d.value? inputFlag).getD "\x7b\x7d") (d.value? toolsFlag)
        ((d.value? replyFlag).getD ""))
  | "config" => if file.isSome then none else some .config
  | _ => none

/-- The arguments that words write. -/
def ofWords (words : List String) : Except Refusal Arguments := do
  let (common, name, rest) ← readCommon {} words
  if name = "help" then
    match rest with
    | [] => .error .help
    | [task] => .error (if task ∈ taskNames then .help else .misuse)
    | _ => .error .misuse
  else if name ∉ taskNames then .error .misuse
  else
    let flags := if name = "run" then commonFlags ++ runFlags else commonFlags
    let own ← readTask flags {} rest
    match taskOf? name own with
    | none => .error .misuse
    | some task =>
        let value? (flag : Flag) : Option String := (own.value? flag).or (common.value? flag)
        .ok ⟨value? configFlag, value? logLevelFlag, task⟩

end Arguments

end Dialogue
