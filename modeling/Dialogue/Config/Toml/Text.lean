import Dialogue.Text.Leading

/-!
# Texts in configuration files

A text stands between double quotes, where a backslash escapes, or between single quotes, as it is.
Three quotes in a row open a text that may go over line ends: a line end that follows at once is
dropped, every other one is kept as a line feed, and up to two quotes may stand beside the three
that close it.
-/
namespace Dialogue.Toml

def isGap (c : Char) : Bool := c = ' ' || c = '\t'

def skipGaps (cs : List Char) : List Char := cs.dropWhile isGap

/-- Characters that must not stand in a text or a comment. -/
def isControl (c : Char) : Bool := (c.toNat < 0x20 && c != '\t') || c.toNat = 0x7F

/-- What follows a line end. -/
def afterLineEnd? : List Char → Option (List Char)
  | '\n' :: cs => some cs
  | '\r' :: '\n' :: cs => some cs
  | _ => none

/-- What follows gaps and line ends. -/
def skipSpace : List Char → List Char
  | '\r' :: '\n' :: cs => skipSpace cs
  | c :: cs => if isGap c || c = '\n' then skipSpace cs else c :: cs
  | [] => []

def hexValue? (c : Char) : Option Nat :=
  if c.isDigit then some (c.toNat - '0'.toNat)
  else if 'a' ≤ c ∧ c ≤ 'f' then some (c.toNat - 'a'.toNat + 10)
  else if 'A' ≤ c ∧ c ≤ 'F' then some (c.toNat - 'A'.toNat + 10)
  else none

/-- The character whose number the first `count` hexadecimal digits write. -/
def hexChar? (count : Nat) (cs : List Char) : Option Char := do
  let n ← (cs.take count).foldlM (fun n d => (hexValue? d).map (16 * n + ·)) 0
  if count ≤ cs.length ∧ n.isValidChar then return Char.ofNat n else none

def simpleEscape? : Char → Option Char
  | 'b' => some '\x08'
  | 't' => some '\t'
  | 'n' => some '\n'
  | 'f' => some '\x0c'
  | 'r' => some '\r'
  | '"' => some '"'
  | '\\' => some '\\'
  | _ => none

/-- The character that an escape stands for and the length of the escape, after its backslash. -/
def escape? : List Char → Option (Char × Nat)
  | 'u' :: cs => (hexChar? 4 cs).map (·, 5)
  | 'U' :: cs => (hexChar? 8 cs).map (·, 9)
  | d :: _ => (simpleEscape? d).map (·, 1)
  | [] => none

/-- The text up to a closing double quote, and what comes after; `skip` characters at the front
belong to an escape that was met before. -/
def readEscaped? : (skip : Nat) → List Char → Option (List Char × List Char)
  | _, [] => none
  | skip + 1, _ :: cs => readEscaped? skip cs
  | 0, c :: cs =>
      let keep (d : Char) (skip : Nat) := (readEscaped? skip cs).map fun (s, rest) => (d :: s, rest)
      if c = '"' then some ([], cs)
      else if c = '\\' then (escape? cs).bind fun (d, length) => keep d length
      else if isControl c then none
      else keep c 0

/-- The text up to a closing single quote, as it stands, and what comes after. -/
def readLiteral? (cs : List Char) : Option (List Char × List Char) :=
  let s := cs.takeWhile (· ≠ '\'')
  match cs.dropWhile (· ≠ '\'') with
  | [] => none
  | _ :: rest => if s.any isControl then none else some (s, rest)

/-- The length of the space that a backslash at the end of a line hides: the line end and all gaps
and line ends around it. -/
def hiddenSpace? (cs : List Char) : Option Nat :=
  (afterLineEnd? (skipGaps cs)).map fun _ => cs.length - (skipSpace cs).length

/-- The text up to three closing quotes, and what comes after. Of the quotes in a row that end it
at most two belong to the text. In double quotes a backslash `escapes`. -/
def readLong? (quote : Char) (escapes : Bool) :
    (skip : Nat) → List Char → Option (List Char × List Char)
  | _, [] => none
  | skip + 1, _ :: cs => readLong? quote escapes skip cs
  | 0, c :: cs =>
      let keep (d : Char) (skip : Nat) :=
        (readLong? quote escapes skip cs).map fun (s, rest) => (d :: s, rest)
      if c = quote then
        let row := (cs.takeWhile (· = quote)).length + 1
        if row = 3 then some ([], cs.drop 2) else if 5 < row then none else keep c 0
      else if c = '\\' ∧ escapes then
        match hiddenSpace? cs with
        | some length => readLong? quote escapes length cs
        | none => (escape? cs).bind fun (d, length) => keep d length
      else if c = '\n' then keep '\n' 0
      else if c = '\r' ∧ cs.head? = some '\n' then keep '\n' 1
      else if isControl c then none
      else keep c 0

/-- A text on one line. -/
def readShortText? : List Char → Option (String × List Char)
  | '"' :: cs => (readEscaped? 0 cs).map fun (s, rest) => (String.ofList s, rest)
  | '\'' :: cs => (readLiteral? cs).map fun (s, rest) => (String.ofList s, rest)
  | _ => none

/-- A text of any form. -/
def readText? (cs : List Char) : Option (String × List Char) :=
  let long (quote : Char) (escapes : Bool) (cs : List Char) :=
    (readLong? quote escapes 0 ((afterLineEnd? cs).getD cs)).map fun (s, rest) =>
      (String.ofList s, rest)
  match cs with
  | '"' :: '"' :: '"' :: cs => long '"' true cs
  | '\'' :: '\'' :: '\'' :: cs => long '\'' false cs
  | cs => readShortText? cs

end Dialogue.Toml
