import Dialogue.Number.Numeral
import Dialogue.Pattern.Basic

/-!
# Reading patterns

A pattern is written as characters that stand for themselves and marks: a point for any character
but a line end, sets in brackets, groups in parentheses, a bar between alternatives, counts after
what is repeated, and escapes. What cannot be read so is no pattern.

A class of characters may be named by a category or by a script. Groups that are called back are not
known here.

Digits, blanks and words are those of ASCII, or nearly so; in a pattern that looks around they are
those of any script.
-/
namespace Dialogue.Pattern

/-- How characters are compared and what the marks for ends mean; a group may change it. -/
structure Mode where
  anyCase : Bool := false
  lines : Bool := false
  /-- The point stands for line ends too. -/
  dotAll : Bool := false
  /-- Digits, blanks and words are those of any script. -/
  wide : Bool := false
  deriving Repr, DecidableEq

/-- What an escape stands for. -/
inductive Escaped where
  | char (c : Char)
  | set (s : CharSet)
  | place (p : Pattern)

def hexDigit? (c : Char) : Option Nat :=
  if c.isDigit then some (c.toNat - '0'.toNat)
  else if 'a' ≤ c ∧ c ≤ 'f' then some (c.toNat - 'a'.toNat + 10)
  else if 'A' ≤ c ∧ c ≤ 'F' then some (c.toNat - 'A'.toNat + 10)
  else none

/-- The character with the number that hexadecimal digits write. -/
def hexChar? (ds : List Char) : Option Char := do
  let n ← ds.foldlM (fun n d => (hexDigit? d).map (16 * n + ·)) 0
  if ds.isEmpty ∨ !n.isValidChar then none else return Char.ofNat n

/-- A number in braces, or of that many digits. -/
def readHex? (count : Nat) : List Char → Option (Char × List Char)
  | '{' :: cs =>
      match cs.dropWhile (· ≠ '}') with
      | _ :: rest => (hexChar? (cs.takeWhile (· ≠ '}'))).map (·, rest)
      | [] => none
  | cs => if cs.length < count then none else (hexChar? (cs.take count)).map (·, cs.drop count)

def controlChar? : Char → Option Char
  | 'a' => some '\x07'
  | 'f' => some '\x0c'
  | 'n' => some '\n'
  | 'r' => some '\r'
  | 't' => some '\t'
  | 'v' => some '\x0b'
  | _ => none

def classSet? (wide : Bool) : Char → Option CharSet
  | 'd' => some (CharSet.digitOf wide)
  | 'D' => some (.not (CharSet.digitOf wide))
  | 's' => some (CharSet.spaceOf wide)
  | 'S' => some (.not (CharSet.spaceOf wide))
  | 'w' => some (CharSet.wordOf wide)
  | 'W' => some (.not (CharSet.wordOf wide))
  | _ => none

/-- The class of characters whose category or script has a name. -/
def classByProperty? (property value : List Char) : Option Text.NamedClass :=
  let property := Text.NamedClass.plainName (String.ofList property)
  if ["gc", "generalcategory"].contains property then
    Text.NamedClass.ofCategoryName? (String.ofList value)
  else if ["sc", "script"].contains property then
    Text.NamedClass.ofScriptName? (String.ofList value)
  else none

/-- The set that a name stands for. Before the name may stand that of its property and a mark, which
says whether the characters have it. -/
def classByName? (cs : List Char) : Option CharSet :=
  let property := cs.takeWhile fun c => c != ':' && c != '='
  match cs.drop property.length with
  | [] => (Text.NamedClass.ofName? (String.ofList cs)).map .named
  | mark :: value =>
      if mark = '=' && property.getLast? == some '!' then
        (classByProperty? property.dropLast value).map fun k => .not (.named k)
      else (classByProperty? property value).map .named

/-- A class of characters by its name, which is one letter or stands in braces. -/
def readClass? : List Char → Option (CharSet × List Char)
  | '{' :: cs =>
      match cs.dropWhile (· ≠ '}') with
      | _ :: rest => (classByName? (cs.takeWhile (· ≠ '}'))).map (·, rest)
      | [] => none
  | c :: cs => (classByName? [c]).map (·, cs)
  | [] => none

def placeMark? : Char → Option Pattern
  | 'A' => some (.start false)
  | 'z' => some (.stop false)
  | 'b' => some (.edge true)
  | 'B' => some (.edge false)
  | _ => none

/-- Characters that a backslash may stand before without need. -/
def isEscapable (c : Char) : Bool := 0x20 < c.toNat && c.toNat < 0x7F && !c.isAlphanum &&
  c != '<' && c != '>'

/-- What comes after a backslash. -/
def readEscape? (wide : Bool) : List Char → Option (Escaped × List Char)
  | [] => none
  | 'p' :: cs => (readClass? cs).map fun (s, rest) => (.set s, rest)
  | 'P' :: cs => (readClass? cs).map fun (s, rest) => (.set (.not s), rest)
  | 'x' :: cs => (readHex? 2 cs).map fun (c, rest) => (.char c, rest)
  | 'u' :: cs => (readHex? 4 cs).map fun (c, rest) => (.char c, rest)
  | 'U' :: cs => (readHex? 8 cs).map fun (c, rest) => (.char c, rest)
  | 'c' :: letter :: cs =>
      if letter.isAlpha then some (.char (Char.ofNat (letter.toNat % 32)), cs) else none
  | c :: cs =>
      match classSet? wide c, controlChar? c, placeMark? c with
      | some s, _, _ => some (.set s, cs)
      | none, some d, _ => some (.char d, cs)
      | none, none, some p => some (.place p, cs)
      | none, none, none => if isEscapable c then some (.char c, cs) else none

def namedSet? (name : String) : Option CharSet :=
  [("alnum", CharSet.or .letter .digit), ("alpha", .letter), ("ascii", .range 0 0x7F),
    ("blank", .ofChars [' ', '\t']), ("cntrl", .ofRanges [(0, 0x1F), (0x7F, 0x7F)]),
    ("digit", .digit), ("graph", .range 0x21 0x7E), ("lower", .range 0x61 0x7A),
    ("print", .range 0x20 0x7E),
    ("punct", .and (.range 0x21 0x7E) (.not (.or .letter .digit))),
    ("space", .ofRanges [(0x09, 0x0D), (0x20, 0x20)]), ("upper", .range 0x41 0x5A),
    ("word", .word), ("xdigit", .ofRanges [(0x30, 0x39), (0x41, 0x46), (0x61, 0x66)])].lookup name

/-- A named set between colons in brackets, after the opening bracket. -/
def readNamedSet? : List Char → Option (CharSet × List Char)
  | ':' :: cs =>
      let (negated, cs) :=
        match cs with
        | '^' :: cs => (true, cs)
        | cs => (false, cs)
      match cs.dropWhile (· ≠ ':') with
      | ':' :: ']' :: rest =>
          (namedSet? (String.ofList (cs.takeWhile (· ≠ ':')))).map fun s =>
            (if negated then .not s else s, rest)
      | _ => none
  | _ => none

/-- One character or one class in a set. -/
def readSetItem? (wide : Bool) : List Char → Option ((Char ⊕ CharSet) × List Char)
  | [] => none
  | '\\' :: cs => do
      match ← readEscape? wide cs with
      | (.char c, rest) => return (.inl c, rest)
      | (.set s, rest) => return (.inr s, rest)
      | (.place _, _) => none
  | c :: cs => some (.inl c, cs)

def setOfItem : Char ⊕ CharSet → CharSet
  | .inl c => .single c
  | .inr s => s

/-- A range, a character or a class. -/
def readRange? (wide : Bool) (cs : List Char) : Option (CharSet × List Char) := do
  let (item, rest) ← readSetItem? wide cs
  match rest with
  | '-' :: more =>
      if more.head? = some ']' ∨ more.head? = some '-' then return (setOfItem item, rest)
      else
        match item, ← readSetItem? wide more with
        | .inl first, (.inl last, rest) =>
            if first ≤ last then return (.range first.toNat last.toNat, rest) else none
        | _, _ => none
  | rest => return (setOfItem item, rest)

/-- How two sets are put together. -/
inductive SetOperation where
  | intersection
  | difference
  | symmetricDifference

def SetOperation.apply : SetOperation → CharSet → CharSet → CharSet
  | intersection, s, t => .and s t
  | difference, s, t => .and s (.not t)
  | symmetricDifference, s, t => .xor s t

/-- The items of a set up to its closing bracket: `sofar` is united with them, and `pending` is
applied in the end. -/
def readSetItems? (wide : Bool) (inner : List Char → Option (CharSet × List Char)) :
    (fuel : Nat) → (pending : CharSet → CharSet) → (sofar : CharSet) → List Char →
      Option (CharSet × List Char)
  | 0, _, _, _ => none
  | fuel + 1, pending, sofar, cs =>
      let go (operation : SetOperation) (rest : List Char) :=
        readSetItems? wide inner fuel (operation.apply (pending sofar)) .none rest
      match cs with
      | [] => none
      | ']' :: rest => some (pending sofar, rest)
      | '&' :: '&' :: rest => go .intersection rest
      | '-' :: '-' :: rest => go .difference rest
      | '~' :: '~' :: rest => go .symmetricDifference rest
      | '[' :: rest => do
          let (s, rest) ← readNamedSet? rest <|> inner rest
          readSetItems? wide inner fuel pending (.or sofar s) rest
      | cs => do
          let (s, rest) ← readRange? wide cs
          readSetItems? wide inner fuel pending (.or sofar s) rest

/-- A set after its opening bracket, with `depth` levels of sets inside. -/
def readSet? (wide : Bool) : (depth : Nat) → List Char → Option (CharSet × List Char)
  | 0, _ => none
  | depth + 1, cs => do
      let (negated, cs) :=
        match cs with
        | '^' :: cs => (true, cs)
        | cs => (false, cs)
      let dashes := cs.takeWhile (· = '-')
      let cs := cs.drop dashes.length
      let (first, cs) :=
        match dashes, cs with
        | [], ']' :: cs => (CharSet.single ']', cs)
        | [], cs => (CharSet.none, cs)
        | _, cs => (CharSet.single '-', cs)
      let (s, rest) ← readSetItems? wide (readSet? wide depth) (cs.length + 1) id first cs
      return (if negated then .not s else s, rest)

/-- The largest count and one more. -/
def countBound : Nat := 4294967296

/-- A number with spaces around it. -/
def readCount? (cs : List Char) : Option (Nat × List Char) :=
  let cs := cs.dropWhile Char.isWhitespace
  let ds := cs.takeWhile Char.isDigit
  if ds.isEmpty ∨ countBound ≤ digitsValue ds then none
  else some (digitsValue ds, (cs.drop ds.length).dropWhile Char.isWhitespace)

/-- How often something is repeated, after what is repeated. -/
def readRepetition? : List Char → Option ((Nat × Option Nat) × List Char)
  | '?' :: cs => some ((0, some 1), cs)
  | '*' :: cs => some ((0, none), cs)
  | '+' :: cs => some ((1, none), cs)
  | '{' :: cs => do
      match ← readCount? cs with
      | (n, '}' :: rest) => return ((n, some n), rest)
      | (n, ',' :: '}' :: rest) => return ((n, none), rest)
      | (n, ',' :: rest) =>
          match ← readCount? rest with
          | (m, '}' :: rest) => if n ≤ m then return ((n, some m), rest) else none
          | _ => none
      | _ => none
  | _ => none

/-- A question mark after a count only changes which of several parts is found. -/
def withoutPreference : List Char → List Char
  | '?' :: cs => cs
  | cs => cs

/-- What stands after the opening parenthesis of a group. -/
inductive Opening where
  | plain (mode : Mode)
  | look (make : Pattern → Pattern)
  /-- No group: the mode changes for the rest of the group around. -/
  | change (mode : Mode)

/-- A mode with letters switched on, or off after a minus sign. Two more letters are allowed that do
not change which texts show a pattern. -/
def switched? : (on : Bool) → Mode → List Char → Option Mode
  | _, mode, [] => some mode
  | _, mode, '-' :: cs => switched? false mode cs
  | on, mode, 'i' :: cs => switched? on { mode with anyCase := on } cs
  | on, mode, 'm' :: cs => switched? on { mode with lines := on } cs
  | on, mode, 's' :: cs => switched? on { mode with dotAll := on } cs
  | on, mode, 'U' :: cs => switched? on mode cs
  | on, mode, 'u' :: cs => if on then switched? on mode cs else none
  | _, _, _ => none

/-- A mode up to a colon or parenthesis. No letter stands twice, and the minus sign not last. -/
def readMode? (mode : Mode) (cs : List Char) : Option (Opening × List Char) :=
  let letters := cs.takeWhile fun c => c != ':' && c != ')'
  if !letters.Nodup || letters.getLast? == some '-' then none
  else
    match switched? true mode letters, cs.drop letters.length with
    | some mode, ':' :: rest => some (.plain mode, rest)
    | some mode, ')' :: rest => some (.change mode, rest)
    | _, _ => none

/-- The name of a group up to its closing bracket. -/
def readName? (cs : List Char) : Option (List Char) :=
  match cs.takeWhile (· ≠ '>'), cs.dropWhile (· ≠ '>') with
  | c :: name, _ :: rest =>
      if (c.isAlpha || c = '_') && name.all fun d => d.isAlphanum || ['_', '.', '[', ']'].contains d
      then some rest else none
  | _, _ => none

def readOpening? (mode : Mode) : List Char → Option (Opening × List Char)
  | '?' :: '=' :: cs => some (.look (.before true), cs)
  | '?' :: '!' :: cs => some (.look (.before false), cs)
  | '?' :: '<' :: '=' :: cs => some (.look (.after true), cs)
  | '?' :: '<' :: '!' :: cs => some (.look (.after false), cs)
  | '?' :: 'P' :: '<' :: cs => (readName? cs).map (.plain mode, ·)
  | '?' :: '<' :: cs => (readName? cs).map (.plain mode, ·)
  | '?' :: ')' :: _ => none
  | '?' :: cs => readMode? mode cs
  | cs => some (.plain mode, cs)

def anyChar (mode : Mode) : CharSet := if mode.dotAll then .not .none else .not (.single '\n')

/-- Alternatives of parts in a row, up to a closing parenthesis or the end. In `row` are the parts
so far, the last one first, none of which is only a change of mode. -/
def readRows? (inner : Mode → List Char → Option (Pattern × List Char)) :
    (fuel : Nat) → Mode → (row : List Pattern) → List Char → Option (Pattern × List Char)
  | 0, _, _, _ => none
  | fuel + 1, mode, row, cs =>
      let whole := row.foldl (fun rest p => .seq p rest) empty
      let add (p : Pattern) (rest : List Char) := readRows? inner fuel mode (p :: row) rest
      match cs with
      | [] => some (whole, [])
      | ')' :: _ => some (whole, cs)
      | '|' :: rest => (readRows? inner fuel mode [] rest).map fun (p, rest) => (.or whole p, rest)
      | '(' :: rest => do
          match ← readOpening? mode rest with
          | (.change mode, rest) =>
              if (readRepetition? rest).isSome || rest.head? = some '{' then none
              else readRows? inner fuel mode row rest
          | (.plain mode, rest) =>
              match ← inner mode rest with
              | (p, ')' :: rest) => add p rest
              | _ => none
          | (.look make, rest) =>
              match ← inner mode rest with
              | (p, ')' :: rest) => add (make p) rest
              | _ => none
      | '[' :: rest => do
          let (s, rest) ← readSet? mode.wide 250 rest
          add (.one mode.anyCase s) rest
      | '\\' :: rest => do
          match ← readEscape? mode.wide rest with
          | (.char c, rest) => add (.one mode.anyCase (.single c)) rest
          | (.set s, rest) => add (.one mode.anyCase s) rest
          | (.place p, rest) => add p rest
      | '.' :: rest => add (.one mode.anyCase (anyChar mode)) rest
      | '^' :: rest => add (.start mode.lines) rest
      | '$' :: rest => add (.stop mode.lines) rest
      | c :: rest =>
          if ['?', '*', '+', '{'].contains c then do
            let ((least, most), rest) ← readRepetition? cs
            match row with
            | [] => none
            | p :: row =>
                readRows? inner fuel mode (.repeated p least most :: row) (withoutPreference rest)
          else add (.one mode.anyCase (.single c)) rest

/-- A pattern with `depth` levels of groups. -/
def readNested? : (depth : Nat) → Mode → List Char → Option (Pattern × List Char)
  | 0, _, _ => none
  | depth + 1, mode, cs => readRows? (readNested? depth) (cs.length + 1) mode [] cs

/-- The pattern that a text writes in a mode. -/
def readWhole? (mode : Mode) (s : String) : Option Pattern :=
  match readNested? 250 mode s.toList with
  | some (p, []) => some p
  | _ => none

/-- The pattern that a text writes. -/
def ofText? (s : String) : Option Pattern := do
  let p ← readWhole? {} s
  if p.looksAround then readWhole? { wide := true } s else return p

end Dialogue.Pattern
