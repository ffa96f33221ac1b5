import Dialogue.Json.Fault
import Dialogue.Number.Numeral

/-!
# Words, strings and numbers of JSON text

Each function reads one thing from the front of a text and gives it with the text that follows. The
`skip` functions pass over a thing whose value nobody wants. They check less: the range of a number
and the pairing of surrogates are not looked at.

A string is read with as much fuel as there are characters, so the fuel does not run out.
-/
namespace Dialogue.Json

/-- A thing read from the front of a text and the text after it. -/
abbrev Scan (α : Type) := Except Fault (α × List Char)

def isJsonBlank (c : Char) : Bool := c = ' ' || c = '\n' || c = '\t' || c = '\r'

def skipBlanks (cs : List Char) : List Char := cs.dropWhile isJsonBlank

/-- The text after the word `expected`. -/
def expectWord : (expected cs : List Char) → Except Fault (List Char)
  | [], cs => .ok cs
  | _ :: _, [] => .error (.before .endInValue [])
  | e :: es, c :: cs =>
      if c = e then expectWord es cs else .error (.within .expectedIdent (c :: cs))

def hexValue? (c : Char) : Option Nat :=
  if c.isDigit then some (c.toNat - 48)
  else if 'a' ≤ c ∧ c ≤ 'f' then some (c.toNat - 87)
  else if 'A' ≤ c ∧ c ≤ 'F' then some (c.toNat - 55)
  else none

/-- The number that four hexadecimal digits write. -/
def hexValues? (a b c d : Char) : Option Nat := do
  let a ← hexValue? a
  let b ← hexValue? b
  let c ← hexValue? c
  let d ← hexValue? d
  return ((a * 16 + b) * 16 + c) * 16 + d

/-- Four hexadecimal digits. Four bytes count as read even where they are not digits. -/
def hexEscape (cs : List Char) : Scan Nat :=
  let bytes := Text.byteLength cs
  let bad : Fault :=
    if 4 ≤ bytes then ⟨.malformed .invalidEscape, bytes - 4⟩ else .before .endInString []
  match cs with
  | a :: b :: c :: d :: rest =>
      match hexValues? a b c d with
      | some n => .ok (n, rest)
      | none => .error bad
  | _ => .error bad

def isLeadingSurrogate (n : Nat) : Bool := 0xD800 ≤ n && n ≤ 0xDBFF

def isTrailingSurrogate (n : Nat) : Bool := 0xDC00 ≤ n && n ≤ 0xDFFF

/-- The character that a pair of surrogates encodes. -/
def surrogatePair (high low : Nat) : Char :=
  Char.ofNat ((high - 0xD800) * 0x400 + (low - 0xDC00) + 0x10000)

/-- The other half of a character whose first half was the leading surrogate `high`. -/
def trailingEscape (high : Nat) (cs : List Char) : Scan Char :=
  match cs with
  | [] => .error (.before .endInString [])
  | '\\' :: [] => .error (.before .endInString [])
  | '\\' :: 'u' :: cs =>
      match hexEscape cs with
      | .error fault => .error fault
      | .ok (low, rest) =>
          if isTrailingSurrogate low then .ok (surrogatePair high low, rest)
          else .error (.before .loneSurrogate rest)
  | '\\' :: cs => .error (.within .endInEscape cs)
  | cs => .error (.within .endInEscape cs)

/-- The character of a letter after a backslash. -/
def simpleEscape? (c : Char) : Option Char :=
  if c = '"' ∨ c = '\\' ∨ c = '/' then some c
  else if c = 'b' then some (Char.ofNat 8)
  else if c = 'f' then some (Char.ofNat 12)
  else if c = 'n' then some '\n'
  else if c = 'r' then some '\r'
  else if c = 't' then some '\t'
  else none

/-- The character of an escape, after its backslash. -/
def escapeAt (cs : List Char) : Scan Char :=
  match cs with
  | [] => .error (.before .endInString [])
  | c :: cs =>
      if c = 'u' then
        match hexEscape cs with
        | .error fault => .error fault
        | .ok (n, rest) =>
            if isTrailingSurrogate n then .error (.before .loneSurrogate rest)
            else if isLeadingSurrogate n then trailingEscape n rest
            else .ok (Char.ofNat n, rest)
      else
        match simpleEscape? c with
        | some d => .ok (d, cs)
        | none => .error (.within .invalidEscape (c :: cs))

/-- The characters of a string up to its closing quote. -/
def stringBody : Nat → List Char → Scan (List Char)
  | 0, cs => .error (.before .endInString cs)
  | _, [] => .error (.before .endInString [])
  | fuel + 1, c :: cs =>
      if c = '"' then .ok ([], cs)
      else if c = '\\' then
        match escapeAt cs with
        | .error fault => .error fault
        | .ok (d, rest) => (stringBody fuel rest).map fun r => (d :: r.1, r.2)
      else if c.toNat < 0x20 then .error (.before .controlCharacter cs)
      else (stringBody fuel cs).map fun r => (c :: r.1, r.2)

/-- A string after its opening quote. -/
def stringAt (cs : List Char) : Scan String :=
  (stringBody (cs.length + 1) cs).map fun r => (String.ofList r.1, r.2)

/-- The text after an escape that nobody wants, after its backslash. -/
def skipEscape (cs : List Char) : Except Fault (List Char) :=
  match cs with
  | [] => .error (.before .endInString [])
  | c :: cs =>
      if c = 'u' then (hexEscape cs).map (·.2)
      else if (simpleEscape? c).isSome then .ok cs
      else .error (.within .invalidEscape (c :: cs))

/-- The text after a string that nobody wants, after its opening quote. -/
def skipStringWith : Nat → List Char → Except Fault (List Char)
  | 0, cs => .error (.before .endInString cs)
  | _, [] => .error (.before .endInString [])
  | fuel + 1, c :: cs =>
      if c = '"' then .ok cs
      else if c = '\\' then
        match skipEscape cs with
        | .error fault => .error fault
        | .ok rest => skipStringWith fuel rest
      else if c.toNat < 0x20 then .error (.before .controlCharacter (c :: cs))
      else skipStringWith fuel cs

def skipString (cs : List Char) : Except Fault (List Char) := skipStringWith (cs.length + 1) cs

/-- The largest significand that is kept in full. -/
def maxSignificand : Nat := 18446744073709551615

/-- The significand continued by digits as long as it keeps below `2 ^ 64`, and how many it took. -/
def pushDigits (significand : Nat) : List Char → Nat × Nat
  | [] => (significand, 0)
  | d :: ds =>
      let next := significand * 10 + digitValue d
      if next ≤ maxSignificand then
        let (last, taken) := pushDigits next ds
        (last, taken + 1)
      else (significand, 0)

/-- The float for `± significand * 10 ^ exponent`, when the text after it is `rest`. -/
def floatAt (negative : Bool) (significand : Nat) (exponent : Int) (rest : List Char) :
    Scan Number :=
  match Binary64.approximate negative significand exponent with
  | some x => .ok (.float x, rest)
  | none => .error (.before .numberOutOfRange rest)

/-- An exponent is a number of 31 bits; digits beyond are not counted. -/
def maxExponent : Nat := 2147483647

/-- The exponent that digits write, or the digits after the one that makes it too large. -/
def exponentDigits (exponent : Nat) : List Char → Except (List Char) Nat
  | [] => .ok exponent
  | d :: ds =>
      let next := exponent * 10 + digitValue d
      if next ≤ maxExponent then exponentDigits next ds else .error ds

/-- The exponent of a number, after its letter, added to `start`. -/
def exponentAt (negative : Bool) (significand : Nat) (start : Int) (cs : List Char) :
    Scan Number :=
  let (down, cs) :=
    match cs with
    | '+' :: cs => (false, cs)
    | '-' :: cs => (true, cs)
    | cs => (false, cs)
  match cs with
  | [] => .error (.before .endInValue [])
  | c :: _ =>
      if !c.isDigit then .error (.within .invalidNumber cs)
      else
        let rest := cs.dropWhile Char.isDigit
        match exponentDigits 0 (cs.takeWhile Char.isDigit) with
        | .ok e => floatAt negative significand (if down then start - e else start + e) rest
        | .error unread =>
            if significand ≠ 0 ∧ !down then
              .error (.before .numberOutOfRange (unread ++ rest))
            else .ok (.float (.zero negative), rest)

/-- The fraction of a number, after its point. -/
def fractionAt (negative : Bool) (significand : Nat) (start : Int) (cs : List Char) :
    Scan Number :=
  let ds := cs.takeWhile Char.isDigit
  let rest := cs.dropWhile Char.isDigit
  if ds.isEmpty then
    match rest with
    | [] => .error (.before .endInValue [])
    | _ :: _ => .error (.within .invalidNumber rest)
  else
    let (significand, taken) := pushDigits significand ds
    let exponent := start - taken
    match rest with
    | c :: after =>
        if c = 'e' ∨ c = 'E' then exponentAt negative significand exponent after
        else floatAt negative significand exponent rest
    | [] => floatAt negative significand exponent rest

/-- The whole number `± significand`. The negative zero and numbers below `-2 ^ 63` are floats. -/
def wholeNumber (negative : Bool) (significand : Nat) : Number :=
  let n : Int := if negative then -(significand : Int) else significand
  if negative ∧ significand = 0 then .float (.zero true)
  else
    match Whole.ofInt? n with
    | some w => .whole w
    | none => .float (.round negative significand 1)

/-- What follows the digits before the point: a fraction, an exponent or nothing. The significand
stands for itself times a power of ten, `dropped`, which counts the digits it had no room for. -/
def afterDigits (negative : Bool) (significand dropped : Nat) (rest : List Char) : Scan Number :=
  let plain : Scan Number :=
    if dropped = 0 then .ok (wholeNumber negative significand, rest)
    else floatAt negative significand dropped rest
  match rest with
  | [] => plain
  | c :: after =>
      if c = '.' then fractionAt negative significand dropped after
      else if c = 'e' ∨ c = 'E' then exponentAt negative significand dropped after
      else plain

/-- A number after its sign. -/
def numberAt (negative : Bool) (cs : List Char) : Scan Number :=
  match cs with
  | [] => .error (.before .endInValue [])
  | c :: after =>
      if c = '0' then
        match after with
        | d :: _ =>
            if d.isDigit then .error (.within .invalidNumber after)
            else afterDigits negative 0 0 after
        | [] => afterDigits negative 0 0 after
      else if c.isDigit then
        let ds := cs.takeWhile Char.isDigit
        let (significand, taken) := pushDigits 0 ds
        afterDigits negative significand (ds.length - taken) (cs.dropWhile Char.isDigit)
      else .error (.within .invalidNumber cs)

/-- The text after an exponent that nobody wants, after its letter. -/
def skipExponent (cs : List Char) : Except Fault (List Char) :=
  let cs :=
    match cs with
    | '+' :: cs => cs
    | '-' :: cs => cs
    | cs => cs
  match cs with
  | [] => .error (.before .invalidNumber [])
  | c :: _ =>
      if c.isDigit then .ok (cs.dropWhile Char.isDigit)
      else .error (.within .invalidNumber cs)

/-- The text after a number that nobody wants, after its sign. -/
def skipNumber (cs : List Char) : Except Fault (List Char) :=
  match cs with
  | [] => .error (.before .invalidNumber [])
  | c :: after =>
      if c = '0' ∧ (after.head?.any Char.isDigit) then .error (.within .invalidNumber after)
      else if !c.isDigit then .error (.within .invalidNumber cs)
      else
        match if c = '0' then after else cs.dropWhile Char.isDigit with
        | [] => .ok []
        | d :: rest =>
            if d = '.' then
              match rest.takeWhile Char.isDigit, rest.dropWhile Char.isDigit with
              | [], rest => .error (.within .invalidNumber rest)
              | _, [] => .ok []
              | _, e :: after =>
                  if e = 'e' ∨ e = 'E' then skipExponent after else .ok (e :: after)
            else if d = 'e' ∨ d = 'E' then skipExponent rest
            else .ok (d :: rest)

end Dialogue.Json
