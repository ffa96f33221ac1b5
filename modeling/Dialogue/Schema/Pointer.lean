import Dialogue.Json.Basic
import Dialogue.Number.Numeral
import Dialogue.Text.Leading

/-!
# Pointers into values

A pointer is a list of segments, each of which is the key of a field or the index of an item. In a
key the slash and the tilde are written as `~1` and `~0`. A pointer as a text has a slash before
each segment; a relative one begins with a number of steps outwards.
-/
namespace Dialogue.Pointer

/-- A step from a value to a part of it. -/
inductive Step where
  | key (key : String)
  | index (n : Nat)
  deriving Repr, DecidableEq

/-- A segment with its escapes undone; a tilde that begins no escape stands for itself. -/
def unescaped : List Char → List Char
  | '~' :: c :: rest =>
      if c = '1' then '/' :: unescaped rest
      else if c = '0' then '~' :: unescaped rest
      else '~' :: c :: unescaped rest
  | c :: rest => c :: unescaped rest
  | [] => []

/-- The largest index and one more. -/
def indexBound : Nat := 18446744073709551616

/-- The index that a segment writes, which may begin with a plus sign and with zeros. -/
def index? (segment : List Char) : Option Nat :=
  let ds :=
    match segment with
    | '+' :: ds => ds
    | ds => ds
  if ds.isEmpty || !ds.all Char.isDigit || indexBound ≤ digitsValue ds then none
  else some (digitsValue ds)

/-- The step that a segment stands for at a value, and the part that it leads to. -/
def step? (segment : List Char) : Json → Option (Step × Json)
  | .arr items => do
      let n ← index? segment
      return (.index n, ← items[n]?)
  | .obj fields => do
      let key := String.ofList (unescaped segment)
      return (.key key, ← Entries.get? key fields)
  | _ => none

/-- The part of a value that the segments of a pointer lead to. -/
def target? : Json → List (List Char) → Option Json
  | j, [] => some j
  | j, segment :: rest => do target? (← step? segment j).2 rest
termination_by _ segments => segments.length

/-- In a text a tilde begins an escape. -/
def escapesFit : List Char → Bool
  | '~' :: c :: rest => (c = '0' || c = '1') && escapesFit rest
  | '~' :: [] => false
  | _ :: rest => escapesFit rest
  | [] => true

/-- A text is a pointer. -/
def isPointer (cs : List Char) : Bool :=
  match cs with
  | [] => true
  | c :: _ => c = '/' && escapesFit cs

/-- A text is a relative pointer: a number without needless zeros, and then a pointer or a number
sign for the key. -/
def isRelative (cs : List Char) : Bool :=
  let ds := cs.takeWhile Char.isDigit
  let rest := cs.drop ds.length
  !ds.isEmpty && (ds = ['0'] || ds.head? != some '0') && (rest = ['#'] || isPointer rest)

end Dialogue.Pointer
