import Dialogue.Entries
import Dialogue.Number.Numeral
import Dialogue.Number.Plain
import Dialogue.Text.Leading
import Dialogue.Text.Lowercase

/-!
# Settings

A source of configuration gives settings: plain values in nested tables and lists. Sources are laid
over each other; tables are merged, so that an empty one changes nothing, and everything else is
replaced. Keys are compared in lower case.

A plain value is read as whatever is wanted of it, so that a text may stand for a flag and a number
for a text. The members of a section may also be given by their places in a list.
-/
namespace Dialogue

inductive Setting where
  | flag (b : Bool)
  | integer (n : Int)
  | float (r : Reading)
  | text (s : String)
  | list (items : List Setting)
  | table (entries : List (String × Setting))
  deriving Repr, Inhabited

/-- A table of settings. -/
abbrev Settings := Entries Setting

namespace Setting

def asTable? : Setting → Option Settings
  | table entries => some entries
  | _ => none

/-- A number without an exponent, or the word for what is no number. -/
def floatText : Reading → String
  | .notANumber => "NaN"
  | .infinite negative => if negative then "-inf" else "inf"
  | .finite x => x.plainText

def asText? : Setting → Option String
  | text s => some s
  | flag b => some (if b then "true" else "false")
  | integer n => some (toString n)
  | float r => some (floatText r)
  | list _ => none
  | table _ => none

/-- Words that stand for a flag. -/
def flagOfWord? (word : String) : Option Bool :=
  if word ∈ ["1", "true", "on", "yes"] then some true
  else if word ∈ ["0", "false", "off", "no"] then some false
  else none

/-- A number is a flag that is set unless the number is zero. -/
def asFlag? : Setting → Option Bool
  | flag b => some b
  | integer n => some (n != 0)
  | float r => some (Reading.compare? r (.ofInt 0) != some .eq)
  | text s => flagOfWord? (Text.lowercase s)
  | list _ => none
  | table _ => none

/-- The members of a section that have the given keys, in their order; only a table and a list have
members. -/
def members? (keys : List String) : Setting → Option (List (Option Setting))
  | table entries => some (keys.map fun key => Entries.get? key entries)
  | list items => some (keys.zipIdx.map fun k => items[k.2]?)
  | _ => none

end Setting

namespace Settings

mutual

/-- Set a key, merging a table into what is there. -/
def set (key : String) : Setting → Settings → Settings
  | .table [], settings =>
      if Entries.contains key settings then settings else Entries.insert key (.table []) settings
  | .table (e :: entries), settings =>
      let inner := ((Entries.get? key settings).bind Setting.asTable?).getD []
      Entries.insert key (.table (setAll (e :: entries) inner)) settings
  | .flag b, settings => Entries.insert key (.flag b) settings
  | .integer n, settings => Entries.insert key (.integer n) settings
  | .float r, settings => Entries.insert key (.float r) settings
  | .text s, settings => Entries.insert key (.text s) settings
  | .list items, settings => Entries.insert key (.list items) settings
termination_by structural s => s

/-- Set every key, in lower case. -/
def setAll : List (String × Setting) → Settings → Settings
  | [], settings => settings
  | (key, s) :: rest, settings => setAll rest (set (Text.lowercase key) s settings)
termination_by structural entries => entries

end

/-- Set what a path leads to. Only its last part is taken in lower case, and what is no table on the
way gives place to one. -/
def setAt : (path : List String) → Setting → Settings → Settings
  | [], _, settings => settings
  | [key], s, settings => set (Text.lowercase key) s settings
  | key :: path, s, settings =>
      let inner := ((Entries.get? key settings).bind Setting.asTable?).getD []
      Entries.insert key (.table (setAt path s inner)) settings

/-- Characters of a part of a path. -/
def isPathChar (c : Char) : Bool := c.isAlphanum || c = '_' || c = '-' || c = ' '

/-- The path that a key of a source stands for: its parts between points, if all of them are plain.
-/
def pathOf (key : List Char) : List String :=
  let parts := Text.splitAt '.' key
  if parts.all fun part => !part.isEmpty && part.all isPathChar then parts.map String.ofList
  else [String.ofList key]

/-- Lay the top entries of a source over the settings. -/
def layOver (source : List (String × Setting)) (settings : Settings) : Settings :=
  source.foldl (fun sofar e => sofar.setAt (pathOf e.1.toList) e.2) settings

end Settings

end Dialogue
