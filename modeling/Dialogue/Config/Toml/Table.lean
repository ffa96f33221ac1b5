import Dialogue.Config.Setting

/-!
# Tables that are being written

While a configuration file is read a table remembers how it came to be, because nothing may be
defined twice: the header of a table may follow those of the tables inside it, keys with points may
go on with a table that other such keys began, and nothing else is opened a second time.
-/
namespace Dialogue.Toml

/-- How a table came to be. -/
inductive Origin where
  /-- By the header of a table inside it. -/
  | implied
  /-- By a key with points. -/
  | dotted
  /-- By its own header. -/
  | written
  deriving Repr, DecidableEq

/-- What a key stands for. -/
inductive Item where
  | value (s : Setting)
  | table (origin : Origin) (entries : List (String × Item))
  /-- Tables under one name, the last one first. -/
  | tables (all : List (List (String × Item)))

abbrev Items := Entries Item

mutual

def Item.setting : Item → Setting
  | .value s => s
  | .table _ entries => .table (settingsOf entries)
  | .tables all => .list (tableSettings all).reverse
termination_by structural item => item

def settingsOf : List (String × Item) → List (String × Setting)
  | [] => []
  | (key, item) :: rest => (key, item.setting) :: settingsOf rest
termination_by structural entries => entries

def tableSettings : List (List (String × Item)) → List Setting
  | [] => []
  | entries :: rest => .table (settingsOf entries) :: tableSettings rest
termination_by structural all => all

end

/-- Change the table at the end of a path; absent tables on the way come to be as `fresh`. Tables
that were written out are not entered by a key with points. -/
def change? (fresh : Origin) (change : Origin → Items → Option Items) :
    (here : Origin) → (path : List String) → Items → Option Items
  | here, [], items => change here items
  | _, key :: path, items =>
      match Entries.get? key items with
      | none => do
          return Entries.insert key (.table fresh (← change? fresh change fresh path [])) items
      | some (.table origin inner) => do
          if fresh = .dotted ∧ origin = .written then none
          return Entries.insert key (.table origin (← change? fresh change origin path inner)) items
      | some (.tables (last :: before)) => do
          return Entries.insert key
            (.tables ((← change? fresh change .written path last) :: before)) items
      | some _ => none

/-- Set a key that is not there yet. -/
def put? (key : String) (item : Item) (items : Items) : Option Items :=
  if Entries.contains key items then none else some (Entries.insert key item items)

/-- Set the value of a key with points. -/
def define? (path : List String) (s : Setting) (items : Items) : Option Items := do
  let key ← path.getLast?
  let parents := path.dropLast
  let change (here : Origin) (items : Items) : Option Items :=
    if parents ≠ [] ∧ here ≠ .dotted then none else put? key (.value s) items
  change? .dotted change .written parents items

/-- Open the table of a header. -/
def openTable? (path : List String) (items : Items) : Option Items := do
  let key ← path.getLast?
  let change (_ : Origin) (items : Items) : Option Items :=
    match Entries.get? key items with
    | none => some (Entries.insert key (.table .written []) items)
    | some (.table .implied inner) => some (Entries.insert key (.table .written inner) items)
    | some _ => none
  change? .implied change .written path.dropLast items

/-- Open one more table under the name of a header. -/
def openNext? (path : List String) (items : Items) : Option Items := do
  let key ← path.getLast?
  let change (_ : Origin) (items : Items) : Option Items :=
    match Entries.get? key items with
    | none => some (Entries.insert key (.tables [[]]) items)
    | some (.tables all) => some (Entries.insert key (.tables ([] :: all)) items)
    | some _ => none
  change? .implied change .written path.dropLast items

/-- Set the value of a key in the table of a header. -/
def defineIn? (header path : List String) (s : Setting) (items : Items) : Option Items :=
  change? .implied (fun _ items => define? path s items) .written header items

end Dialogue.Toml
