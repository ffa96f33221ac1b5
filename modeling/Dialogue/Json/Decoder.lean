import Dialogue.Json.Shape

/-!
# Decoders

A decoder says how a type is read from a value and, through a shape, from text. Text is first read
by shape, which finds every fault that has a place; the value so read is then decoded like any
other.

A record is decoded field by field in the order in which the value holds them. What a repeated key,
an absent field or a list in place of an object means is settled here once for all records.
-/
namespace Dialogue.Json

/-- How a type is read. -/
structure Decoder (α : Type) where
  shape : Shape
  ofJson : Json → Except Mismatch α

/-- The value is not of the wanted kind. -/
def unwanted {α : Type} (j : Json) (wanted : String) : Except Mismatch α :=
  .error (.wrongType (.ofJson j) wanted)

def asText : Json → Except Mismatch String
  | .str s => .ok s
  | j => unwanted j "a string"

def asObject : Json → Except Mismatch Fields
  | .obj fields => .ok fields
  | j => unwanted j "a map"

/-- The items of a list, decoded in order. -/
def asList {α : Type} (item : Json → Except Mismatch α) : Json → Except Mismatch (List α)
  | .arr items => items.mapM item
  | j => unwanted j "a sequence"

def asOptional {α : Type} (inner : Json → Except Mismatch α) : Json → Except Mismatch (Option α)
  | .null => .ok none
  | j => (inner j).map some

/-- Fields whose values are strings. -/
def asTexts (j : Json) : Except Mismatch (List (String × String)) := do
  (← asObject j).mapM fun (key, value) => return (key, ← asText value)

/-- One of the named values of an enumeration. -/
def asNamed {α : Type} (known : List (String × α)) (name : String) : Except Mismatch α :=
  match known.lookup name with
  | some a => .ok a
  | none => .error (.unknownVariant name (known.map (·.1)))

/-- A name alone, or an object whose only field has it as key and null as value. -/
def asChoice {α : Type} (known : List (String × α)) : Json → Except Mismatch α
  | .str name => asNamed known name
  | .obj [(name, value)] => do
      let a ← asNamed known name
      match value with
      | .null => .ok a
      | j => unwanted j "unit"
  | .obj _ => .error (.wrongValue .map "map with a single key")
  | j => unwanted j "string or map"

namespace Decoder

def any : Decoder Json := ⟨.any, .ok⟩

def text : Decoder String := ⟨.text, asText⟩

def object : Decoder Fields := ⟨.object, asObject⟩

def optional {α : Type} (inner : Decoder α) : Decoder (Option α) :=
  ⟨.optional inner.shape, asOptional inner.ofJson⟩

def listOf {α : Type} (item : Decoder α) : Decoder (List α) :=
  ⟨.listOf item.shape, asList item.ofJson⟩

def choice {α : Type} (known : List (String × α)) : Decoder α :=
  ⟨.choice (known.map (·.1)), asChoice known⟩

end Decoder

/-- A field of the record `σ`: its name, whether it has to be there, and how a value of type `β`
fills it in. -/
structure Slot (β σ : Type) where
  name : String
  required : Bool
  fill : β → σ → Except Mismatch σ

/-- Fill the slots from entries in their order and give the keys that were met. A key without a slot
is passed over, and a slot is not filled twice. -/
def fillEntries {β σ : Type} (slots : List (Slot β σ)) :
    (seen : List String) → σ → List (String × β) → Except Mismatch (σ × List String)
  | seen, record, [] => .ok (record, seen)
  | seen, record, (key, value) :: rest =>
      match slots.find? fun slot => slot.name = key with
      | none => fillEntries slots seen record rest
      | some slot =>
          if key ∈ seen then .error (.duplicateField key)
          else
            match slot.fill value record with
            | .error mismatch => .error mismatch
            | .ok record => fillEntries slots (key :: seen) record rest

/-- Fill the slots from the entries of an object. -/
def recordOfEntries {β σ : Type} (slots : List (Slot β σ)) (start : σ)
    (entries : List (String × β)) : Except Mismatch σ :=
  match fillEntries slots [] start entries with
  | .error mismatch => .error mismatch
  | .ok (record, seen) =>
      match slots.find? fun slot => slot.required && !seen.contains slot.name with
      | some slot => .error (.missingField slot.name)
      | none => .ok record

/-- Fill the slots, from number `index` on, with the items of a list. -/
def recordOfItems {β σ : Type} (wanted : String) :
    (index : Nat) → List (Slot β σ) → σ → List β → Except Mismatch σ
  | _, [], record, _ => .ok record
  | index, slot :: slots, record, [] =>
      if slot.required then .error (.wrongLength index wanted)
      else recordOfItems wanted (index + 1) slots record []
  | index, slot :: slots, record, value :: rest =>
      match slot.fill value record with
      | .error mismatch => .error mismatch
      | .ok record => recordOfItems wanted (index + 1) slots record rest

/-- A record with its name, its slots, and its value before any of them is filled. -/
structure Record (β σ : Type) where
  name : String
  slots : List (Slot β σ)
  start : σ

namespace Record

def ofEntries {β σ : Type} (r : Record β σ) (entries : List (String × β)) : Except Mismatch σ :=
  recordOfEntries r.slots r.start entries

/-- From a list of at most as many items as there are slots; `overlong` words the refusal of more.
-/
def ofItems {β σ : Type} (r : Record β σ) (overlong : String) (items : List β) :
    Except Mismatch σ :=
  match recordOfItems (structLength r.name r.slots.length) 0 r.slots r.start items with
  | .error mismatch => .error mismatch
  | .ok record =>
      if r.slots.length < items.length then .error (.wrongLength items.length overlong)
      else .ok record

def ofJson {σ : Type} (r : Record Json σ) : Json → Except Mismatch σ
  | .obj entries => r.ofEntries entries
  | .arr items => r.ofItems "fewer elements in array" items
  | j => unwanted j (structName r.name)

end Record

/-- A field of a record together with the shape of its text. -/
structure ShapedSlot (σ : Type) extends Slot Json σ where
  shape : Shape

namespace ShapedSlot

/-- A field that may be absent. -/
def ofDefault {α σ : Type} (name : String) (decoder : Decoder α) (set : α → σ → σ) :
    ShapedSlot σ :=
  ⟨⟨name, false, fun j record => (decoder.ofJson j).map (set · record)⟩, decoder.shape⟩

/-- A field that has to be there. -/
def ofRequired {α σ : Type} (name : String) (decoder : Decoder α) (set : α → σ → σ) :
    ShapedSlot σ :=
  ⟨⟨name, true, fun j record => (decoder.ofJson j).map (set · record)⟩, decoder.shape⟩

end ShapedSlot

/-- A record of which nothing but its slots is to be known. -/
def Decoder.record {σ : Type} (name : String) (slots : List (ShapedSlot σ)) (start : σ) :
    Decoder σ :=
  ⟨.record name (slots.map fun s => (s.name, s.required, s.shape)),
    (⟨name, slots.map (·.toSlot), start⟩ : Record Json σ).ofJson⟩

/-- Read a whole text. -/
def Decoder.ofChars {α : Type} (decoder : Decoder α) (cs : List Char) : Except Fault α :=
  match readShape (4 * cs.length + 8) maxDepth decoder.shape cs with
  | .error fault => .error fault
  | .ok (j, rest) =>
      match expectEnd rest with
      | .error fault => .error fault
      | .ok _ => (decoder.ofJson j).mapError (Fault.wanted · rest)

/-- Read a whole text; a fault is told with its place. -/
def Decoder.ofText {α : Type} (decoder : Decoder α) (text : String) : Except String α :=
  (decoder.ofChars text.toList).mapError (Fault.message text.toList)

end Dialogue.Json
