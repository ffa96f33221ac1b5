import Dialogue.Json.Basic
import Dialogue.Text.Lowercase

/-!
# Variables

A store of variables knows a variable by its name in lower case; the spelling last used to set it is
kept beside the value and shown in the snapshot. The bindings stand in the order of the lower-case
names, and each stands under the lower case of its own spelling.
-/
namespace Dialogue

/-- A value under the spelling that last set it. -/
structure Binding where
  name : String
  value : Json
  deriving Repr, DecidableEq

structure Variables where
  bindings : Entries Binding := []
  ascending : Entries.Ascending bindings := by exact List.Pairwise.nil
  folded : ∀ b ∈ bindings, b.1 = Text.lowercase b.2.name := by
    exact List.forall_mem_nil _
  deriving DecidableEq

namespace Variables

def empty : Variables := {}

/-- Bind a name. Whatever was bound under the same name in lower case is replaced. -/
def set (vars : Variables) (name : String) (value : Json) : Variables where
  bindings := Entries.insert (Text.lowercase name) ⟨name, value⟩ vars.bindings
  ascending := vars.ascending.insert _ _
  folded b h := by
    rcases Entries.mem_insert h with rfl | h
    · rfl
    · exact vars.folded b h

def get? (vars : Variables) (name : String) : Option Json :=
  (Entries.get? (Text.lowercase name) vars.bindings).map Binding.value

def contains (vars : Variables) (name : String) : Bool :=
  Entries.contains (Text.lowercase name) vars.bindings

def size (vars : Variables) : Nat := vars.bindings.length

def isEmpty (vars : Variables) : Bool := vars.bindings.isEmpty

/-- The store that results from setting the fields in their order. -/
def ofFields (fields : Fields) : Variables :=
  fields.foldl (fun vars f => vars.set f.1 f.2) empty

/-- All values under the spellings that last set them. -/
def snapshot (vars : Variables) : Fields :=
  Entries.ofList (vars.bindings.map fun b => (b.2.name, b.2.value))

theorem get?_set_self (vars : Variables) (name : String) (value : Json) :
    (vars.set name value).get? name = some value := by
  simp [set, get?, Entries.get?_insert_self]

theorem get?_set_of_ne (vars : Variables) {name other : String} (value : Json)
    (h : Text.lowercase other ≠ Text.lowercase name) :
    (vars.set name value).get? other = vars.get? other := by
  simp [set, get?, Entries.get?_insert_of_ne h]

end Variables

end Dialogue
