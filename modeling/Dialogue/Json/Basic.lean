import Dialogue.Entries
import Dialogue.Number.Basic

/-!
# JSON values

A value is null, a truth value, a number, a string, a list or an object. An object is the list of
its fields; `Json.Sorted` says that every object in a value has its keys in strictly increasing
order, so that a value has one form only; `Json.sort` puts a value into that form.

Reading and printing text is in the modules beside this one.
-/
namespace Dialogue

inductive Json where
  | null
  | bool (b : Bool)
  | num (n : Number)
  | str (s : String)
  | arr (items : List Json)
  | obj (fields : List (String × Json))
  deriving Repr, Inhabited

/-- The fields of an object. -/
abbrev Fields := Entries Json

namespace Json

mutual

/-- Values are compared by structure. -/
def decEq : (a b : Json) → Decidable (a = b)
  | .null, b =>
      match b with
      | .null => isTrue rfl
      | .bool _ | .num _ | .str _ | .arr _ | .obj _ => isFalse nofun
  | .bool x, b =>
      match b with
      | .bool y => if h : x = y then isTrue (h ▸ rfl) else isFalse fun e => h (Json.bool.inj e)
      | .null | .num _ | .str _ | .arr _ | .obj _ => isFalse nofun
  | .num x, b =>
      match b with
      | .num y => if h : x = y then isTrue (h ▸ rfl) else isFalse fun e => h (Json.num.inj e)
      | .null | .bool _ | .str _ | .arr _ | .obj _ => isFalse nofun
  | .str x, b =>
      match b with
      | .str y => if h : x = y then isTrue (h ▸ rfl) else isFalse fun e => h (Json.str.inj e)
      | .null | .bool _ | .num _ | .arr _ | .obj _ => isFalse nofun
  | .arr x, b =>
      match b with
      | .arr y =>
          match decEqItems x y with
          | isTrue h => isTrue (h ▸ rfl)
          | isFalse h => isFalse fun e => h (Json.arr.inj e)
      | .null | .bool _ | .num _ | .str _ | .obj _ => isFalse nofun
  | .obj x, b =>
      match b with
      | .obj y =>
          match decEqFields x y with
          | isTrue h => isTrue (h ▸ rfl)
          | isFalse h => isFalse fun e => h (Json.obj.inj e)
      | .null | .bool _ | .num _ | .str _ | .arr _ => isFalse nofun
termination_by structural a => a

def decEqItems : (x y : List Json) → Decidable (x = y)
  | [], [] => isTrue rfl
  | [], _ :: _ => isFalse nofun
  | _ :: _, [] => isFalse nofun
  | a :: x, b :: y =>
      match decEq a b, decEqItems x y with
      | isTrue h, isTrue t => isTrue (h ▸ t ▸ rfl)
      | isFalse h, _ => isFalse fun e => h (List.cons.inj e).1
      | _, isFalse t => isFalse fun e => t (List.cons.inj e).2
termination_by structural x => x

def decEqFields : (x y : List (String × Json)) → Decidable (x = y)
  | [], [] => isTrue rfl
  | [], _ :: _ => isFalse nofun
  | _ :: _, [] => isFalse nofun
  | (k, a) :: x, (l, b) :: y =>
      if hk : k = l then
        match decEq a b, decEqFields x y with
        | isTrue h, isTrue t => isTrue (hk ▸ h ▸ t ▸ rfl)
        | isFalse h, _ => isFalse fun e => h (Prod.mk.inj (List.cons.inj e).1).2
        | _, isFalse t => isFalse fun e => t (List.cons.inj e).2
      else isFalse fun e => hk (Prod.mk.inj (List.cons.inj e).1).1
termination_by structural x => x

end

instance : DecidableEq Json := decEq

mutual

/-- In every object the keys increase strictly. -/
def Sorted : Json → Prop
  | .arr items => SortedItems items
  | .obj fields => Entries.Ascending fields ∧ SortedFields fields
  | _ => True
termination_by structural j => j

def SortedItems : List Json → Prop
  | [] => True
  | j :: rest => Sorted j ∧ SortedItems rest
termination_by structural items => items

def SortedFields : List (String × Json) → Prop
  | [] => True
  | (_, j) :: rest => Sorted j ∧ SortedFields rest
termination_by structural fields => fields

end

mutual

/-- How deep lists and objects are nested. -/
def depth : Json → Nat
  | .arr items => depthItems items + 1
  | .obj fields => depthFields fields + 1
  | _ => 0
termination_by structural j => j

def depthItems : List Json → Nat
  | [] => 0
  | j :: rest => max (depth j) (depthItems rest)
termination_by structural items => items

def depthFields : List (String × Json) → Nat
  | [] => 0
  | (_, j) :: rest => max (depth j) (depthFields rest)
termination_by structural fields => fields

end

def isString : Json → Bool
  | .str _ => true
  | _ => false

def isBool : Json → Bool
  | .bool _ => true
  | _ => false

def isList : Json → Bool
  | .arr _ => true
  | _ => false

def isObject : Json → Bool
  | .obj _ => true
  | _ => false

def asString? : Json → Option String
  | .str s => some s
  | _ => none

def asFields? : Json → Option Fields
  | .obj fields => some fields
  | _ => none

/-- A list of strings as a value. -/
def ofStrings (lines : List String) : Json := .arr (lines.map .str)

mutual

/-- The same value with the fields of every object in order, the last of repeated keys kept. -/
def sort : Json → Json
  | .arr items => .arr (sortItems items)
  | .obj fields => .obj (Entries.ofList (sortFields fields))
  | j => j
termination_by structural j => j

def sortItems : List Json → List Json
  | [] => []
  | j :: rest => sort j :: sortItems rest
termination_by structural items => items

def sortFields : List (String × Json) → List (String × Json)
  | [] => []
  | (k, j) :: rest => (k, sort j) :: sortFields rest
termination_by structural fields => fields

end

end Json

end Dialogue
