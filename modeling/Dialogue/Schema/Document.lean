import Dialogue.Json.Printer
import Dialogue.Schema.Check
import Dialogue.Schema.Field
import Dialogue.Schema.Metaschema
import Dialogue.Schema.Standard

/-!
# Schema documents

A schema is written as a value: true, false, or an object with a field for each keyword. A reference
leads to a schema in the same document, which is read in its place the first time; after that the
reference is kept, and what it leads to becomes a target. A reference to the very schema that it
stands in asks for nothing.

A document is compiled when it is well-formed, is whole in itself, and everything that can be
reached from it can be read.
-/
namespace Dialogue

namespace Schema

/-- A reference that was kept; one without a text is recursive. -/
structure Wanted where
  scope : Scope
  reference : Option String
  deriving DecidableEq

/-- What is known while a schema is read: where references led to, and which were kept. -/
structure Progress where
  seen : List Uri := []
  wanted : List Wanted := []

abbrev Reading (α : Type) := StateT Progress Option α

/-- Keep a reference; its target is named for its place among those that were kept. -/
def keep (w : Wanted) : Reading Keyword := do
  let progress ← get
  match progress.wanted.findIdx? (· = w) with
  | some n => return .reference (toString n)
  | none =>
      set { progress with wanted := progress.wanted ++ [w] }
      return .reference (toString progress.wanted.length)

/-- Whether a reference led there before; from now on one has. -/
def markSeen (uri : Uri) : Reading Bool := do
  let progress ← get
  if uri ∈ progress.seen then return true
  else
    set { progress with seen := uri :: progress.seen }
    return false

/-- The names that a value lists are required properties. -/
def requiring? (j : Json) : Option Schema := do return .all [.required (← Field.required? j)]

mutual

/-- The schema that a value writes; `fuel` bounds the references read in their place. -/
def read (r : Catalogue) (fuel : Nat) (scope : Scope) : Json → Reading Schema
  | .bool true => pure .anything
  | .bool false => pure .nothing
  | .obj fields =>
      match Field.loneReference? scope fields with
      | some (.str reference) => return .all (← follow r fuel scope fields reference)
      | some _ => failure
      | none => do
          let parts ← readFields r fuel scope fields fields
          (Field.schema? scope.draft fields parts : Option Schema)
  | _ => failure
termination_by j => (fuel, sizeOf j, 0)

/-- The schema that a value inside a schema writes. -/
def readInner (r : Catalogue) (fuel : Nat) (around : Scope) (j : Json) : Reading Schema := do
  let scope ← (around.inside? j : Option Scope)
  read r fuel scope j
termination_by (fuel, sizeOf j, 1)

/-- What a reference in a schema asks for. -/
def follow (r : Catalogue) (fuel : Nat) (scope : Scope) (around : Fields) (reference : String) :
    Reading (List Keyword) := do
  let uri ← (scope.place.base.resolve? reference : Option Uri)
  let found ← (r.lookUp? scope.place reference : Option Catalogue.Found)
  if ← markSeen uri then
    if found.contents = .obj around then return []
    else return [← keep ⟨scope, some reference⟩]
  else
    match fuel with
    | 0 => failure
    | fuel + 1 => return [.embedded (← read r fuel (.ofFound found) found.contents)]
termination_by (fuel, 0, 0)

/-- The parts of the fields. -/
def readFields (r : Catalogue) (fuel : Nat) (scope : Scope) (all : Fields) :
    List (String × Json) → Reading (List (String × Field.Part))
  | [] => return []
  | (key, j) :: rest => do
      let part ← readField r fuel scope all key j
      let more ← readFields r fuel scope all rest
      return (key, part) :: more
termination_by fields => (fuel, sizeOf fields, 0)

/-- The part of one field. -/
def readField (r : Catalogue) (fuel : Nat) (scope : Scope) (all : Fields) (key : String)
    (j : Json) : Reading Field.Part :=
  match Field.manner scope all key j with
  | .ignored => return .ignored
  | .plain => return .plain j
  | .reference =>
      match j with
      | .str reference => return .keywords (← follow r fuel scope all reference)
      | _ => failure
  | .recursive => return .keywords [← keep ⟨scope, none⟩]
  | .single => return .single (← readInner r fuel scope j)
  | .listed => return .listed (← readList r fuel scope j)
  | .named => return .named (← readNamed r fuel scope j)
  | .shown => return .shown (← readShown r fuel scope j)
  | .dependencies => return .named (← readDependencies r fuel scope j)
termination_by (fuel, sizeOf j, 2)

def readList (r : Catalogue) (fuel : Nat) (scope : Scope) : Json → Reading (List Schema)
  | .arr items => readItems r fuel scope items
  | _ => failure
termination_by j => (fuel, sizeOf j, 0)

def readItems (r : Catalogue) (fuel : Nat) (scope : Scope) : List Json → Reading (List Schema)
  | [] => return []
  | j :: rest => do
      let s ← readInner r fuel scope j
      let more ← readItems r fuel scope rest
      return s :: more
termination_by items => (fuel, sizeOf items, 0)

def readNamed (r : Catalogue) (fuel : Nat) (scope : Scope) :
    Json → Reading (List (String × Schema))
  | .obj fields => readEntries r fuel scope fields
  | _ => failure
termination_by j => (fuel, sizeOf j, 0)

def readEntries (r : Catalogue) (fuel : Nat) (scope : Scope) :
    List (String × Json) → Reading (List (String × Schema))
  | [] => return []
  | (key, j) :: rest => do
      let s ← readInner r fuel scope j
      let more ← readEntries r fuel scope rest
      return (key, s) :: more
termination_by fields => (fuel, sizeOf fields, 0)

def readShown (r : Catalogue) (fuel : Nat) (scope : Scope) :
    Json → Reading (List (Pattern × Schema))
  | .obj fields => readPatterns r fuel scope fields
  | _ => failure
termination_by j => (fuel, sizeOf j, 0)

def readPatterns (r : Catalogue) (fuel : Nat) (scope : Scope) :
    List (String × Json) → Reading (List (Pattern × Schema))
  | [] => return []
  | (key, j) :: rest => do
      let p ← (Pattern.ofText? key : Option Pattern)
      let s ← readInner r fuel scope j
      let more ← readPatterns r fuel scope rest
      return (p, s) :: more
termination_by fields => (fuel, sizeOf fields, 0)

def readDependencies (r : Catalogue) (fuel : Nat) (scope : Scope) :
    Json → Reading (List (String × Schema))
  | .obj fields => readMixed r fuel scope fields
  | _ => failure
termination_by j => (fuel, sizeOf j, 0)

def readMixed (r : Catalogue) (fuel : Nat) (scope : Scope) :
    List (String × Json) → Reading (List (String × Schema))
  | [] => return []
  | (key, j) :: rest => do
      let s ←
        if j.isList then (requiring? j : Option Schema) else readInner r fuel scope j
      let more ← readMixed r fuel scope rest
      return (key, s) :: more
termination_by fields => (fuel, sizeOf fields, 0)

end

/-- Read what a reference that was kept leads to, in the draft that it was kept in. -/
def readWanted (r : Catalogue) (fuel : Nat) (w : Wanted) : Reading Schema := do
  let found ←
    match w.reference with
    | some reference => (r.lookUp? w.scope.place reference : Option Catalogue.Found)
    | none => (r.lookUpRecursive? w.scope.place : Option Catalogue.Found)
  read r fuel { w.scope with place := found.place } found.contents

/-- Read what all references that were kept lead to; `rounds` bounds their number. -/
def readTargets? (r : Catalogue) (fuel : Nat) :
    (rounds : Nat) → (done : List (String × Schema)) → List Wanted →
    Option (List (String × Schema))
  | 0, _, _ => none
  | rounds + 1, done, wanted =>
      match wanted[done.length]? with
      | none => some done
      | some w => do
          let (s, progress) ← (readWanted r fuel w).run { wanted }
          readTargets? r fuel rounds ((toString done.length, s) :: done) progress.wanted

end Schema

/-- A schema with the targets of all references that can be reached from it. -/
structure ClosedSchema where
  root : Schema
  targets : Targets

namespace ClosedSchema

/-- Compile a document. -/
def ofDocument? (document : Json) : Option ClosedSchema := do
  guard (Metaschema.accepts document)
  let (catalogue, base) ← Catalogue.standard.ofDocument? document
  let scope ← Scope.ofDocument? base document
  let size := document.compact.length
  let (root, progress) ← (Schema.read catalogue (size * size) scope document).run {}
  let targets ←
    Schema.readTargets? catalogue (size * size) (size * size * size) [] progress.wanted
  return ⟨root, Entries.ofList targets⟩

/-- Every diagnostic of a value. -/
def faults (s : ClosedSchema) (j : Json) : List Diagnostic := s.root.faults s.targets j

end ClosedSchema

end Dialogue
