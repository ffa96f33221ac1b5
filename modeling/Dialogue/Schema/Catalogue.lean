import Dialogue.Schema.Draft
import Dialogue.Schema.Pointer
import Dialogue.Uri

/-!
# What a document makes known

The schemas of a document can be referred to by a reference of their own, where they have one, and
within it by an anchor or by a pointer. Collecting them goes through the document level by level, so
that of two schemas under one name the deeper or later one counts. The document must be whole in
itself: every reference to another document, wherever a schema has one, has to lead to a schema that
was collected, and the draft of every schema has to be known.

A reference is looked up at a place: the base that it is resolved against, and the bases of the
documents that led there, which can take over a flexible anchor.
-/
namespace Dialogue

/-- A schema and the draft that it is written in. -/
structure Resource where
  contents : Json
  draft : Draft

/-- The schemas that can be referred to, the last one first. -/
structure Catalogue where
  resources : List (Uri × Resource) := []
  anchors : List (Uri × Draft.Anchor × Resource) := []

namespace Catalogue

/-- The base of a document without a reference of its own. -/
def defaultBase : Uri :=
  { scheme := some "json-schema".toList, authority := some [], path := ['/'] }

/-- The base that a reference of a whole document gives it. -/
def base? (id : String) : Option Uri := defaultBase.resolve? (Draft.withoutSigns id)

/-- Beginnings of the references to the documents of the drafts, which need not be collected. -/
def wellKnown : List String := [Draft.address "https" "/draft/", Draft.address "http" "/draft-"]

/-- The references under `$ref` and `$schema` that lead out of a value, resolved. -/
def outward? (base : Uri) : (fuel : Nat) → Json → Option (List Uri)
  | 0, _ => some []
  | fuel + 1, j => do
      let found ← ["$ref", "$schema"].mapM fun key =>
        match Draft.text? key j with
        | none => some []
        | some reference =>
            if reference = "#" ∨ wellKnown.any (reference.startsWith ·) then some []
            else
              match reference.toList with
              | '#' :: pointer =>
                  match Text.splitAt '/' (pointer.dropWhile (· = '#')) with
                  | [] :: segments =>
                      match Pointer.target? j segments with
                      | some inner => if segments.isEmpty then some [] else outward? base fuel inner
                      | none => some []
                  | _ => some []
              | _ => (base.resolve? reference).map fun u => [u.withoutFragment]
      return found.flatten

/-- A schema to be collected, and the base around it. -/
structure Pending where
  base : Uri
  resource : Resource

/-- What was collected so far and where its references lead to. -/
structure Harvest where
  catalogue : Catalogue
  outward : List Uri := []

/-- Collect one schema; the schemas directly inside it come next. -/
def collect? (h : Harvest) (p : Pending) : Option (Harvest × List Pending) := do
  let r := p.resource
  let id := r.draft.id? r.contents
  let base ← id.elim (some p.base) p.base.resolve?
  let known := if id.isSome then (base, r) :: h.catalogue.resources else h.catalogue.resources
  let anchors := (r.draft.anchors r.contents).map fun anchor => (base, anchor, r)
  let outward ←
    if base.scheme = some "urn".toList then some []
    else outward? base (r.contents.depth + 1) r.contents
  let inner ← (r.draft.subschemas r.contents).mapM fun j =>
    (r.draft.of? j).map fun draft => ⟨base, j, draft⟩
  return (⟨⟨known, anchors.reverse ++ h.catalogue.anchors⟩, outward ++ h.outward⟩, inner)

/-- Collect all schemas of one level, and those inside them. -/
def collectLevel? (h : Harvest) : List Pending → Option (Harvest × List Pending)
  | [] => some (h, [])
  | p :: rest => do
      let (h, inner) ← collect? h p
      let (h, others) ← collectLevel? h rest
      return (h, inner ++ others)

/-- Collect that many levels. -/
def collectAll? : (levels : Nat) → Harvest → List Pending → Option Harvest
  | 0, h, _ => some h
  | levels + 1, h, pending => do
      let (h, inner) ← collectLevel? h pending
      collectAll? levels h inner

/-- Collect a document besides what is known already, and find its base. -/
def gather? (known : Catalogue) (draft : Draft) (document : Json) : Option (Harvest × Uri) := do
  let r : Resource := ⟨document, draft⟩
  let base ← base? ((draft.id? document).getD "")
  let start := { known with resources := (base, r) :: known.resources }
  let h ← collectAll? (document.depth + 1) ⟨start, []⟩ [⟨base, r⟩]
  return (h, base)

/-- The document of a draft besides what is known already. -/
def withDocument (known : Catalogue) (draft : Draft) (document : Json) : Catalogue :=
  ((known.gather? draft document).map fun (h, _) => h.catalogue).getD known

/-- What a document in the latest draft makes known besides what is known already, and its base. -/
def ofDocument? (known : Catalogue) (document : Json) : Option (Catalogue × Uri) := do
  let (h, base) ← known.gather? .draft2020 document
  let bases := h.catalogue.resources.map (·.1)
  if h.outward.all (bases.contains ·) then return (h.catalogue, base) else none

/-- Where a reference is looked up: its base and the bases that led there, the nearest first. -/
structure Place where
  base : Uri
  around : List Uri := []
  deriving DecidableEq

/-- The place inside another document. Of the bases around, the outermost of equal ones counts. -/
def Place.enter (p : Place) (base : Uri) : Place :=
  if p.around.isEmpty ∨ base ≠ p.base then
    ⟨base, if p.base ∈ p.around then p.around else p.base :: p.around⟩
  else ⟨base, p.around⟩

/-- The place inside a schema, which may have a reference of its own. -/
def Place.within? (p : Place) (draft : Draft) (j : Json) : Option Place :=
  match draft.id? j with
  | none => some p
  | some id => (p.base.resolve? id).map fun base => { p with base }

/-- What a reference leads to. -/
structure Found where
  contents : Json
  place : Place
  draft : Draft

/-- Steps from a schema lead to a schema in its draft. -/
def leadsToSchema (draft : Draft) : List Pointer.Step → Bool
  | [] => true
  | .index _ :: rest => leadsToSchema draft rest
  | .key key :: rest =>
      match draft.arrangement key with
      | .listed | .named =>
          match rest with
          | [] => false
          | _ :: rest => leadsToSchema draft rest
      | .absent | .namedObjects => false
      | .single | .singleObject | .singleOrListed => leadsToSchema draft rest

/-- Follow the segments of a pointer from a part of a document that `steps` led to. -/
def follow? (draft : Draft) : Place → (steps : List Pointer.Step) → Json → List (List Char) →
    Option Found
  | place, _, j, [] => some ⟨j, place, draft⟩
  | place, steps, j, segment :: rest => do
      let (step, next) ← Pointer.step? segment j
      let steps := steps ++ [step]
      let inner ← if leadsToSchema draft steps then place.within? draft next else some place
      follow? draft inner (if inner = place then steps else []) next rest

/-- The schema of an anchor in the document of a base. -/
def anchored? (r : Catalogue) (base : Uri) (name : String) : Option (Draft.Anchor × Resource) :=
  (r.anchors.find? fun a => a.1 = base && a.2.1.name = name).map (·.2)

/-- The schema that takes over a flexible anchor: that of the outermost document with one. -/
def outermost (r : Catalogue) (name : String) (start : Resource) (around : List Uri) : Resource :=
  around.foldl (fun last base =>
    match r.anchored? base name with
    | some (anchor, resource) => if anchor.flexible then resource else last
    | none => last) start

/-- What an anchor in a document leads to. -/
def atAnchor? (r : Catalogue) (place : Place) (resource : Resource) (name : String) :
    Option Found := do
  let own :=
    ((resource.draft.id? resource.contents).bind base?).bind (r.anchored? · name)
  let (anchor, found) ← r.anchored? place.base name <|> own
  if anchor.flexible then
    let last := r.outermost name found place.around
    return ⟨last.contents, ← place.within? last.draft last.contents, last.draft⟩
  else return ⟨found.contents, place, found.draft⟩

/-- A reference before and after its last number sign. -/
def splitReference (reference : String) : List Char × List Char :=
  let back := reference.toList.reverse
  match back.dropWhile (· ≠ '#') with
  | [] => (reference.toList, [])
  | _ :: document => (document.reverse, (back.takeWhile (· ≠ '#')).reverse)

/-- What a reference leads to from a place. -/
def lookUp? (r : Catalogue) (place : Place) (reference : String) : Option Found := do
  let (base, fragment) ←
    match reference.toList with
    | '#' :: fragment => some (place.base, fragment)
    | _ =>
        let (document, fragment) := splitReference reference
        (place.base.resolve? (String.ofList document)).map (·, fragment)
  let resource ← r.resources.lookup base
  let place := place.enter base
  match fragment with
  | [] => return ⟨resource.contents, place, resource.draft⟩
  | '/' :: pointer =>
      let text ← Uri.unescaped? pointer
      follow? resource.draft place [] resource.contents (Text.splitAt '/' text.toList)
  | name => r.atAnchor? place resource (String.ofList name)

/-- The schema lets the document around it take its place in recursive references. -/
def isRecursive (j : Json) : Bool :=
  (j.asFields?.bind (Entries.get? "$recursiveAnchor")) = some (.bool true)

/-- Of the documents around, the last one up to which all are recursive. -/
def outermostRecursive (r : Catalogue) (place : Place) : (last : Found) → List Uri → Found
  | last, [] => last
  | last, base :: rest =>
      match r.lookUp? place base.toText with
      | some found =>
          if isRecursive found.contents then outermostRecursive r place found rest else last
      | none => last

/-- What a recursive reference leads to: the document, or one around it. -/
def lookUpRecursive? (r : Catalogue) (place : Place) : Option Found := do
  let found ← r.lookUp? place "#"
  if isRecursive found.contents then return r.outermostRecursive place found place.around
  else return found

end Catalogue

end Dialogue
