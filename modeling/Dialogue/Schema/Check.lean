import Dialogue.Json.Agreement
import Dialogue.Json.Reader
import Dialogue.Number.Multiple
import Dialogue.Schema.Diagnostic
import Dialogue.Text.Base64

/-!
# Checking a value against a schema

`Schema.faults` gives every diagnostic of a value: keyword by keyword, the properties of an object
in the order of their keys, the items of a list in order. A value is allowed when there is none.

A property or an item is evaluated by a keyword that has a schema for it and finds it allowed; only
parts of a schema that allow the whole value count.

A reference is followed at most once to each target before the check goes on to a part of the value,
so that references in a circle end; a target that is not known asks for nothing. A document that was
compiled knows all of its targets.
-/
namespace Dialogue

/-- The schemas that references lead to. -/
abbrev Targets := Entries Schema

namespace Schema

/-- The complaint about a value, unless it passes. -/
def faultUnless (passes : Bool) (j : Json) (complaint : Complaint) : List Diagnostic :=
  if passes then [] else [{ value := j, complaint }]

/-- The text writes a value. -/
def isJsonText (s : String) : Bool := (Json.ofText s).isOk

/-- What is wrong with a text that is to write the bytes of a text that writes a value. -/
def encodedComplaint? (s : String) : Option Complaint :=
  match Text.Base64.decode? s.toList with
  | none => some .notEncoded
  | some bytes =>
      match Text.utf8Fault? 0 bytes with
      | some fault => some (.bytesAtFault fault)
      | none =>
          let text := String.fromUTF8? ⟨(bytes.map UInt8.ofNat).toArray⟩
          if text.any isJsonText then none else some .notJsonText

/-- The keys of an object to which neither an entry nor a pattern belongs. -/
def strayKeys (own : List (String × Schema)) (shown : List (Pattern × Schema))
    (fields : List (String × Json)) : List String :=
  (fields.map (·.1)).filter fun key =>
    !Entries.contains key own && !shown.any fun (p, _) => p.occursIn key

mutual

/-- Every diagnostic of a value; `unmet` holds the targets that may still be followed at it. -/
def faultsAt (targets : Targets) (unmet : List String) : Schema → Json → List Diagnostic
  | .anything, _ => []
  | .nothing, j => [{ value := j, complaint := .refused }]
  | .all keywords, j => faultsOfAll targets unmet keywords j
termination_by s j => (sizeOf j, unmet.length, sizeOf s)

def faultsOfAll (targets : Targets) (unmet : List String) :
    List Keyword → Json → List Diagnostic
  | [], _ => []
  | k :: rest, j => faultsOf targets unmet k j ++ faultsOfAll targets unmet rest j
termination_by ks j => (sizeOf j, unmet.length, sizeOf ks)

/-- Every diagnostic of one keyword. A keyword about properties or items says nothing of a value
that has none. -/
def faultsOf (targets : Targets) (unmet : List String) : Keyword → Json → List Diagnostic
  | .reference target, j =>
      if _h : target ∈ unmet then
        match Entries.get? target targets with
        | some s => faultsAt targets (unmet.erase target) s j
        | none => []
      else []
  | .embedded s, j => faultsAt targets unmet s j
  | .all parts, j => faultsOfParts targets unmet parts j
  | .some options, j => faultUnless (optionsMet targets unmet options j != 0) j .nowhere
  | .oneOf options, j =>
      match optionsMet targets unmet options j with
      | 0 => [{ value := j, complaint := .noOption }]
      | 1 => []
      | _ => [{ value := j, complaint := .manyOptions }]
  | .not s written, j => faultUnless (!(faultsAt targets unmet s j).isEmpty) j (.forbidden written)
  | .conditional test onTrue onFalse, j =>
      if (faultsAt targets unmet test j).isEmpty then faultsAt targets unmet onTrue j
      else faultsAt targets unmet onFalse j
  | .properties own shown others, .obj fields => faultsOfFields targets own shown others fields
  | .closed own shown, .obj fields =>
      let stray := strayKeys own shown fields
      faultsOfFields targets own shown none fields ++
        faultUnless stray.isEmpty (.obj fields) (.unexpected stray)
  | .shown schemas, .obj fields => faultsOfPatterns targets schemas fields
  | .bare, .obj ((_, j) :: _) => [{ value := j, complaint := .refused }]
  | .names s, .obj fields => faultsOfNames targets s fields
  | .nameless, .obj fields => faultUnless fields.isEmpty (.obj fields) .refused
  | .required keys, .obj fields =>
      (keys.filter fun key => !Entries.contains key fields).map fun key =>
        { value := .obj fields, complaint := .missing key }
  | .dependent schemas, j => faultsOfDependent targets unmet schemas j
  | .items skipped item, .arr items => faultsOfItems targets item skipped 0 items
  | .tuple schemas, .arr items => faultsOfTuple targets 0 schemas items
  | .noMore limit, .arr items =>
      let stray := items.drop limit
      faultUnless stray.isEmpty (.arr items) (.unexpectedItems stray)
  | .contains item least most, .arr items =>
      let met := itemsMet targets item items
      faultUnless (least ≤ met && most.all (met ≤ ·)) (.arr items) .notContained
  | .unevaluatedProperties beside others, .obj fields =>
      let known := evaluatedByAll targets unmet beside (.obj fields) ++
        keysAllowed targets others fields
      let stray := (fields.map (·.1)).filter fun key => !known.contains key
      faultUnless stray.isEmpty (.obj fields) (.unevaluated stray)
  | .unevaluatedItems beside others, .arr items =>
      let known := evaluatedByAll targets unmet beside (.arr items) ++
        indicesAllowed targets others 0 items
      let stray := (items.zipIdx.filter fun (_, n) => !known.contains (toString n)).map (·.1)
      faultUnless stray.isEmpty (.arr items) (.unevaluatedItems stray)
  | .unique, .arr items => faultUnless (Json.allDiffer items) (.arr items) .repetition
  | .const value, j => faultUnless (j.meets value) j (.notConst value)
  | .among values, j => faultUnless (values.any j.agrees) j (.notAmong values)
  | .type kinds listed, j => faultUnless (kinds.any (·.admits j)) j (.wrongType kinds listed)
  | .strictType kinds listed, j =>
      faultUnless (kinds.any (·.admitsStrictly j)) j (.wrongType kinds listed)
  | .bound b limit, .num n => faultUnless (b.allows limit n) (.num n) (.outOfBound b limit)
  | .atMost m limit, j => faultUnless ((m.count? j).all (· ≤ limit)) j (.tooMany m limit)
  | .atLeast m limit, j => faultUnless ((m.count? j).all (limit ≤ ·)) j (.tooFew m limit)
  | .multipleOf divisor, .num n =>
      faultUnless (n.toBinary64.isMultipleOf divisor) (.num n) (.notMultiple divisor)
  | .pattern p written, .str s => faultUnless (p.occursIn s) (.str s) (.unlike written)
  | .format f, .str s => faultUnless (f.admits s) (.str s) (.notOfFormat f)
  | .encoded, .str s =>
      faultUnless (Text.Base64.decode? s.toList).isSome (.str s) .notEncoded
  | .jsonText false, .str s => faultUnless (isJsonText s) (.str s) .notJsonText
  | .jsonText true, .str s =>
      (encodedComplaint? s).toList.map fun complaint => { value := .str s, complaint }
  | _, _ => []
termination_by k j => (sizeOf j, unmet.length, sizeOf k)
decreasing_by
  · have := List.length_erase_of_mem _h
    have := List.length_pos_of_mem _h
    exact .right _ (.left _ _ (by omega))
  all_goals decreasing_tactic

/-- Every diagnostic of all of the schemas. -/
def faultsOfParts (targets : Targets) (unmet : List String) :
    List Schema → Json → List Diagnostic
  | [], _ => []
  | s :: rest, j => faultsAt targets unmet s j ++ faultsOfParts targets unmet rest j
termination_by ss j => (sizeOf j, unmet.length, sizeOf ss)

/-- How many of the schemas allow the value. -/
def optionsMet (targets : Targets) (unmet : List String) : List Schema → Json → Nat
  | [], _ => 0
  | s :: rest, j =>
      (if (faultsAt targets unmet s j).isEmpty then 1 else 0) + optionsMet targets unmet rest j
termination_by ss j => (sizeOf j, unmet.length, sizeOf ss)

/-- Every diagnostic of the schemas that go with a property that the value has. -/
def faultsOfDependent (targets : Targets) (unmet : List String) :
    List (String × Schema) → Json → List Diagnostic
  | [], _ => []
  | (key, s) :: rest, j =>
      (if (j.asFields?).any (Entries.contains key) then faultsAt targets unmet s j else []) ++
        faultsOfDependent targets unmet rest j
termination_by ss j => (sizeOf j, unmet.length, sizeOf ss)

/-- Every diagnostic of the schemas whose patterns a name shows. -/
def faultsOfShown (targets : Targets) (unmet : List String) (key : String) :
    List (Pattern × Schema) → Json → List Diagnostic
  | [], _ => []
  | (p, s) :: rest, j =>
      (if p.occursIn key then faultsAt targets unmet s j else []) ++
        faultsOfShown targets unmet key rest j
termination_by ss j => (sizeOf j, unmet.length, sizeOf ss)

/-- Every diagnostic of the properties; the schema for others is for those that nothing else is
for. -/
def faultsOfFields (targets : Targets) (own : List (String × Schema))
    (shown : List (Pattern × Schema)) (others : Option Schema) :
    List (String × Json) → List Diagnostic
  | [] => []
  | (key, j) :: rest =>
      let names := Entries.keys targets
      let first :=
        match Entries.get? key own, others with
        | some s, _ => faultsAt targets names s j
        | none, some s =>
            if shown.any fun (p, _) => p.occursIn key then [] else faultsAt targets names s j
        | none, none => []
      (first ++ faultsOfShown targets names key shown j).map (Diagnostic.under key) ++
        faultsOfFields targets own shown others rest
termination_by fields => (sizeOf fields, 0, 0)

/-- Every diagnostic of the properties whose names show a pattern, pattern by pattern. -/
def faultsOfPatterns (targets : Targets) :
    List (Pattern × Schema) → List (String × Json) → List Diagnostic
  | [], _ => []
  | (p, s) :: rest, fields =>
      faultsOfShowing targets p s fields ++ faultsOfPatterns targets rest fields
termination_by schemas fields => (sizeOf fields, 0, sizeOf schemas)

/-- Every diagnostic of the properties whose names show one pattern. -/
def faultsOfShowing (targets : Targets) (p : Pattern) (s : Schema) :
    List (String × Json) → List Diagnostic
  | [] => []
  | (key, j) :: rest =>
      (if p.occursIn key then
        (faultsAt targets (Entries.keys targets) s j).map (Diagnostic.under key) else []) ++
        faultsOfShowing targets p s rest
termination_by fields => (sizeOf fields, 0, 0)

/-- Every diagnostic of the names of the properties. -/
def faultsOfNames (targets : Targets) (s : Schema) : List (String × Json) → List Diagnostic
  | [] => []
  | (key, _) :: rest =>
      faultsAt targets (Entries.keys targets) s (.str key) ++ faultsOfNames targets s rest
termination_by fields => (sizeOf fields, 0, 0)

/-- Every diagnostic of the items, but for those at the front that are skipped. -/
def faultsOfItems (targets : Targets) (item : Schema) (skipped index : Nat) :
    List Json → List Diagnostic
  | [] => []
  | j :: rest =>
      (if index < skipped then []
        else
          (faultsAt targets (Entries.keys targets) item j).map
            (Diagnostic.under (toString index))) ++
        faultsOfItems targets item skipped (index + 1) rest
termination_by items => (sizeOf items, 0, 0)

/-- Every diagnostic of the items that have a schema each. -/
def faultsOfTuple (targets : Targets) (index : Nat) :
    List Schema → List Json → List Diagnostic
  | s :: schemas, j :: rest =>
      (faultsAt targets (Entries.keys targets) s j).map (Diagnostic.under (toString index)) ++
        faultsOfTuple targets (index + 1) schemas rest
  | _, _ => []
termination_by _ items => (sizeOf items, 0, 0)

/-- How many of the items a schema allows. -/
def itemsMet (targets : Targets) (item : Schema) : List Json → Nat
  | [] => 0
  | j :: rest =>
      (if (faultsAt targets (Entries.keys targets) item j).isEmpty then 1 else 0) +
        itemsMet targets item rest
termination_by items => (sizeOf items, 0, 0)

/-- The keys or indices of the parts of a value that a schema evaluates. -/
def evaluated (targets : Targets) (unmet : List String) : Schema → Json → List String
  | .all keywords, j => evaluatedByAll targets unmet keywords j
  | _, _ => []
termination_by s j => (sizeOf j, unmet.length, sizeOf s)

def evaluatedByAll (targets : Targets) (unmet : List String) :
    List Keyword → Json → List String
  | [], _ => []
  | k :: rest, j => evaluatedBy targets unmet k j ++ evaluatedByAll targets unmet rest j
termination_by ks j => (sizeOf j, unmet.length, sizeOf ks)

/-- The keys or indices of the parts of a value that one keyword evaluates. -/
def evaluatedBy (targets : Targets) (unmet : List String) : Keyword → Json → List String
  | .reference target, j =>
      if _h : target ∈ unmet then
        match Entries.get? target targets with
        | some s => evaluated targets (unmet.erase target) s j
        | none => []
      else []
  | .embedded s, j => evaluated targets unmet s j
  | .all parts, j =>
      if (faultsOfParts targets unmet parts j).isEmpty then
        evaluatedByParts targets unmet parts j else []
  | .some options, j => evaluatedByParts targets unmet options j
  | .oneOf options, j =>
      if optionsMet targets unmet options j = 1 then
        evaluatedByParts targets unmet options j else []
  | .conditional test onTrue onFalse, j =>
      if (faultsAt targets unmet test j).isEmpty then
        evaluated targets unmet test j ++ evaluated targets unmet onTrue j
      else evaluated targets unmet onFalse j
  | .properties own shown others, .obj fields =>
      keysEvaluated targets own shown others fields
  | .closed own shown, .obj fields => keysEvaluated targets own shown none fields
  | .shown schemas, .obj fields => keysEvaluated targets [] schemas none fields
  | .dependent schemas, j => evaluatedByDependent targets unmet schemas j
  | .unevaluatedProperties _ others, .obj fields => keysAllowed targets others fields
  | .items _ _, .arr items => (List.range items.length).map toString
  | .tuple schemas, .arr items => (List.range (min schemas.length items.length)).map toString
  | .contains item _ _, .arr items => indicesAllowed targets item 0 items
  | .unevaluatedItems _ others, .arr items => indicesAllowed targets others 0 items
  | _, _ => []
termination_by k j => (sizeOf j, unmet.length, sizeOf k)
decreasing_by
  · have := List.length_erase_of_mem _h
    have := List.length_pos_of_mem _h
    exact .right _ (.left _ _ (by omega))
  all_goals decreasing_tactic

/-- What those of the schemas evaluate that allow the value. -/
def evaluatedByParts (targets : Targets) (unmet : List String) :
    List Schema → Json → List String
  | [], _ => []
  | s :: rest, j =>
      (if (faultsAt targets unmet s j).isEmpty then evaluated targets unmet s j else []) ++
        evaluatedByParts targets unmet rest j
termination_by ss j => (sizeOf j, unmet.length, sizeOf ss)

/-- What the schemas evaluate that go with a property that the value has. -/
def evaluatedByDependent (targets : Targets) (unmet : List String) :
    List (String × Schema) → Json → List String
  | [], _ => []
  | (key, s) :: rest, j =>
      (if (j.asFields?).any (Entries.contains key) then evaluated targets unmet s j else []) ++
        evaluatedByDependent targets unmet rest j
termination_by ss j => (sizeOf j, unmet.length, sizeOf ss)

/-- The keys of the properties that a schema allows that is for them. -/
def keysEvaluated (targets : Targets) (own : List (String × Schema))
    (shown : List (Pattern × Schema)) (others : Option Schema) :
    List (String × Json) → List String
  | [] => []
  | (key, j) :: rest =>
      let names := Entries.keys targets
      let byOwn :=
        match Entries.get? key own with
        | some s => (faultsAt targets names s j).isEmpty
        | none => false
      let byOthers :=
        match others with
        | some s => (faultsAt targets names s j).isEmpty
        | none => false
      (if byOwn || byOthers || shownAllows targets names key shown j then [key] else []) ++
        keysEvaluated targets own shown others rest
termination_by fields => (sizeOf fields, 0, 0)

/-- One of the schemas whose patterns a name shows allows the value. -/
def shownAllows (targets : Targets) (unmet : List String) (key : String) :
    List (Pattern × Schema) → Json → Bool
  | [], _ => false
  | (p, s) :: rest, j =>
      (p.occursIn key && (faultsAt targets unmet s j).isEmpty) ||
        shownAllows targets unmet key rest j
termination_by ss j => (sizeOf j, unmet.length, sizeOf ss)

/-- The keys of the properties that a schema allows. -/
def keysAllowed (targets : Targets) (s : Schema) : List (String × Json) → List String
  | [] => []
  | (key, j) :: rest =>
      (if (faultsAt targets (Entries.keys targets) s j).isEmpty then [key] else []) ++
        keysAllowed targets s rest
termination_by fields => (sizeOf fields, 0, 0)

/-- The indices of the items that a schema allows. -/
def indicesAllowed (targets : Targets) (s : Schema) (index : Nat) : List Json → List String
  | [] => []
  | j :: rest =>
      (if (faultsAt targets (Entries.keys targets) s j).isEmpty then [toString index] else []) ++
        indicesAllowed targets s (index + 1) rest
termination_by items => (sizeOf items, 0, 0)

end

/-- Every diagnostic of a value. -/
def faults (targets : Targets) (s : Schema) (j : Json) : List Diagnostic :=
  faultsAt targets (Entries.keys targets) s j

end Schema

end Dialogue
