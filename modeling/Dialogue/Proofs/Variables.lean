import Dialogue.Proofs.Entries
import Dialogue.Proofs.Text.Utf8
import Dialogue.Variables

/-!
# What a store of variables tells

After any sequence of bindings a store tells for each name, in lower case, the last binding of it,
and nothing of names that were never bound. The snapshot holds these bindings under the spellings
they were made with. It loses none, since the spellings of different names differ, and the store can
be built from it again.

Fields are bound in the order of their names, which is the order of the bytes of the names.
-/
namespace Dialogue.Variables

/-- The last of the bindings of a name that is given in lower case. -/
def lastUnder? (form : String) (sets : List (String × Json)) : Option (String × Json) :=
  sets.reverse.find? fun s => Text.lowercase s.1 == form

/-- The store tells the last binding of each name. -/
structure Records (vars : Variables) (sets : List (String × Json)) : Prop where
  get? : ∀ name, vars.get? name = (lastUnder? (Text.lowercase name) sets).map Prod.snd
  contains : ∀ name, vars.contains name = (vars.get? name).isSome
  size : vars.size = (sets.map fun s => Text.lowercase s.1).dedup.length
  snapshot_length : vars.snapshot.length = vars.size
  snapshot_ascending : Entries.Ascending vars.snapshot
  snapshot_forms : (vars.snapshot.map fun s => Text.lowercase s.1).Perm
    (sets.map fun s => Text.lowercase s.1).dedup
  mem_snapshot : ∀ s, s ∈ vars.snapshot ↔ lastUnder? (Text.lowercase s.1) sets = some s

def keyed (s : String × Json) : String × Binding := (Text.lowercase s.1, ⟨s.1, s.2⟩)

def shown (b : String × Binding) : String × Json := (b.2.name, b.2.value)

theorem shown_keyed (s : String × Json) : shown (keyed s) = s := rfl

theorem keyed_injective : Function.Injective keyed :=
  Function.LeftInverse.injective shown_keyed

variable {vars : Variables} {sets : List (String × Json)}

theorem keyed_shown {b : String × Binding} (h : b ∈ vars.bindings) : keyed (shown b) = b := by
  rw [keyed, shown, ← vars.folded b h]

theorem map_keyed_shown (vars : Variables) :
    (vars.bindings.map shown).map keyed = vars.bindings := by
  rw [List.map_map]
  conv_rhs => rw [← List.map_id vars.bindings]
  exact List.map_congr_left fun b hb => keyed_shown hb

theorem nodup_names (vars : Variables) : ((vars.bindings.map shown).map Prod.fst).Nodup := by
  refine List.Nodup.of_map Text.lowercase ?_
  have hkeys := Entries.nodup_keys vars.ascending
  rw [Entries.keys, ← map_keyed_shown vars, List.map_map] at hkeys
  rwa [List.map_map]

theorem snapshot_perm (vars : Variables) : vars.snapshot.Perm (vars.bindings.map shown) := by
  have hsnapshot : vars.snapshot.Nodup :=
    (Entries.nodup_keys (Entries.ascending_ofList _)).of_map
  rw [List.perm_ext_iff_of_nodup hsnapshot (nodup_names vars).of_map]
  exact fun s => Entries.mem_ofList_of_nodup (nodup_names vars)

theorem map_keyed_snapshot_perm (vars : Variables) :
    (vars.snapshot.map keyed).Perm vars.bindings := by
  have hperm := vars.snapshot_perm.map keyed
  rwa [map_keyed_shown] at hperm

theorem mem_snapshot_iff {s : String × Json} : s ∈ vars.snapshot ↔ keyed s ∈ vars.bindings := by
  rw [← vars.map_keyed_snapshot_perm.mem_iff, List.mem_map_of_injective keyed_injective]

theorem eq_of_bindings {vars vars' : Variables} (h : vars.bindings = vars'.bindings) :
    vars = vars' := by
  cases vars
  cases vars'
  cases h
  rfl

theorem ofFields_concat (sets : List (String × Json)) (s : String × Json) :
    ofFields (sets ++ [s]) = (ofFields sets).set s.1 s.2 := List.foldl_concat ..

/-- Binding keeps the last binding under each lower-case name. -/
theorem bindings_ofFields (sets : List (String × Json)) :
    (ofFields sets).bindings = Entries.ofList (sets.map keyed) := by
  induction sets using List.reverseRecOn with
  | nil => rfl
  | append_singleton sets s ih =>
      rw [ofFields_concat, List.map_append, List.map_singleton, Entries.ofList_concat, ← ih]
      rfl

/-- A store is built again from its snapshot. -/
theorem ofFields_snapshot (vars : Variables) : ofFields vars.snapshot = vars := by
  have hperm := vars.map_keyed_snapshot_perm
  have hkeys : ((vars.snapshot.map keyed).map Prod.fst).Nodup :=
    (hperm.map Prod.fst).nodup_iff.2 (Entries.nodup_keys vars.ascending)
  refine eq_of_bindings ?_
  rw [bindings_ofFields]
  refine Entries.eq_of_mem_iff (Entries.ascending_ofList _) vars.ascending fun b => ?_
  rw [Entries.mem_ofList_of_nodup hkeys, hperm.mem_iff]

theorem find?_keyed (form : String) (sets : List (String × Json)) :
    (sets.map keyed).reverse.find? (fun b => b.1 == form) = (lastUnder? form sets).map keyed := by
  rw [← List.map_reverse, List.find?_map]
  rfl

theorem get?_bindings_ofFields (form : String) (sets : List (String × Json)) :
    Entries.get? form (ofFields sets).bindings =
      (lastUnder? form sets).map fun s => ⟨s.1, s.2⟩ := by
  rw [bindings_ofFields, Entries.get?_ofList, find?_keyed, Option.map_map]
  rfl

theorem keyed_mem_bindings_iff {s : String × Json} :
    keyed s ∈ (ofFields sets).bindings ↔ lastUnder? (Text.lowercase s.1) sets = some s := by
  have hkey : (keyed s).1 = Text.lowercase s.1 := rfl
  rw [bindings_ofFields, Entries.mem_ofList_iff, hkey, find?_keyed, ← Option.map_some,
    (Option.map_injective keyed_injective).eq_iff]

theorem keys_bindings_perm (sets : List (String × Json)) :
    (Entries.keys (ofFields sets).bindings).Perm
      (sets.map fun s => Text.lowercase s.1).dedup := by
  have hperm := Entries.keys_ofList_perm (sets.map keyed)
  rwa [← bindings_ofFields, List.map_map] at hperm

theorem snapshot_forms_perm (vars : Variables) :
    (vars.snapshot.map fun s => Text.lowercase s.1).Perm (Entries.keys vars.bindings) := by
  have hperm := vars.map_keyed_snapshot_perm.map Prod.fst
  rwa [List.map_map] at hperm

theorem records (sets : List (String × Json)) : (ofFields sets).Records sets := by
  have hkeys := keys_bindings_perm sets
  refine ⟨?_, ?_, ?_, ?_, Entries.ascending_ofList _,
    (snapshot_forms_perm _).trans hkeys, ?_⟩
  · intro name
    rw [get?, get?_bindings_ofFields, Option.map_map]
    rfl
  · intro name
    rw [contains, Entries.contains, get?, Option.isSome_map]
  · rw [← hkeys.length_eq, Entries.keys, List.length_map, size]
  · rw [(snapshot_perm _).length_eq, List.length_map, size]
  · intro s
    rw [mem_snapshot_iff, keyed_mem_bindings_iff]

/-- Fields listed in the order of the bytes of their names are listed as they stand. -/
theorem eq_of_byte_order {fields : Fields} (hf : Entries.Ascending fields)
    (hp : sets.Perm fields)
    (ho : sets.Pairwise fun s t => Text.bytes s.1 < Text.bytes t.1) : sets = fields := by
  have hs : Entries.Ascending sets := ho.imp Text.bytes_lt_iff.1
  exact Entries.eq_of_mem_iff hs hf fun _ => hp.mem_iff

/-- After any bindings the store tells the last binding of each name, whatever its case, and shows
it as it was made; it is the store of its own snapshot; and a map is bound as its entries in the
order of the bytes of their names. -/
theorem ofFields_tells_last (sets : List (String × Json)) :
    (ofFields sets).Records sets ∧
      ofFields (ofFields sets).snapshot = ofFields sets ∧
      ∀ fields : Fields, Entries.Ascending fields → sets.Perm fields →
        (sets.Pairwise fun s t => Text.bytes s.1 < Text.bytes t.1) →
          ofFields fields = ofFields sets := by
  refine ⟨records sets, ofFields_snapshot _, fun fields hf hp ho => ?_⟩
  rw [eq_of_byte_order hf hp ho]

def spellings : Fields := Entries.ofList [("name", .bool true), ("NAME", .bool false)]

/-- The spelling that is later in the order of bytes is the one that is kept. -/
theorem ofFields_spellings :
    (ofFields spellings).snapshot = [("name", .bool true)] ∧
      (ofFields spellings).get? "Name" = some (.bool true) ∧
      ofFields spellings = ofFields [("NAME", .bool false), ("name", .bool true)] := by
  have htells := ofFields_tells_last [("NAME", .bool false), ("name", .bool true)]
  have hsame := htells.2.2 spellings (Entries.ascending_ofList _) (by decide) (by decide)
  refine ⟨by decide, ?_, hsame⟩
  rw [hsame, htells.1.get?]
  decide

end Dialogue.Variables
