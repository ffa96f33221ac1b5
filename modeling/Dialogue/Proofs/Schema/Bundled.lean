import Dialogue.Message
import Dialogue.Proofs.Schema.Allowance
import Dialogue.Schema.Structure

/-!
# The bundled schemas, part by part

What the schemas of single properties allow, as simplification lemmas, and that a required property
is there with an allowed value. None of them depends on the targets that may still be followed, but
for lists, whose items are checked from the start.
-/
namespace Dialogue.Schema.Bundled

open Entries (get? Ascending)

variable {unmet : List String} {j : Json} {fields : Fields} {key : String}

@[simp] theorem faultsOf_object_eq_nil_iff :
    faultsOf targets unmet (ofKind .object) j = [] ↔ ∃ fields, j = .obj fields := by
  rw [ofKind, faultsOf_type_eq_nil_iff]
  cases j <;> simp [JsonType.admits]

@[simp] theorem faultsAt_object_eq_nil_iff :
    faultsAt targets unmet (.all [ofKind .object]) j = [] ↔ ∃ fields, j = .obj fields := by
  rw [faultsAt_all_eq_nil_iff, List.forall_mem_singleton, faultsOf_object_eq_nil_iff]

@[simp] theorem faultsAt_string_eq_nil_iff :
    faultsAt targets unmet string j = [] ↔ ∃ s, j = .str s := by
  rw [string, faultsAt_all_eq_nil_iff, List.forall_mem_singleton, ofKind, faultsOf_type_eq_nil_iff]
  cases j <;> simp [JsonType.admits]

@[simp] theorem faultsAt_stringOrNull_eq_nil_iff :
    faultsAt targets unmet stringOrNull j = [] ↔ ∃ text, j = Message.ofOption text := by
  rw [stringOrNull, faultsAt_all_eq_nil_iff, List.forall_mem_singleton, orNull,
    faultsOf_type_eq_nil_iff, Option.exists]
  cases j <;> simp [JsonType.admits, Message.ofOption]

@[simp] theorem faultsAt_objectOrNull_eq_nil_iff :
    faultsAt targets unmet (.all [orNull .object]) j = [] ↔
      ∃ fields : Option Fields, j = fields.elim .null .obj := by
  rw [faultsAt_all_eq_nil_iff, List.forall_mem_singleton, orNull, faultsOf_type_eq_nil_iff,
    Option.exists]
  cases j <;> simp [JsonType.admits]

theorem faultsAt_nameOrNull_eq_nil_iff {names : List String} :
    faultsAt targets unmet (nameOrNull names) j = [] ↔
      ∃ name : Option String, (∀ n ∈ name, n ∈ names) ∧ j = Message.ofOption name := by
  rw [nameOrNull, faultsAt_all_eq_nil_iff, List.forall_mem_singleton, faultsOf,
    faultUnless_eq_nil_iff, List.any_append, Bool.or_eq_true, or_comm, Option.exists]
  simp [agrees_str_iff, agrees_null_iff, Message.ofOption]

@[simp] theorem faultsAt_const_eq_nil_iff {name : String} :
    faultsAt targets unmet (.all [.const (.str name)]) j = [] ↔ j = .str name := by
  rw [faultsAt_all_eq_nil_iff, List.forall_mem_singleton, faultsOf_const_str_eq_nil_iff]

/-- A definition that may still be followed is checked in place of its name. -/
theorem faultsAt_definition (unmet : List String) (name : String) (j : Json) {s : Schema}
    (h : "#/$defs/" ++ name ∈ unmet)
    (hs : get? ("#/$defs/" ++ name) targets = some s) :
    faultsAt targets unmet (.all [.reference ("#/$defs/" ++ name)]) j =
      faultsAt targets (unmet.erase ("#/$defs/" ++ name)) s j := by
  rw [faultsAt, faultsOfAll, faultsOfAll, List.append_nil, faultsOf_reference h hs]

theorem faultsAt_listOf_eq_nil_iff (name : String) {s : Schema}
    (h : get? ("#/$defs/" ++ name) targets = some s) :
    faultsAt targets unmet (listOf name) j = [] ↔
      ∃ items, j = .arr items ∧ ∀ k ∈ items,
        faultsAt targets ((Entries.keys targets).erase ("#/$defs/" ++ name)) s k = [] := by
  have hmem : "#/$defs/" ++ name ∈ Entries.keys targets :=
    List.mem_map_of_mem (f := (·.1)) (Entries.mem_of_get? h)
  have harr : faultsOf targets unmet (ofKind .array) j = [] ↔ ∃ items, j = .arr items := by
    rw [ofKind, faultsOf_type_eq_nil_iff]
    cases j <;> simp [JsonType.admits]
  rw [listOf, faultsAt_all_eq_nil_iff, List.forall_mem_cons, List.forall_mem_singleton, harr]
  constructor
  · rintro ⟨hitems, items, rfl⟩
    rw [faultsOf_items_eq_nil_iff] at hitems
    simp only [faultsAt_definition _ name _ hmem h] at hitems
    exact ⟨items, rfl, hitems⟩
  · rintro ⟨items, rfl, hitems⟩
    rw [faultsOf_items_eq_nil_iff]
    simp only [faultsAt_definition _ name _ hmem h]
    exact ⟨hitems, items, rfl⟩

theorem faultsAt_having_eq_nil_iff {own : List (String × Schema)} {keys : List String}
    (h : Ascending fields) (hown : (Entries.keys own).Pairwise (· < ·))
    (hkeys : ∀ key ∈ keys, key ∈ Entries.keys own) :
    faultsAt targets unmet (.all [having own, .required keys]) (.obj fields) = [] ↔
      ∀ e ∈ own, (e.1 ∈ keys → ∃ value, get? e.1 fields = some value) ∧
        ∀ value, get? e.1 fields = some value →
          faultsAt targets (Entries.keys targets) e.2 value = [] := by
  rw [faultsAt_all_eq_nil_iff, List.forall_mem_cons, List.forall_mem_singleton, having,
    faultsOf_properties_eq_nil_iff h (Entries.ascending_of_keys hown), faultsOf_required_eq_nil_iff]
  constructor
  · rintro ⟨hown, hkeys⟩ e he
    exact ⟨hkeys e.1, hown e he⟩
  · intro hall
    refine ⟨fun e he => (hall e he).2, fun key hkey => ?_⟩
    obtain ⟨e, he, rfl⟩ := List.mem_map.1 (hkeys key hkey)
    exact (hall e he).1 hkey

theorem faultsAt_record_eq_nil_iff {own : List (String × Schema)} {keys : List String}
    (h : Ascending fields) (hown : (Entries.keys own).Pairwise (· < ·))
    (hkeys : ∀ key ∈ keys, key ∈ Entries.keys own) :
    faultsAt targets unmet (.all [having own, .required keys, ofKind .object]) (.obj fields) = [] ↔
      ∀ e ∈ own, (e.1 ∈ keys → ∃ value, get? e.1 fields = some value) ∧
        ∀ value, get? e.1 fields = some value →
          faultsAt targets (Entries.keys targets) e.2 value = [] := by
  have hkind : faultsOf targets unmet (ofKind .object) (.obj fields) = [] :=
    faultsOf_object_eq_nil_iff.2 ⟨fields, rfl⟩
  have hdrop : faultsAt targets unmet (.all [having own, .required keys, ofKind .object])
      (.obj fields) = faultsAt targets unmet (.all [having own, .required keys]) (.obj fields) := by
    simp only [faultsAt, faultsOfAll, hkind, List.append_nil]
  rw [hdrop, faultsAt_having_eq_nil_iff h hown hkeys]

theorem forall_text_iff (key : String) :
    (∀ value, get? key fields = some value → ∃ text, value = Message.ofOption text) ↔
      ∃ text, (get? key fields).getD .null = Message.ofOption text :=
  Entries.forall_get?_iff (fun value => ∃ text, value = Message.ofOption text) ⟨none, rfl⟩

theorem exists_fields_of_faultsAt {keywords : List Keyword} (hk : ofKind .object ∈ keywords)
    (h : faultsAt targets unmet (.all keywords) j = []) : ∃ fields, j = .obj fields :=
  faultsOf_object_eq_nil_iff.1 (faultsAt_all_eq_nil_iff.1 h _ hk)

end Dialogue.Schema.Bundled

namespace Dialogue

theorem ClosedSchema.failure?_eq_none_iff {s : ClosedSchema} {code : FailureCode}
    {message : String} {j : Json} : s.failure? code message j = none ↔ s.faults j = [] := by
  rw [failure?]
  cases s.faults j <;> simp

end Dialogue
