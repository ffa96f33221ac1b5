import Dialogue.Proofs.Entries
import Dialogue.Schema.Check

/-!
# What keywords allow

A schema allows a value if it finds no fault in it. For each keyword of the bundled schemas this
says of which values that is so; keywords about properties are read for fields in order, where each
key stands once.

A choice of exactly one schema is a choice of at least one where no two allow the same value: where
each asks for a tag of its own.
-/
namespace Dialogue.Schema

open Entries (get? Ascending)

-- Where the keyword or the list is given, the check computes.
attribute [simp] faultsOf faultsOfAll faultsOfFields faultsOfItems optionsMet

variable {targets : Targets} {unmet : List String} {j : Json} {fields : Fields}

theorem faultUnless_eq_nil_iff {passes : Bool} {complaint : Complaint} :
    faultUnless passes j complaint = [] ↔ passes = true := by
  cases passes <;> simp [faultUnless]

theorem faultsOfAll_eq_nil_iff {keywords : List Keyword} :
    faultsOfAll targets unmet keywords j = [] ↔
      ∀ k ∈ keywords, faultsOf targets unmet k j = [] := by
  induction keywords with
  | nil => simp
  | cons k keywords ih => rw [faultsOfAll, List.append_eq_nil_iff, ih, List.forall_mem_cons]

theorem faultsAt_all_eq_nil_iff {keywords : List Keyword} :
    faultsAt targets unmet (.all keywords) j = [] ↔
      ∀ k ∈ keywords, faultsOf targets unmet k j = [] := by
  rw [faultsAt, faultsOfAll_eq_nil_iff]

/-- A reference that may still be followed asks for what its target asks for. -/
theorem faultsOf_reference {target : String} {s : Schema} (h : target ∈ unmet)
    (hs : get? target targets = some s) :
    faultsOf targets unmet (.reference target) j = faultsAt targets (unmet.erase target) s j := by
  rw [faultsOf, dif_pos h, hs]

theorem faultsOf_type_eq_nil_iff {kinds : List JsonType} {listed : Bool} :
    faultsOf targets unmet (.type kinds listed) j = [] ↔ ∃ kind ∈ kinds, kind.admits j = true := by
  rw [faultsOf, faultUnless_eq_nil_iff, List.any_eq_true]

theorem faultsOf_required_eq_nil_iff {keys : List String} :
    faultsOf targets unmet (.required keys) (.obj fields) = [] ↔
      ∀ key ∈ keys, ∃ value, get? key fields = some value := by
  rw [faultsOf, List.map_eq_nil_iff, List.filter_eq_nil_iff]
  simp [Entries.contains_iff]

theorem meets_str_iff {text : String} : j.meets (.str text) = true ↔ j = .str text := by
  cases j <;> simp [Json.meets, Json.agrees]

theorem faultsOf_const_str_eq_nil_iff {text : String} :
    faultsOf targets unmet (.const (.str text)) j = [] ↔ j = .str text := by
  rw [faultsOf, faultUnless_eq_nil_iff, meets_str_iff]

theorem agrees_str_iff {text : String} : j.agrees (.str text) = true ↔ j = .str text := by
  cases j <;> simp [Json.agrees]

theorem agrees_null_iff : j.agrees .null = true ↔ j = .null := by
  cases j <;> simp [Json.agrees]

theorem faultsOfFields_eq_nil_iff {own : List (String × Schema)} {others : Option Schema} :
    faultsOfFields targets own [] others fields = [] ↔
      ∀ e ∈ fields, ∀ s, (get? e.1 own).or others = some s →
        faultsAt targets (Entries.keys targets) s e.2 = [] := by
  induction fields with
  | nil => simp
  | cons e fields ih =>
      obtain ⟨key, j⟩ := e
      unfold faultsOfFields
      rw [List.append_eq_nil_iff, ih, List.forall_mem_cons, faultsOfShown]
      cases get? key own <;> cases others <;> simp

theorem faultsOf_properties_eq_nil_iff {own : List (String × Schema)} (h : Ascending fields)
    (hown : Ascending own) :
    faultsOf targets unmet (.properties own [] none) (.obj fields) = [] ↔
      ∀ e ∈ own, ∀ value, get? e.1 fields = some value →
        faultsAt targets (Entries.keys targets) e.2 value = [] := by
  rw [faultsOf, faultsOfFields_eq_nil_iff]
  simp only [Option.or_none, Entries.get?_eq_some_iff h, Entries.get?_eq_some_iff hown, Prod.forall]
  constructor
  · intro hall key s hs value hv
    exact hall key value hv s hs
  · intro hall key value hv s hs
    exact hall key s hs value hv

theorem faultsOf_others_eq_nil_iff {s : Schema} :
    faultsOf targets unmet (.properties [] [] (some s)) (.obj fields) = [] ↔
      ∀ e ∈ fields, faultsAt targets (Entries.keys targets) s e.2 = [] := by
  rw [faultsOf, faultsOfFields_eq_nil_iff]
  simp [get?]

theorem faultsOfItems_eq_nil_iff {item : Schema} {index : Nat} {items : List Json} :
    faultsOfItems targets item 0 index items = [] ↔
      ∀ k ∈ items, faultsAt targets (Entries.keys targets) item k = [] := by
  induction items generalizing index with
  | nil => simp
  | cons k items ih =>
      rw [faultsOfItems, List.append_eq_nil_iff, ih, List.forall_mem_cons,
        if_neg (Nat.not_lt_zero _), List.map_eq_nil_iff]

theorem faultsOf_items_eq_nil_iff {item : Schema} {items : List Json} :
    faultsOf targets unmet (.items 0 item) (.arr items) = [] ↔
      ∀ k ∈ items, faultsAt targets (Entries.keys targets) item k = [] := by
  rw [faultsOf, faultsOfItems_eq_nil_iff]

theorem optionsMet_eq_countP (options : List Schema) :
    optionsMet targets unmet options j =
      options.countP fun s => (faultsAt targets unmet s j).isEmpty := by
  induction options with
  | nil => simp
  | cons s options ih =>
      rw [optionsMet, List.countP_cons, ih, Nat.add_comm]

theorem faultsOf_oneOf_eq_nil_iff {options : List Schema} :
    faultsOf targets unmet (.oneOf options) j = [] ↔ optionsMet targets unmet options j = 1 := by
  unfold faultsOf
  cases optionsMet targets unmet options j with
  | zero => simp
  | succ n => cases n <;> simp

/-- Where each option asks for a tag of its own, one is met if any is. -/
theorem faultsOf_oneOf_tagged_eq_nil_iff {τ : Type} {tagged : List (Schema × τ)}
    (hn : (tagged.map (·.2)).Nodup) {tag : Option τ}
    (ht : ∀ e ∈ tagged, faultsAt targets unmet e.1 j = [] → tag = some e.2) :
    faultsOf targets unmet (.oneOf (tagged.map (·.1))) j = [] ↔
      ∃ e ∈ tagged, faultsAt targets unmet e.1 j = [] := by
  rw [faultsOf_oneOf_eq_nil_iff]
  induction tagged with
  | nil => simp
  | cons e tagged ih =>
      obtain ⟨hother, hn⟩ := List.nodup_cons.1 hn
      obtain ⟨he, ht⟩ := List.forall_mem_cons.1 ht
      simp only [List.mem_cons, or_and_right, exists_or, exists_eq_left]
      rw [List.map_cons, optionsMet, ← ih hn ht]
      cases hf : faultsAt targets unmet e.1 j with
      | nil =>
          -- Another option that is met would ask for the same tag.
          have hnone : optionsMet targets unmet (tagged.map (·.1)) j = 0 := by
            rw [optionsMet_eq_countP, List.countP_eq_zero, List.forall_mem_map]
            intro f hmem hmet
            have htags := (he hf).symm.trans (ht f hmem (List.isEmpty_iff.1 hmet))
            exact hother (List.mem_map.2 ⟨f, hmem, (Option.some.inj htags).symm⟩)
          simp [hnone]
      | cons fault faults => simp

end Dialogue.Schema
