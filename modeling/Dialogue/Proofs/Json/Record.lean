import Dialogue.Json.Decoder
import Dialogue.Proofs.Entries
import Dialogue.Proofs.Except

/-!
# What reading a record keeps

A record starts from a fixed value and is filled slot by slot. A property that this value has, and
that every slot keeps whatever allowed value fills it, holds of every record that is read, from an
object and from a list alike.

Which record is read depends on the entries under the names of the slots alone: where the keys
ascend, the others may be dropped, and the slots can be filled name by name.
-/
namespace Dialogue.Json

def parts : Json → List Json
  | .arr items => items
  | .obj fields => fields.map (·.2)
  | _ => []

variable {β σ : Type} {P : σ → Prop} {Q : β → Prop}

/-- Filling the slot with a value that has `Q` keeps `P`. -/
def Slot.Keeps (slot : Slot β σ) (Q : β → Prop) (P : σ → Prop) : Prop :=
  ∀ value before after, Q value → P before → slot.fill value before = .ok after → P after

theorem ShapedSlot.ofDefault_keeps {α : Type} {name : String} {decoder : Decoder α}
    {set : α → σ → σ} {Q : Json → Prop}
    (h : ∀ j a before, Q j → decoder.ofJson j = .ok a → P before → P (set a before)) :
    (ofDefault name decoder set).toSlot.Keeps Q P := by
  intro j before after hj hb hfill
  have hmap : (decoder.ofJson j).map (set · before) = .ok after := hfill
  obtain ⟨a, ha, rfl⟩ := map_eq_ok_iff.1 hmap
  exact h j a before hj ha hb

theorem fillEntries_keeps {slots : List (Slot β σ)} (hs : ∀ slot ∈ slots, slot.Keeps Q P)
    {entries : List (String × β)} (hq : ∀ e ∈ entries, Q e.2) {seen seen' : List String}
    {before after : σ} (hp : P before)
    (h : fillEntries slots seen before entries = .ok (after, seen')) : P after := by
  induction entries generalizing seen before with
  | nil =>
      cases h
      exact hp
  | cons e entries ih =>
      obtain ⟨key, value⟩ := e
      have hrest : ∀ e ∈ entries, Q e.2 := fun e he => hq e (List.mem_cons_of_mem _ he)
      rw [fillEntries] at h
      split at h
      · exact ih hrest hp h
      · rename_i slot hfind
        split at h
        · cases h
        · split at h
          · cases h
          · rename_i next hfill
            have hkeeps := hs slot (List.mem_of_find?_eq_some hfind)
            exact ih hrest (hkeeps value before next (hq _ List.mem_cons_self) hp hfill) h

theorem recordOfItems_keeps {slots : List (Slot β σ)} (hs : ∀ slot ∈ slots, slot.Keeps Q P)
    {items : List β} (hq : ∀ v ∈ items, Q v) {wanted : String} {index : Nat} {before after : σ}
    (hp : P before) (h : recordOfItems wanted index slots before items = .ok after) : P after := by
  induction slots generalizing items index before with
  | nil =>
      rw [recordOfItems] at h
      cases h
      exact hp
  | cons slot slots ih =>
      have hrest : ∀ s ∈ slots, s.Keeps Q P := fun s hm => hs s (List.mem_cons_of_mem _ hm)
      cases items with
      | nil =>
          rw [recordOfItems] at h
          split at h
          · cases h
          · exact ih hrest hq hp h
      | cons value items =>
          rw [recordOfItems] at h
          split at h
          · cases h
          · rename_i next hfill
            have hkeeps := hs slot List.mem_cons_self
            exact ih hrest (fun v hv => hq v (List.mem_cons_of_mem _ hv))
              (hkeeps value before next (hq value List.mem_cons_self) hp hfill) h

theorem fillEntries_filter {slots : List (Slot β σ)} {names : List String}
    (hn : ∀ slot ∈ slots, slot.name ∈ names) (entries : List (String × β)) (seen : List String)
    (before : σ) :
    fillEntries slots seen before (entries.filter fun e => decide (e.1 ∈ names)) =
      fillEntries slots seen before entries := by
  induction entries generalizing seen before with
  | nil => rfl
  | cons e entries ih =>
      obtain ⟨key, value⟩ := e
      rw [List.filter_cons]
      split
      · rw [fillEntries, fillEntries]
        simp only [ih]
      · rename_i hkey
        have hfind : (slots.find? fun slot => slot.name = key) = none := by
          rw [List.find?_eq_none]
          intro slot hslot hname
          rw [decide_eq_true_iff] at hname hkey
          exact hkey (hname ▸ hn slot hslot)
        rw [ih, fillEntries, hfind]

namespace Record
variable {r : Record β σ} {record : σ}

/-- A record is read from the entries under the names of its slots. -/
theorem ofEntries_select (names : List String) (hn : ∀ slot ∈ r.slots, slot.name ∈ names)
    (hnames : names.Pairwise (· < ·)) {entries : Entries β} (h : Entries.Ascending entries) :
    r.ofEntries (Entries.select names entries) = r.ofEntries entries := by
  rw [← Entries.filter_eq_select h hnames]
  unfold ofEntries recordOfEntries
  rw [fillEntries_filter hn]

theorem ofEntries_keeps (hs : ∀ slot ∈ r.slots, slot.Keeps Q P) (hp : P r.start)
    {entries : List (String × β)} (hq : ∀ e ∈ entries, Q e.2)
    (h : r.ofEntries entries = .ok record) : P record := by
  unfold ofEntries recordOfEntries at h
  split at h
  · cases h
  · rename_i hfill
    split at h
    · cases h
    · cases h
      exact fillEntries_keeps hs hq hp hfill

theorem ofItems_keeps (hs : ∀ slot ∈ r.slots, slot.Keeps Q P) (hp : P r.start) {items : List β}
    (hq : ∀ v ∈ items, Q v) {overlong : String} (h : r.ofItems overlong items = .ok record) :
    P record := by
  unfold ofItems at h
  split at h
  · cases h
  · rename_i hfill
    split at h
    · cases h
    · cases h
      exact recordOfItems_keeps hs hq hp hfill

theorem ofJson_keeps {r : Record Json σ} {Q : Json → Prop}
    (hs : ∀ slot ∈ r.slots, slot.Keeps Q P) (hp : P r.start) {j : Json}
    (hq : ∀ part ∈ j.parts, Q part) (h : r.ofJson j = .ok record) : P record := by
  unfold ofJson at h
  split at h
  · exact ofEntries_keeps hs hp (fun e he => hq e.2 (List.mem_map_of_mem he)) h
  · exact ofItems_keeps hs hp hq h
  · cases h

end Record

/-- The entries under the names lead from one record to another. A name without an entry has to
change nothing. -/
inductive Fills (slots : List (Slot β σ)) (entries : Entries β) : List String → σ → σ → Prop
  | nil {record : σ} : Fills slots entries [] record record
  | cons {name : String} {names : List String} {slot : Slot β σ} {before next after : σ}
      (hslot : slots.find? (fun slot => slot.name = name) = some slot)
      (hpresent : ∀ value, Entries.get? name entries = some value →
        slot.fill value before = .ok next)
      (habsent : Entries.get? name entries = none → next = before)
      (hrest : Fills slots entries names next after) :
      Fills slots entries (name :: names) before after

/-- A field that may be absent, where the record already has what an absent one means. -/
theorem Fills.ofDefault {α : Type} {slots : List (Slot Json σ)} {fields : Fields} {name : String}
    {names : List String} {decoder : Decoder α} {set : α → σ → σ} {before after : σ} {a : α}
    (hslot : slots.find? (fun slot => slot.name = name) =
      some (ShapedSlot.ofDefault name decoder set).toSlot)
    (hpresent : ∀ value, Entries.get? name fields = some value → decoder.ofJson value = .ok a)
    (habsent : Entries.get? name fields = none → set a before = before)
    (hrest : Fills slots fields names (set a before) after) :
    Fills slots fields (name :: names) before after := by
  refine .cons hslot ?_ habsent hrest
  intro value hvalue
  show (decoder.ofJson value).map _ = _
  rw [hpresent value hvalue]
  rfl

theorem Fills.fillEntries_select {slots : List (Slot β σ)} {entries : Entries β}
    {names : List String} {before after : σ} (h : Fills slots entries names before after)
    (hnames : names.Nodup) {seen : List String} (hseen : ∀ name ∈ names, name ∉ seen) :
    ∃ seen', fillEntries slots seen before (Entries.select names entries) = .ok (after, seen') := by
  induction h generalizing seen with
  | nil => exact ⟨seen, rfl⟩
  | @cons name names slot before next after hslot hpresent habsent hrest ih =>
      obtain ⟨hname, hnodup⟩ := List.nodup_cons.1 hnames
      obtain ⟨hfirst, hothers⟩ := List.forall_mem_cons.1 hseen
      rw [Entries.select, List.filterMap_cons]
      cases hget : Entries.get? name entries with
      | none =>
          rw [← habsent hget]
          exact ih hnodup hothers
      | some value =>
          have hseen' : ∀ other ∈ names, other ∉ name :: seen := by
            intro other hm hmem
            rcases List.mem_cons.1 hmem with rfl | hmem
            · exact hname hm
            · exact hothers other hm hmem
          obtain ⟨seen', hfill⟩ := ih hnodup hseen'
          refine ⟨seen', ?_⟩
          rw [Option.map_some]
          simp only [fillEntries, hslot, if_neg hfirst, hpresent value hget]
          exact hfill

/-- A record none of whose slots has to be there is read name by name. -/
theorem Record.ofEntries_of_fills {r : Record β σ} {names : List String}
    (hn : ∀ slot ∈ r.slots, slot.name ∈ names) (hnames : names.Pairwise (· < ·))
    (hfree : ∀ slot ∈ r.slots, slot.required = false) {entries : Entries β}
    (h : Entries.Ascending entries) {record : σ}
    (hf : Fills r.slots entries names r.start record) : r.ofEntries entries = .ok record := by
  have hnodup : names.Nodup := by
    refine hnames.imp ?_
    rintro name _ hlt rfl
    exact String.lt_irrefl name hlt
  obtain ⟨seen, hfill⟩ := hf.fillEntries_select hnodup fun _ _ => List.not_mem_nil
  rw [← Record.ofEntries_select names hn hnames h, Record.ofEntries, recordOfEntries, hfill]
  have hnone : r.slots.find? (fun slot => slot.required && !seen.contains slot.name) = none := by
    rw [List.find?_eq_none]
    intro slot hslot hrequired
    rw [hfree slot hslot] at hrequired
    cases hrequired
  simp only [hnone]

theorem exists_of_mem_asList {α : Type} {item : Json → Except Mismatch α} {j : Json} {as : List α}
    (h : asList item j = .ok as) : ∀ a ∈ as, ∃ k ∈ j.parts, item k = .ok a := by
  cases j with
  | arr items =>
      rw [asList] at h
      rw [parts]
      induction items generalizing as with
      | nil =>
          cases h
          exact List.forall_mem_nil _
      | cons k items ih =>
          rw [List.mapM_cons, bind_eq_ok_iff] at h
          obtain ⟨a, hk, h⟩ := h
          obtain ⟨rest, hr, h⟩ := bind_eq_ok_iff.1 h
          cases h
          intro b hb
          rcases List.mem_cons.1 hb with rfl | hb
          · exact ⟨k, List.mem_cons_self, hk⟩
          · obtain ⟨k', hk', hb'⟩ := ih hr b hb
            exact ⟨k', List.mem_cons_of_mem k hk', hb'⟩
  | null => cases h
  | bool _ => cases h
  | num _ => cases h
  | str _ => cases h
  | obj _ => cases h

end Dialogue.Json
