/-!
# Entries in the order of their keys

A finite map from names to values, as a list of entries whose keys increase strictly. The empty list
is one, `insert` keeps the order, and `ofList` builds one from entries in any order, the last of
repeated keys being kept. Names are ordered by code points, which is the order of their UTF-8 bytes.
-/
namespace Dialogue

abbrev Entries (α : Type) := List (String × α)

namespace Entries

variable {α β : Type}

/-- The value of the first entry with that key. -/
def get? (key : String) : Entries α → Option α
  | [] => none
  | (k, v) :: rest => if k = key then some v else get? key rest

def contains (key : String) (entries : Entries α) : Bool := (get? key entries).isSome

/-- Set `key` to `value`, in the place that the order of keys gives it. -/
def insert (key : String) (value : α) : Entries α → Entries α
  | [] => [(key, value)]
  | (k, v) :: rest =>
      if key < k then (key, value) :: (k, v) :: rest
      else if key = k then (key, value) :: rest
      else (k, v) :: insert key value rest

/-- Entries in order from entries in any order; of repeated keys the last counts. -/
def ofList (entries : List (String × α)) : Entries α :=
  entries.foldl (fun sofar e => insert e.1 e.2 sofar) []

def keys (entries : Entries α) : List String := entries.map (·.1)

/-- The keys increase strictly. -/
def Ascending (entries : Entries α) : Prop := entries.Pairwise fun e f => e.1 < f.1

theorem get?_insert_self (key : String) (value : α) (entries : Entries α) :
    get? key (insert key value entries) = some value := by
  induction entries with
  | nil => simp [insert, get?]
  | cons e rest ih =>
      obtain ⟨k, v⟩ := e
      simp only [insert]
      split
      · simp [get?]
      · split
        · simp [get?]
        · rename_i hne
          simp [get?, Ne.symm hne, ih]

theorem get?_insert_of_ne {key other : String} (h : other ≠ key) (value : α)
    (entries : Entries α) : get? other (insert key value entries) = get? other entries := by
  induction entries with
  | nil => simp [insert, get?, Ne.symm h]
  | cons e rest ih =>
      obtain ⟨k, v⟩ := e
      simp only [insert]
      split
      · simp [get?, Ne.symm h]
      · split
        · rename_i heq
          subst heq
          simp [get?, Ne.symm h]
        · simp [get?, ih]

theorem lt_of_not_lt {a b : String} (h : ¬ a < b) (hne : a ≠ b) : b < a := by
  rw [String.not_lt] at h
  rcases Decidable.em (b < a) with hlt | hlt
  · exact hlt
  · exact absurd (String.le_antisymm (String.not_lt.1 hlt) h) hne

theorem mem_insert {key : String} {value : α} {entries : Entries α} {e : String × α}
    (h : e ∈ insert key value entries) : e = (key, value) ∨ e ∈ entries := by
  induction entries with
  | nil => simpa [insert] using h
  | cons f rest ih =>
      obtain ⟨k, v⟩ := f
      simp only [insert] at h
      split at h
      · simpa using h
      · split at h
        · simp only [List.mem_cons] at h ⊢
          rcases h with h | h
          · exact .inl h
          · exact .inr (.inr h)
        · simp only [List.mem_cons] at h ⊢
          rcases h with h | h
          · exact .inr (.inl h)
          · rcases ih h with h | h
            · exact .inl h
            · exact .inr (.inr h)

theorem Ascending.insert {entries : Entries α} (h : Ascending entries) (key : String) (value : α) :
    Ascending (Entries.insert key value entries) := by
  induction entries with
  | nil => simp [Entries.insert, Ascending]
  | cons f rest ih =>
      obtain ⟨k, v⟩ := f
      have hk := List.pairwise_cons.1 h
      simp only [Entries.insert]
      split
      · rename_i hlt
        refine List.pairwise_cons.2 ⟨?_, h⟩
        intro e he
        rcases List.mem_cons.1 he with rfl | he
        · exact hlt
        · exact String.lt_trans hlt (hk.1 e he)
      · rename_i hlt
        split
        · rename_i heq
          subst heq
          exact List.pairwise_cons.2 ⟨hk.1, hk.2⟩
        · rename_i hne
          refine List.pairwise_cons.2 ⟨?_, ih hk.2⟩
          intro e he
          rcases mem_insert he with rfl | he
          · exact lt_of_not_lt hlt hne
          · exact hk.1 e he

theorem foldl_insert_ascending (more : List (String × α)) {entries : Entries α}
    (h : Ascending entries) :
    Ascending (more.foldl (fun sofar e => insert e.1 e.2 sofar) entries) := by
  induction more generalizing entries with
  | nil => exact h
  | cons e more ih => exact ih (h.insert e.1 e.2)

theorem ascending_ofList (entries : List (String × α)) : Ascending (ofList entries) :=
  foldl_insert_ascending entries List.Pairwise.nil

end Entries

end Dialogue
