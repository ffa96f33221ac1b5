import Dialogue.Json.Basic
import Dialogue.Proofs.Entries

/-!
# Values in order

Putting a value into order changes nothing in a value that is in order, and the result is in order
whatever the value was. It keeps or drops fields but makes none, so that no value gets deeper.
-/
namespace Dialogue

namespace Entries

variable {α : Type}

theorem mem_foldl_insert {more : List (String × α)} {entries : Entries α} {e : String × α}
    (h : e ∈ more.foldl (fun sofar e => insert e.1 e.2 sofar) entries) :
    e ∈ more ∨ e ∈ entries := by
  induction more generalizing entries with
  | nil => exact .inr h
  | cons f more ih =>
      rcases ih h with hm | hi
      · exact .inl (List.mem_cons_of_mem f hm)
      · rcases mem_insert hi with rfl | he
        · exact .inl List.mem_cons_self
        · exact .inr he

theorem mem_of_mem_ofList {entries : List (String × α)} {e : String × α} (h : e ∈ ofList entries) :
    e ∈ entries := by
  rcases mem_foldl_insert h with hm | hn
  · exact hm
  · cases hn

theorem insert_of_ascending {entries : Entries α} {key : String} {value : α}
    (h : ∀ e ∈ entries, e.1 < key) : insert key value entries = entries ++ [(key, value)] := by
  induction entries with
  | nil => rfl
  | cons e entries ih =>
      obtain ⟨k, v⟩ := e
      have hk : k < key := h (k, v) List.mem_cons_self
      have hne : key ≠ k := by
        rintro rfl
        exact String.lt_irrefl key hk
      rw [insert, if_neg (String.lt_asymm hk), if_neg hne,
        ih fun e he => h e (List.mem_cons_of_mem _ he)]
      rfl

theorem foldl_insert_of_ascending {more : List (String × α)} {entries : Entries α}
    (h : Ascending (entries ++ more)) :
    more.foldl (fun sofar e => insert e.1 e.2 sofar) entries = entries ++ more := by
  induction more generalizing entries with
  | nil => rw [List.foldl_nil, List.append_nil]
  | cons e more ih =>
      have hlast : ∀ f ∈ entries, f.1 < e.1 := by
        intro f hf
        exact (List.pairwise_append.1 h).2.2 f hf e List.mem_cons_self
      rw [List.foldl_cons, insert_of_ascending hlast, List.append_cons entries e more]
      rw [List.append_cons] at h
      exact ih h

theorem ofList_of_ascending {entries : Entries α} (h : Ascending entries) :
    ofList entries = entries := by
  rw [ofList, foldl_insert_of_ascending (by exact h), List.nil_append]

end Entries

namespace Json

theorem sortedFields_iff {fields : List (String × Json)} :
    SortedFields fields ↔ ∀ e ∈ fields, e.2.Sorted := by
  induction fields with
  | nil => simp [SortedFields]
  | cons e fields ih => simp [SortedFields, ih]

theorem sorted_getD {fields : Fields} {key : String} {j : Json} (default : Json)
    (h : SortedFields fields) (hd : default.Sorted)
    (hget : (Entries.get? key fields).getD default = j) : j.Sorted := by
  subst hget
  cases hget : Entries.get? key fields with
  | none => exact hd
  | some value => exact sortedFields_iff.1 h _ (Entries.mem_of_get? hget)

theorem sortedItems_iff {items : List Json} : SortedItems items ↔ ∀ j ∈ items, j.Sorted := by
  induction items with
  | nil => simp [SortedItems]
  | cons j items ih => simp [SortedItems, ih]

theorem sortFields_eq_map (fields : List (String × Json)) :
    sortFields fields = fields.map fun f => (f.1, f.2.sort) := by
  induction fields with
  | nil => rfl
  | cons f fields ih => rw [sortFields, ih, List.map_cons]

/-- The fields of an object may be given in any order, if no key is repeated. -/
theorem sort_perm {fields fields' : List (String × Json)} (h : fields.Perm fields')
    (hkeys : (fields.map Prod.fst).Nodup) : (obj fields).sort = (obj fields').sort := by
  have hperm : (sortFields fields).Perm (sortFields fields') := by
    rw [sortFields_eq_map, sortFields_eq_map]
    exact h.map _
  have hnodup : ((sortFields fields).map Prod.fst).Nodup := by
    rw [sortFields_eq_map, List.map_map]
    exact hkeys
  rw [sort, sort, Entries.ofList_perm hperm hnodup]

theorem depthFields_le_iff {fields : List (String × Json)} {d : Nat} :
    depthFields fields ≤ d ↔ ∀ e ∈ fields, e.2.depth ≤ d := by
  induction fields with
  | nil => simp [depthFields]
  | cons e fields ih => rw [depthFields, Nat.max_le, ih, List.forall_mem_cons]

mutual

theorem sort_sorted : (j : Json) → j.sort.Sorted
  | .null | .bool _ | .num _ | .str _ => trivial
  | .arr items => sortItems_sorted items
  | .obj fields => by
      refine ⟨Entries.ascending_ofList _, sortedFields_iff.2 ?_⟩
      intro e he
      exact sortedFields_iff.1 (sortFields_sorted fields) e (Entries.mem_of_mem_ofList he)

theorem sortItems_sorted : (items : List Json) → SortedItems (sortItems items)
  | [] => trivial
  | j :: items => ⟨sort_sorted j, sortItems_sorted items⟩

theorem sortFields_sorted : (fields : List (String × Json)) → SortedFields (sortFields fields)
  | [] => trivial
  | (_, j) :: fields => ⟨sort_sorted j, sortFields_sorted fields⟩

end

mutual

theorem depth_sort_le : (j : Json) → j.sort.depth ≤ j.depth
  | .null | .bool _ | .num _ | .str _ => Nat.le_refl _
  | .arr items => Nat.succ_le_succ (depth_sortItems_le items)
  | .obj fields => by
      refine Nat.succ_le_succ (depthFields_le_iff.2 ?_)
      intro e he
      exact depthFields_le_iff.1 (depth_sortFields_le fields) e (Entries.mem_of_mem_ofList he)

theorem depth_sortItems_le : (items : List Json) → depthItems (sortItems items) ≤ depthItems items
  | [] => Nat.le_refl _
  | j :: items => by
      have hj := depth_sort_le j
      have hi := depth_sortItems_le items
      simp only [sortItems, depthItems]
      omega

theorem depth_sortFields_le : (fields : List (String × Json)) →
    depthFields (sortFields fields) ≤ depthFields fields
  | [] => Nat.le_refl _
  | (_, j) :: fields => by
      have hj := depth_sort_le j
      have hf := depth_sortFields_le fields
      simp only [sortFields, depthFields]
      omega

end

mutual

theorem sort_of_sorted : {j : Json} → j.Sorted → j.sort = j
  | .null, _ | .bool _, _ | .num _, _ | .str _, _ => rfl
  | .arr _, h => congrArg Json.arr (sortItems_of_sorted h)
  | .obj fields, h => by
      rw [sort, sortFields_of_sorted h.2, Entries.ofList_of_ascending h.1]

theorem sortItems_of_sorted : {items : List Json} → SortedItems items → sortItems items = items
  | [], _ => rfl
  | j :: items, h => by
      rw [sortItems, sort_of_sorted h.1, sortItems_of_sorted h.2]

theorem sortFields_of_sorted : {fields : List (String × Json)} → SortedFields fields →
    sortFields fields = fields
  | [], _ => rfl
  | (k, j) :: fields, h => by
      rw [sortFields, sort_of_sorted h.1, sortFields_of_sorted h.2]

end

end Json

end Dialogue
