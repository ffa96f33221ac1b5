import Dialogue.Entries
import Mathlib.Data.List.Dedup
import Mathlib.Data.List.Induction

/-!
# Looking up entries

Where keys ascend, a key stands once, so what is looked up under it is what the list holds. The
entries under some names can then be taken in two ways: by looking up the names in their order, or
by dropping all other entries from the list.

Entries that are built from a list keep the last of those under one key, and lose none that is alone
under its key.
-/
namespace Dialogue.Entries

variable {α β : Type} {entries : Entries α} {key : String} {value : α}

theorem mem_of_get? (h : get? key entries = some value) : (key, value) ∈ entries := by
  induction entries with
  | nil => cases h
  | cons e rest ih =>
      obtain ⟨k, v⟩ := e
      rw [get?] at h
      split at h
      · rename_i hk
        cases h
        rw [hk]
        exact List.mem_cons_self
      · exact List.mem_cons_of_mem _ (ih h)

theorem get?_eq_some_iff (h : Ascending entries) :
    get? key entries = some value ↔ (key, value) ∈ entries := by
  refine ⟨mem_of_get?, fun hm => ?_⟩
  induction entries with
  | nil => cases hm
  | cons e rest ih =>
      obtain ⟨k, v⟩ := e
      obtain ⟨hlt, hrest⟩ := List.pairwise_cons.1 h
      rw [get?]
      rcases List.mem_cons.1 hm with he | hm
      · cases he
        rw [if_pos rfl]
      · have hne : k ≠ key := by
          rintro rfl
          exact String.lt_irrefl k (hlt _ hm)
        rw [if_neg hne, ih hrest hm]

theorem contains_iff : contains key entries = true ↔ ∃ value, get? key entries = some value :=
  Option.isSome_iff_exists

theorem forall_get?_iff (p : α → Prop) {default : α} (hd : p default) :
    (∀ value, get? key entries = some value → p value) ↔ p ((get? key entries).getD default) := by
  cases get? key entries with
  | none => simp [hd]
  | some value => simp

theorem exists_get?_iff {p : α → Prop} :
    ((∃ value, get? key entries = some value) ∧ ∀ value, get? key entries = some value → p value) ↔
      ∃ value, get? key entries = some value ∧ p value := by
  cases get? key entries <;> simp

theorem get?_map (f : α → β) :
    get? key (entries.map fun e => (e.1, f e.2)) = (get? key entries).map f := by
  induction entries with
  | nil => rfl
  | cons e rest ih =>
      obtain ⟨k, v⟩ := e
      rw [List.map_cons, get?, get?, ih]
      split <;> rfl

theorem ascending_map_iff (f : α → β) :
    Ascending (entries.map fun e => (e.1, f e.2)) ↔ Ascending entries :=
  List.pairwise_map

theorem ascending_of_keys (h : (keys entries).Pairwise (· < ·)) : Ascending entries :=
  List.pairwise_map.1 h

/-- Where a key is held, setting it changes what is under it and nothing else. -/
theorem insert_eq_map (h : Ascending entries) {old : α} (hold : get? key entries = some old)
    (value : α) :
    insert key value entries = entries.map fun e => if e.1 = key then (key, value) else e := by
  induction entries with
  | nil => cases hold
  | cons e rest ih =>
      obtain ⟨k, v⟩ := e
      obtain ⟨hlt, hrest⟩ := List.pairwise_cons.1 h
      rw [insert, List.map_cons]
      rcases List.mem_cons.1 (mem_of_get? hold) with he | hm
      · obtain rfl : key = k := congrArg Prod.fst he
        have hothers : rest.map (fun e => if e.1 = key then (key, value) else e) = rest.map id := by
          refine List.map_congr_left fun e hrest => if_neg fun hkey => ?_
          have hbehind := hlt e hrest
          rw [hkey] at hbehind
          exact String.lt_irrefl key hbehind
        rw [if_neg (String.lt_irrefl key), if_pos rfl, if_pos rfl, hothers, List.map_id]
      · have hk : k < key := hlt _ hm
        have hne : k ≠ key := by
          rintro rfl
          exact String.lt_irrefl k hk
        rw [get?, if_neg hne] at hold
        rw [if_neg (String.lt_asymm hk), if_neg hne.symm, if_neg hne, ih hrest hold]

/-- The last of the entries that meet a condition is the one whose key is the greatest. -/
theorem find?_reverse_eq_some_iff {p : String × α → Bool} {e : String × α}
    (h : Ascending entries) :
    entries.reverse.find? p = some e ↔
      e ∈ entries ∧ p e = true ∧ ∀ f ∈ entries, p f = true → f ≠ e → f.1 < e.1 := by
  have hgreatest {e : String × α} (hf : entries.reverse.find? p = some e) :
      e ∈ entries ∧ p e = true ∧ ∀ f ∈ entries, p f = true → f ≠ e → f.1 < e.1 := by
    obtain ⟨hp, before, after, hsplit, hbefore⟩ := List.find?_eq_some_iff_append.1 hf
    refine ⟨List.mem_reverse.1 (List.mem_of_find?_eq_some hf), hp, fun f hm hpf hne => ?_⟩
    have hdescending := List.pairwise_reverse.2 h
    rw [hsplit, List.pairwise_append] at hdescending
    rw [← List.mem_reverse, hsplit] at hm
    rcases List.mem_append.1 hm with hm | hm
    · have hnot := hbefore f hm
      rw [hpf] at hnot
      cases hnot
    · rcases List.mem_cons.1 hm with rfl | hm
      · exact absurd rfl hne
      · exact (List.pairwise_cons.1 hdescending.2.1).1 f hm
  refine ⟨hgreatest, fun ⟨hm, hp, hlast⟩ => ?_⟩
  have hsome : (entries.reverse.find? p).isSome :=
    List.find?_isSome.2 ⟨e, List.mem_reverse.2 hm, hp⟩
  obtain ⟨e', he'⟩ := Option.isSome_iff_exists.1 hsome
  obtain ⟨hm', hp', hlast'⟩ := hgreatest he'
  by_cases hsame : e' = e
  · rw [he', hsame]
  · exact absurd (hlast e' hm' hp' hsame) (String.lt_asymm (hlast' e hm hp (Ne.symm hsame)))

theorem get?_filter {p : String → Bool} (hp : p key = true) :
    get? key (entries.filter fun e => p e.1) = get? key entries := by
  induction entries with
  | nil => rfl
  | cons e rest ih =>
      obtain ⟨k, v⟩ := e
      rw [List.filter_cons]
      split
      · rw [get?, get?, ih]
      · rename_i hk
        have hne : k ≠ key := by
          rintro rfl
          exact hk hp
        rw [ih, get?, if_neg hne]

/-- The entries under the names, in the order of the names. -/
def select (names : List String) (entries : Entries α) : List (String × α) :=
  names.filterMap fun name => (get? name entries).map fun value => (name, value)

theorem mem_select_iff {names : List String} {e : String × α} (h : Ascending entries) :
    e ∈ select names entries ↔ e.1 ∈ names ∧ e ∈ entries := by
  obtain ⟨k, v⟩ := e
  simp only [select, List.mem_filterMap, Option.map_eq_some_iff, Prod.mk.injEq,
    get?_eq_some_iff h]
  constructor
  · rintro ⟨name, hn, value, hv, rfl, rfl⟩
    exact ⟨hn, hv⟩
  · rintro ⟨hn, hv⟩
    exact ⟨k, hn, v, hv, rfl, rfl⟩

theorem ascending_select {names : List String} (hn : names.Pairwise (· < ·)) :
    Ascending (select names entries) := by
  refine List.pairwise_filterMap.2 (hn.imp ?_)
  intro m n hmn e he f hf
  obtain ⟨_, _, rfl⟩ := Option.map_eq_some_iff.1 he
  obtain ⟨_, _, rfl⟩ := Option.map_eq_some_iff.1 hf
  exact hmn

theorem eq_of_mem_iff {xs ys : Entries α} (hx : Ascending xs) (hy : Ascending ys)
    (h : ∀ e, e ∈ xs ↔ e ∈ ys) : xs = ys := by
  have hnodup {zs : Entries α} (hz : Ascending zs) : zs.Nodup := by
    refine hz.imp ?_
    rintro e f hef rfl
    exact String.lt_irrefl _ hef
  have hperm : xs.Perm ys := (List.perm_ext_iff_of_nodup (hnodup hx) (hnodup hy)).2 h
  refine hperm.eq_of_pairwise ?_ hx hy
  intro e f _ _ hef hfe
  exact absurd hfe (String.lt_asymm hef)

/-- Dropping all entries but those under the names leaves what the names select. -/
theorem filter_eq_select {names : List String} (h : Ascending entries)
    (hn : names.Pairwise (· < ·)) :
    entries.filter (fun e => decide (e.1 ∈ names)) = select names entries := by
  refine eq_of_mem_iff (h.filter _) (ascending_select hn) ?_
  intro e
  rw [List.mem_filter, decide_eq_true_iff, mem_select_iff h, and_comm]

theorem ofList_concat (xs : List (String × α)) (e : String × α) :
    ofList (xs ++ [e]) = insert e.1 e.2 (ofList xs) := List.foldl_concat ..

/-- What is found under a key is what was last put there. -/
theorem get?_ofList (key : String) (xs : List (String × α)) :
    get? key (ofList xs) = (xs.reverse.find? fun e => e.1 == key).map Prod.snd := by
  induction xs using List.reverseRecOn with
  | nil => rfl
  | append_singleton xs e ih =>
      rw [ofList_concat, List.reverse_concat, List.find?_cons]
      split
      · rename_i hk
        rw [← beq_iff_eq.1 hk, get?_insert_self]
        rfl
      · rename_i hk
        rw [get?_insert_of_ne (Ne.symm (beq_eq_false_iff_ne.1 hk)), ih]

theorem key_of_find? {xs : List (String × α)} {e : String × α}
    (h : xs.find? (fun f => f.1 == key) = some e) : e.1 = key := by
  have hp := List.find?_some h
  exact beq_iff_eq.1 hp

theorem mem_ofList_iff {xs : List (String × α)} {e : String × α} :
    e ∈ ofList xs ↔ xs.reverse.find? (fun f => f.1 == e.1) = some e := by
  obtain ⟨key, value⟩ := e
  rw [← get?_eq_some_iff (ascending_ofList xs), get?_ofList, Option.map_eq_some_iff]
  constructor
  · rintro ⟨⟨k, v⟩, hf, rfl⟩
    obtain rfl : k = key := key_of_find? hf
    exact hf
  · exact fun hf => ⟨_, hf, rfl⟩

theorem nodup_keys (h : Ascending entries) : (keys entries).Nodup := by
  refine (List.pairwise_map.2 h).imp ?_
  rintro k _ hlt rfl
  exact String.lt_irrefl k hlt

theorem mem_keys_ofList {xs : List (String × α)} :
    key ∈ keys (ofList xs) ↔ key ∈ xs.map Prod.fst := by
  rw [keys, List.mem_map, List.mem_map]
  constructor
  · rintro ⟨e, he, rfl⟩
    exact ⟨e, List.mem_reverse.1 (List.mem_of_find?_eq_some (mem_ofList_iff.1 he)), rfl⟩
  · rintro ⟨e, he, rfl⟩
    have hsome : (xs.reverse.find? fun f => f.1 == e.1).isSome :=
      List.find?_isSome.2 ⟨e, List.mem_reverse.2 he, beq_self_eq_true _⟩
    obtain ⟨f, hf⟩ := Option.isSome_iff_exists.1 hsome
    have hfe : f.1 = e.1 := key_of_find? hf
    exact ⟨f, mem_ofList_iff.2 (hfe ▸ hf), hfe⟩

theorem keys_ofList_perm (xs : List (String × α)) :
    (keys (ofList xs)).Perm (xs.map Prod.fst).dedup := by
  rw [List.perm_ext_iff_of_nodup (nodup_keys (ascending_ofList xs)) (List.nodup_dedup _)]
  intro key
  rw [mem_keys_ofList, List.mem_dedup]

theorem mem_ofList_of_nodup {xs : List (String × α)} (h : (xs.map Prod.fst).Nodup)
    {e : String × α} : e ∈ ofList xs ↔ e ∈ xs := by
  rw [mem_ofList_iff]
  constructor
  · intro hf
    exact List.mem_reverse.1 (List.mem_of_find?_eq_some hf)
  · intro he
    have hkey : e.1 ∈ keys (ofList xs) := mem_keys_ofList.2 (List.mem_map_of_mem he)
    obtain ⟨f, hf, hfe⟩ := List.mem_map.1 hkey
    have hfx := mem_ofList_iff.1 hf
    obtain rfl : f = e := List.inj_on_of_nodup_map h
      (List.mem_reverse.1 (List.mem_of_find?_eq_some hfx)) he hfe
    exact hfx

/-- Entries under different keys may be given in any order. -/
theorem ofList_perm {xs ys : List (String × α)} (h : xs.Perm ys)
    (hkeys : (xs.map Prod.fst).Nodup) : ofList xs = ofList ys := by
  have hkeys' : (ys.map Prod.fst).Nodup := (h.map Prod.fst).nodup_iff.1 hkeys
  apply eq_of_mem_iff (ascending_ofList xs) (ascending_ofList ys)
  intro e
  rw [mem_ofList_of_nodup hkeys, mem_ofList_of_nodup hkeys', h.mem_iff]

end Dialogue.Entries
