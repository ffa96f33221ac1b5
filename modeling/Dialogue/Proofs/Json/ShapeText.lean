import Dialogue.Json.Decoder
import Dialogue.Proofs.Json.Record
import Dialogue.Proofs.Json.RoundTrip

/-!
# Reading what was printed, by shape

A value that has a shape is read by that shape to the end of its compact text, whatever the order of
its fields is, and comes back in order. What is read by shape is in order for any text.

A value has a shape when its fields are among those that the shape knows, none of them twice and all
that have to be there, and each value has the shape of its field; where the shape lets anything
pass, its numbers have to be legible.
-/
namespace Dialogue.Json

/-- An optional value may be read in one step more, since null is looked for first. -/
def Shape.isOptional : Shape → Bool
  | .optional _ => true
  | _ => false

/-- The value is one that a text of this shape writes. -/
inductive Fits : Shape → Json → Prop
  | any {j : Json} (h : ∀ n ∈ j.numbers, Legible n) : Fits .any j
  | text (s : String) : Fits .text (.str s)
  | choice {names : List String} {name : String} (h : name ∈ names) :
      Fits (.choice names) (.str name)
  | absent (inner : Shape) : Fits (.optional inner) .null
  | present {inner : Shape} {j : Json} (hi : inner.isOptional = false) (hj : j ≠ .null)
      (h : Fits inner j) : Fits (.optional inner) j
  | listOf {inner : Shape} {items : List Json} (h : ∀ j ∈ items, Fits inner j) :
      Fits (.listOf inner) (.arr items)
  | record {name : String} {known : List (String × Bool × Shape)} {fields : List (String × Json)}
      (hkeys : (fields.map (·.1)).Nodup)
      (hknown : ∀ field ∈ fields, (known.find? fun k => k.1 = field.1).isSome = true)
      (hrequired : ∀ k ∈ known, k.2.1 = true → k.1 ∈ fields.map (·.1))
      (h : ∀ field ∈ fields, ∀ k, known.find? (fun k => k.1 = field.1) = some k →
        Fits k.2.2 field.2) :
      Fits (.record name known) (.obj fields)

/-- An object whose fields are all known, where none has to be there. -/
theorem Fits.record_of_known {name : String} {known : List (String × Bool × Shape)}
    {fields : List (String × Json)} (hfree : ∀ k ∈ known, k.2.1 = false)
    (hkeys : (fields.map (·.1)).Nodup)
    (h : ∀ field ∈ fields, ∃ k, known.find? (fun k => k.1 = field.1) = some k ∧
      Fits k.2.2 field.2) : Fits (.record name known) (.obj fields) := by
  apply Fits.record hkeys
  · intro field hfield
    obtain ⟨k, hk, _⟩ := h field hfield
    rw [hk]
    rfl
  · intro k hk hrequired
    rw [hfree k hk] at hrequired
    cases hrequired
  · intro field hfield k hk
    obtain ⟨k', hk', hfits⟩ := h field hfield
    rw [hk', Option.some.injEq] at hk
    exact hk ▸ hfits

/-- The shape reads the value from its text, to the end and in order. -/
def Reads (shape : Shape) (j : Json) : Prop :=
  ∀ (fuel depth : Nat) (rest : List Char), j.depth ≤ depth →
    4 * (chars j).length + shape.isOptional.toNat ≤ fuel → Stops rest →
    readShape fuel depth shape (chars j ++ rest) = .ok (j.sort, rest)

theorem readString_stringText (wanted s : String) (rest : List Char) :
    readString wanted (stringText s ++ rest) = .ok (s, rest) := by
  have hs := stringAt_escaped s rest
  rw [stringText, List.append_assoc, List.cons_append, List.singleton_append, readString]
  exact hs

theorem reads_any {j : Json} (h : ∀ n ∈ j.numbers, Legible n) : Reads .any j := by
  intro fuel depth rest hd hf hr
  have hpos := chars_length_pos j
  obtain ⟨fuel, rfl⟩ := Nat.exists_eq_add_one_of_ne_zero (by omega : fuel ≠ 0)
  have hv : 2 * (chars j).length ≤ fuelFor (chars j ++ rest) := by
    simp only [fuelFor, List.length_append]
    omega
  have hread := readValue_chars j hd hv hr
  rw [(echo?_eq_self_iff j).2 h, Option.map_some, toOption_eq_some_iff] at hread
  rw [readShape, hread]
  rfl

theorem reads_text (s : String) : Reads .text (.str s) := by
  intro fuel depth rest _ hf _
  have hpos := chars_length_pos (.str s)
  obtain ⟨fuel, rfl⟩ := Nat.exists_eq_add_one_of_ne_zero (by omega : fuel ≠ 0)
  rw [readShape, chars, readString_stringText]
  rfl

theorem reads_choice {names : List String} {name : String} (h : name ∈ names) :
    Reads (.choice names) (.str name) := by
  intro fuel depth rest _ hf _
  have hpos := chars_length_pos (.str name)
  obtain ⟨fuel, rfl⟩ := Nat.exists_eq_add_one_of_ne_zero (by omega : fuel ≠ 0)
  have hvariant : readVariant "variant identifier" names (stringText name ++ rest) =
      .ok (name, rest) := by
    simp only [readVariant, readString_stringText, h, if_true]
  have hchoice : readChoice depth names (stringText name ++ rest) = .ok (name, rest) := by
    rw [readChoice, stringText, List.append_assoc, List.cons_append,
      skipBlanks_of_not_blank rfl]
    rw [stringText, List.append_assoc, List.cons_append] at hvariant
    exact hvariant
  rw [readShape, chars, hchoice]
  rfl

theorem chars_eq_cons_of_ne_null {j : Json} (h : j ≠ .null) :
    ∃ c cs, chars j = c :: cs ∧ isJsonBlank c = false ∧ c ≠ 'n' := by
  cases j with
  | null => exact absurd rfl h
  | bool b => cases b <;> exact ⟨_, _, rfl, rfl, by decide⟩
  | num n =>
      obtain ⟨negative, body, hb, hn⟩ := exists_numberText n
      rw [chars, hn]
      cases negative with
      | true => exact ⟨'-', body, rfl, rfl, by decide⟩
      | false =>
          obtain ⟨c, tail, rfl, hc⟩ := hb.eq_cons
          refine ⟨c, tail, rfl, isJsonBlank_of_isDigit hc, ?_⟩
          rintro rfl
          cases hc
  | str s => exact ⟨'"', _, rfl, rfl, by decide⟩
  | arr items => exact ⟨'[', _, rfl, rfl, by decide⟩
  | obj fields => exact ⟨'{', _, rfl, rfl, by decide⟩

theorem reads_absent (inner : Shape) : Reads (.optional inner) .null := by
  intro fuel depth rest _ hf _
  simp only [Shape.isOptional, Bool.toNat_true] at hf
  obtain ⟨fuel, rfl⟩ := Nat.exists_eq_add_one_of_ne_zero (by omega : fuel ≠ 0)
  rw [readShape]
  rfl

theorem reads_present {inner : Shape} {j : Json} (hi : inner.isOptional = false)
    (hj : j ≠ .null) (h : Reads inner j) : Reads (.optional inner) j := by
  intro fuel depth rest hd hf hr
  simp only [Shape.isOptional, Bool.toNat_true] at hf
  obtain ⟨fuel, rfl⟩ := Nat.exists_eq_add_one_of_ne_zero (by omega : fuel ≠ 0)
  have hread : readShape fuel depth inner (chars j ++ rest) = .ok (j.sort, rest) := by
    apply h _ _ _ hd _ hr
    simp only [hi, Bool.toNat_false]
    omega
  obtain ⟨c, cs, hc, hb, hn⟩ := chars_eq_cons_of_ne_null hj
  have hblank : skipBlanks (chars j ++ rest) = chars j ++ rest := by
    rw [hc, List.cons_append]
    exact skipBlanks_of_not_blank hb _
  rw [readShape, hblank]
  split
  · rename_i heq
    rw [hc, List.cons_append] at heq
    injection heq with heq
    exact absurd heq hn
  · exact hread

theorem readListOf_item {fuel depth : Nat} {inner : Shape} {first : Bool}
    {cs here after rest : List Char} {j : Json} {items : List Json}
    (hn : nextItem first cs = .ok (.part () here))
    (hv : readShape fuel depth inner here = .ok (j, after))
    (hm : readListOf fuel depth inner false after = .ok (items, rest)) :
    readListOf (fuel + 1) depth inner first cs = .ok (j :: items, rest) := by
  rw [readListOf, hn]
  simp only [bind, Except.bind, hv, hm]

section
variable {inner : Shape} {items : List Json} {fuel depth : Nat}

theorem readListOf_later (h : ∀ j ∈ items, Reads inner j) (hd : depthItems items ≤ depth)
    (hf : 4 * (laterItems items).length + 1 ≤ fuel) (rest : List Char) :
    readListOf fuel depth inner false (laterItems items ++ ']' :: rest) =
      .ok (sortItems items, rest) := by
  induction items generalizing fuel with
  | nil =>
      obtain ⟨fuel, rfl⟩ := Nat.exists_eq_add_one_of_ne_zero (by omega : fuel ≠ 0)
      rw [readListOf]
      rfl
  | cons j items ih =>
      obtain ⟨fuel, rfl⟩ := Nat.exists_eq_add_one_of_ne_zero (by omega : fuel ≠ 0)
      obtain ⟨hj, hitems⟩ := List.forall_mem_cons.1 h
      have hd := Nat.max_le.1 hd
      have hb := inner.isOptional.toNat_le
      rw [laterItems_cons, List.length_cons, List.length_append] at hf
      rw [laterItems_cons, List.cons_append, List.append_assoc]
      apply readListOf_item (nextItem_chars_later j _)
      · exact hj _ _ _ hd.1 (by omega) (stops_close (by decide) items rest)
      · exact ih hitems hd.2 (by omega)

theorem readListOf_first (h : ∀ j ∈ items, Reads inner j) (hd : depthItems items ≤ depth)
    (hf : 4 * (itemChars items).length + 2 ≤ fuel) (rest : List Char) :
    readListOf fuel depth inner true (itemChars items ++ ']' :: rest) =
      .ok (sortItems items, rest) := by
  obtain ⟨fuel, rfl⟩ := Nat.exists_eq_add_one_of_ne_zero (by omega : fuel ≠ 0)
  cases items with
  | nil =>
      rw [readListOf]
      rfl
  | cons j items =>
      obtain ⟨hj, hitems⟩ := List.forall_mem_cons.1 h
      have hd := Nat.max_le.1 hd
      have hb := inner.isOptional.toNat_le
      have hpos := chars_length_pos j
      rw [itemChars_cons, List.length_append] at hf
      rw [itemChars_cons, List.append_assoc]
      apply readListOf_item (nextItem_chars_first j _)
      · exact hj _ _ _ hd.1 (by omega) (stops_close (by decide) items rest)
      · exact readListOf_later hitems hd.2 (by omega) rest

theorem reads_listOf (h : ∀ j ∈ items, Reads inner j) : Reads (.listOf inner) (.arr items) := by
  intro fuel depth rest hd hf _
  rw [chars_arr, List.length_cons, List.length_append, List.length_singleton] at hf
  obtain ⟨fuel, rfl⟩ := Nat.exists_eq_add_one_of_ne_zero (by omega : fuel ≠ 0)
  obtain ⟨depth, rfl⟩ := Nat.exists_eq_add_one_of_ne_zero
    (Nat.ne_of_gt (Nat.lt_of_lt_of_le (Nat.succ_pos _) hd))
  have hitems := readListOf_first h (Nat.le_of_succ_le_succ hd) (by omega : _ ≤ fuel) rest
  rw [chars_arr, List.cons_append, List.append_assoc, List.singleton_append, readShape,
    skipBlanks_of_not_blank rfl]
  simp only [ne_eq, not_true, if_false, hitems]
  rfl

end

section
variable {known : List (String × Bool × Shape)} {fields : List (String × Json)}

def ReadsField (known : List (String × Bool × Shape)) (field : String × Json) : Prop :=
  ∃ k, known.find? (fun k => k.1 = field.1) = some k ∧ Reads k.2.2 field.2

theorem readRecord_field {fuel depth : Nat} {first : Bool} {seen : List String}
    {cs here after rest : List Char} {key : String} {j : Json} {fields : List (String × Json)}
    {k : String × Bool × Shape} (hn : nextKey first cs = .ok (.part key (':' :: here)))
    (hk : known.find? (fun k => k.1 = key) = some k) (hseen : key ∉ seen)
    (hv : readShape fuel depth k.2.2 here = .ok (j, after))
    (hm : readRecord fuel depth known false (key :: seen) after = .ok (fields, rest)) :
    readRecord (fuel + 1) depth known first seen cs = .ok ((key, j) :: fields, rest) := by
  have hc : afterColon (':' :: here) = .ok here := rfl
  have hs : ¬ seen.contains key = true := by simpa using hseen
  rw [readRecord, hn]
  simp only [bind, Except.bind, hk, if_neg hs, hc, hv, hm]

theorem readRecord_close {fuel depth : Nat} {first : Bool} {seen : List String}
    {cs rest : List Char} (hn : nextKey first cs = .ok (.close rest))
    (hr : ∀ k ∈ known, k.2.1 = true → k.1 ∈ seen) :
    readRecord (fuel + 1) depth known first seen cs = .ok ([], rest) := by
  have hnone : (known.find? fun k => k.2.1 && !seen.contains k.1) = none := by
    rw [List.find?_eq_none]
    intro k hk
    have hseen := hr k hk
    simp only [Bool.and_eq_true, Bool.not_eq_true', List.contains_eq_mem,
      decide_eq_false_iff_not, not_and, not_not]
    exact hseen
  rw [readRecord, hn]
  simp only [bind, Except.bind, hnone]

theorem readRecord_later {fuel depth : Nat} {seen : List String}
    (h : ∀ field ∈ fields, ReadsField known field) (hkeys : (fields.map (·.1)).Nodup)
    (hseen : ∀ field ∈ fields, field.1 ∉ seen)
    (hr : ∀ k ∈ known, k.2.1 = true → k.1 ∈ seen ∨ k.1 ∈ fields.map (·.1))
    (hd : depthFields fields ≤ depth) (hf : 4 * (laterFields fields).length + 1 ≤ fuel)
    (rest : List Char) :
    readRecord fuel depth known false seen (laterFields fields ++ '}' :: rest) =
      .ok (sortFields fields, rest) := by
  induction fields generalizing fuel seen with
  | nil =>
      obtain ⟨fuel, rfl⟩ := Nat.exists_eq_add_one_of_ne_zero (by omega : fuel ≠ 0)
      apply readRecord_close rfl
      intro k hk hreq
      simpa using hr k hk hreq
  | cons field fields ih =>
      obtain ⟨key, j⟩ := field
      obtain ⟨fuel, rfl⟩ := Nat.exists_eq_add_one_of_ne_zero (by omega : fuel ≠ 0)
      obtain ⟨⟨k, hk, hj⟩, hfields⟩ := List.forall_mem_cons.1 h
      obtain ⟨hkey, hkeys⟩ := List.nodup_cons.1 hkeys
      obtain ⟨hnew, hothers⟩ := List.forall_mem_cons.1 hseen
      have hd := Nat.max_le.1 hd
      have hb := k.2.2.isOptional.toNat_le
      have hlt := fieldText_length (key, j)
      rw [laterFields_cons, List.length_cons, List.length_append] at hf
      rw [laterFields_cons, List.cons_append, List.append_assoc]
      apply readRecord_field (nextKey_fieldText_later (key, j) _) hk hnew
      · exact hj _ _ _ hd.1 (by omega) (stops_closeFields (by decide) fields rest)
      · apply ih hfields hkeys _ _ hd.2 (by omega)
        · intro f hf'
          have hne : f.1 ≠ key := by
            rintro rfl
            exact hkey (List.mem_map.2 ⟨f, hf', rfl⟩)
          simp [hne, hothers f hf']
        · intro k' hk' hreq
          have hcases := hr k' hk' hreq
          simp only [List.map_cons, List.mem_cons] at hcases ⊢
          tauto

theorem readRecord_first {fuel depth : Nat} (h : ∀ field ∈ fields, ReadsField known field)
    (hkeys : (fields.map (·.1)).Nodup) (hr : ∀ k ∈ known, k.2.1 = true → k.1 ∈ fields.map (·.1))
    (hd : depthFields fields ≤ depth) (hf : 4 * (fieldChars fields).length + 2 ≤ fuel)
    (rest : List Char) :
    readRecord fuel depth known true [] (fieldChars fields ++ '}' :: rest) =
      .ok (sortFields fields, rest) := by
  obtain ⟨fuel, rfl⟩ := Nat.exists_eq_add_one_of_ne_zero (by omega : fuel ≠ 0)
  cases fields with
  | nil => exact readRecord_close rfl hr
  | cons field fields =>
      obtain ⟨key, j⟩ := field
      obtain ⟨⟨k, hk, hj⟩, hfields⟩ := List.forall_mem_cons.1 h
      obtain ⟨hkey, hkeys⟩ := List.nodup_cons.1 hkeys
      have hd := Nat.max_le.1 hd
      have hb := k.2.2.isOptional.toNat_le
      have hlt := fieldText_length (key, j)
      rw [fieldChars_cons, List.length_append] at hf
      rw [fieldChars_cons, List.append_assoc]
      apply readRecord_field (nextKey_fieldText_first (key, j) _) hk List.not_mem_nil
      · exact hj _ _ _ hd.1 (by omega) (stops_closeFields (by decide) fields rest)
      · apply readRecord_later hfields hkeys _ _ hd.2 (by omega)
        · intro f hf' hmem
          obtain rfl := List.mem_singleton.1 hmem
          exact hkey (List.mem_map.2 ⟨f, hf', rfl⟩)
        · intro k' hk' hreq
          simpa using hr k' hk' hreq

theorem reads_record (name : String) (h : ∀ field ∈ fields, ReadsField known field)
    (hkeys : (fields.map (·.1)).Nodup)
    (hr : ∀ k ∈ known, k.2.1 = true → k.1 ∈ fields.map (·.1)) :
    Reads (.record name known) (.obj fields) := by
  intro fuel depth rest hd hf _
  rw [chars_obj, List.length_cons, List.length_append, List.length_singleton] at hf
  obtain ⟨fuel, rfl⟩ := Nat.exists_eq_add_one_of_ne_zero (by omega : fuel ≠ 0)
  obtain ⟨depth, rfl⟩ := Nat.exists_eq_add_one_of_ne_zero
    (Nat.ne_of_gt (Nat.lt_of_lt_of_le (Nat.succ_pos _) hd))
  have hfields := readRecord_first h hkeys hr (Nat.le_of_succ_le_succ hd)
    (by omega : _ ≤ fuel) rest
  rw [chars_obj, List.cons_append, List.append_assoc, List.singleton_append, readShape,
    skipBlanks_of_not_blank rfl]
  simp [hfields, Except.map, sort]

end

/-- A value is read by a shape that it has. -/
theorem Fits.reads {shape : Shape} {j : Json} (h : Fits shape j) : Reads shape j := by
  induction h with
  | any h => exact reads_any h
  | text s => exact reads_text s
  | choice h => exact reads_choice h
  | absent inner => exact reads_absent inner
  | present hi hj _ ih => exact reads_present hi hj ih
  | listOf _ ih => exact reads_listOf ih
  | record hkeys hknown hrequired _ ih =>
      apply reads_record _ _ hkeys hrequired
      intro field hfield
      obtain ⟨k, hk⟩ := Option.isSome_iff_exists.1 (hknown field hfield)
      exact ⟨k, hk, ih field hfield k hk⟩

/-- From the compact text of a value that has its shape a decoder reads what it reads from the value
in order. -/
theorem Decoder.ofText_compact {α : Type} {decoder : Decoder α} {j : Json} {a : α}
    (h : Fits decoder.shape j) (hd : j.depth ≤ maxDepth) (hj : decoder.ofJson j.sort = .ok a) :
    decoder.ofText j.compact = .ok a := by
  have hb := decoder.shape.isOptional.toNat_le
  have hread := h.reads _ _ _ hd (by omega : _ ≤ 4 * (chars j).length + 8) stops_nil
  rw [List.append_nil] at hread
  rw [ofText, mapError_eq_ok_iff, compact, String.toList_ofList, ofChars, hread]
  show (decoder.ofJson j.sort).mapError _ = _
  rw [hj]
  rfl

mutual

/-- What is read by shape is in order, whatever the text and the shape are. -/
theorem readShape_sorted {fuel depth : Nat} {shape : Shape} {cs rest : List Char} {j : Json}
    (h : readShape fuel depth shape cs = .ok (j, rest)) : j.Sorted := by
  match fuel with
  | 0 => cases h
  | fuel + 1 =>
      cases shape with
      | any =>
          obtain ⟨r, _, he⟩ := map_eq_ok_iff.1 h
          cases he
          exact sort_sorted r.1
      | text =>
          obtain ⟨r, _, he⟩ := map_eq_ok_iff.1 h
          cases he
          trivial
      | choice names =>
          obtain ⟨r, _, he⟩ := map_eq_ok_iff.1 h
          cases he
          trivial
      | optional inner =>
          rw [readShape] at h
          split at h
          · obtain ⟨r, _, he⟩ := map_eq_ok_iff.1 h
            cases he
            trivial
          · exact readShape_sorted h
      | tagged label tag kinds verify =>
          obtain ⟨r, _, h⟩ := bind_eq_ok_iff.1 h
          obtain ⟨_, _, h⟩ := bind_eq_ok_iff.1 h
          cases h
          exact sort_sorted r.1
      | object =>
          rw [readShape] at h
          split at h
          · cases h
          · split at h
            · cases h
            · obtain ⟨r, _, he⟩ := map_eq_ok_iff.1 h
              cases he
              exact sort_sorted r.1
      | listOf inner =>
          rw [readShape] at h
          split at h
          · cases h
          · split at h
            · cases h
            · split at h
              · cases h
              · obtain ⟨r, hr, he⟩ := map_eq_ok_iff.1 h
                cases he
                exact sortedItems_iff.2 (readListOf_sorted hr)
      | record name known =>
          rw [readShape] at h
          split at h
          · cases h
          · split at h
            · cases h
            · split at h
              · cases h
              · split at h
                · obtain ⟨r, hr, he⟩ := map_eq_ok_iff.1 h
                  cases he
                  refine ⟨Entries.ascending_ofList _, sortedFields_iff.2 ?_⟩
                  intro e he
                  exact readRecord_sorted hr e (Entries.mem_of_mem_ofList he)
                · obtain ⟨r, hr, he⟩ := map_eq_ok_iff.1 h
                  cases he
                  exact sortedItems_iff.2 (readRow_sorted hr)
termination_by fuel

theorem readListOf_sorted {fuel depth : Nat} {inner : Shape} {first : Bool} {cs rest : List Char}
    {items : List Json} (h : readListOf fuel depth inner first cs = .ok (items, rest)) :
    ∀ j ∈ items, j.Sorted := by
  match fuel with
  | 0 => cases h
  | fuel + 1 =>
      rw [readListOf] at h
      obtain ⟨next, _, h⟩ := bind_eq_ok_iff.1 h
      cases next with
      | close after =>
          cases h
          exact List.forall_mem_nil _
      | part _ here =>
          obtain ⟨r, hitem, h⟩ := bind_eq_ok_iff.1 h
          obtain ⟨s, hitems, h⟩ := bind_eq_ok_iff.1 h
          cases h
          exact List.forall_mem_cons.2 ⟨readShape_sorted hitem, readListOf_sorted hitems⟩
termination_by fuel

theorem readRecord_sorted {fuel depth : Nat} {known : List (String × Bool × Shape)} {first : Bool}
    {seen : List String} {cs rest : List Char} {fields : List (String × Json)}
    (h : readRecord fuel depth known first seen cs = .ok (fields, rest)) :
    ∀ e ∈ fields, e.2.Sorted := by
  match fuel with
  | 0 => cases h
  | fuel + 1 =>
      rw [readRecord] at h
      obtain ⟨next, _, h⟩ := bind_eq_ok_iff.1 h
      cases next with
      | close after =>
          dsimp only at h
          split at h
          · cases h
          · cases h
            exact List.forall_mem_nil _
      | part key here =>
          dsimp only at h
          split at h
          · obtain ⟨after, _, h⟩ := bind_eq_ok_iff.1 h
            obtain ⟨after', _, h⟩ := bind_eq_ok_iff.1 h
            exact readRecord_sorted h
          · split at h
            · cases h
            · obtain ⟨after, _, h⟩ := bind_eq_ok_iff.1 h
              obtain ⟨r, hvalue, h⟩ := bind_eq_ok_iff.1 h
              obtain ⟨s, hothers, h⟩ := bind_eq_ok_iff.1 h
              cases h
              exact List.forall_mem_cons.2 ⟨readShape_sorted hvalue, readRecord_sorted hothers⟩
termination_by fuel

theorem readRow_sorted {fuel depth index : Nat} {wanted : String}
    {known : List (String × Bool × Shape)} {cs rest : List Char} {items : List Json}
    (h : readRow fuel depth wanted index known cs = .ok (items, rest)) :
    ∀ j ∈ items, j.Sorted := by
  match fuel, known with
  | 0, _ => cases h
  | fuel + 1, [] =>
      obtain ⟨after, _, he⟩ := map_eq_ok_iff.1 h
      cases he
      exact List.forall_mem_nil _
  | fuel + 1, k :: known =>
      rw [readRow] at h
      obtain ⟨next, _, h⟩ := bind_eq_ok_iff.1 h
      cases next with
      | close after =>
          dsimp only at h
          split at h
          · cases h
          · cases h
            exact List.forall_mem_nil _
      | part _ here =>
          obtain ⟨r, hitem, h⟩ := bind_eq_ok_iff.1 h
          obtain ⟨s, hitems, h⟩ := bind_eq_ok_iff.1 h
          cases h
          exact List.forall_mem_cons.2 ⟨readShape_sorted hitem, readRow_sorted hitems⟩
termination_by fuel

end

theorem sorted_of_mem_parts {j : Json} (h : j.Sorted) : ∀ part ∈ j.parts, part.Sorted := by
  cases j with
  | arr items => exact sortedItems_iff.1 h
  | obj fields =>
      intro part hpart
      obtain ⟨e, he, rfl⟩ := List.mem_map.1 hpart
      exact sortedFields_iff.1 h.2 e he
  | _ => exact List.forall_mem_nil _

theorem Decoder.exists_of_ofChars {α : Type} {decoder : Decoder α} {cs : List Char} {a : α}
    (h : decoder.ofChars cs = .ok a) : ∃ j, j.Sorted ∧ decoder.ofJson j = .ok a := by
  unfold ofChars at h
  split at h
  · cases h
  · rename_i j rest hread
    split at h
    · cases h
    · exact ⟨j, readShape_sorted hread, mapError_eq_ok_iff.1 h⟩

end Dialogue.Json
