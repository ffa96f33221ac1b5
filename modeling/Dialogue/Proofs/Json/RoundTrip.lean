import Dialogue.Proofs.Json.NumberText
import Dialogue.Proofs.Json.Reading

/-!
# Reading what was printed

The compact text of a value is read to its end. What comes back is the value itself, except that its
numbers come back as what their own texts read as: a float may miss itself. `echo?` says what comes
back; there is nothing where some number is not read at all.

A value in order is therefore read back from its text exactly when it is not nested too deep and
every number in it is read back from its own. Whole numbers always are.
-/
namespace Dialogue.Json

/-- The number reads back from its text. -/
def Legible (n : Number) : Prop := ofChars (numberText n) = .ok (.num n)

mutual

def numbers : Json → List Number
  | .num n => [n]
  | .arr items => itemNumbers items
  | .obj fields => fieldNumbers fields
  | _ => []
termination_by structural j => j

def itemNumbers : List Json → List Number
  | [] => []
  | j :: rest => numbers j ++ itemNumbers rest
termination_by structural items => items

def fieldNumbers : List (String × Json) → List Number
  | [] => []
  | (_, j) :: rest => numbers j ++ fieldNumbers rest
termination_by structural fields => fields

end

mutual

/-- The value with every number replaced by what its text reads as. -/
def echo? : Json → Option Json
  | .num n => (ofChars (numberText n)).toOption
  | .arr items => (echoItems? items).map .arr
  | .obj fields => (echoFields? fields).map .obj
  | j => some j
termination_by structural j => j

def echoItems? : List Json → Option (List Json)
  | [] => some []
  | j :: rest => (echo? j).bind fun k => (echoItems? rest).map (k :: ·)
termination_by structural items => items

def echoFields? : List (String × Json) → Option (List (String × Json))
  | [] => some []
  | (key, j) :: rest => (echo? j).bind fun k => (echoFields? rest).map ((key, k) :: ·)
termination_by structural fields => fields

end

theorem skipBlanks_of_not_blank {c : Char} (h : isJsonBlank c = false) (cs : List Char) :
    skipBlanks (c :: cs) = c :: cs := List.dropWhile_cons_of_neg (by simp [h])

theorem isJsonBlank_of_isDigit {c : Char} (h : c.isDigit = true) : isJsonBlank c = false := by
  unfold isJsonBlank
  cases hb : (c = ' ' || c = '\n' || c = '\t' || c = '\r' : Bool) with
  | false => rfl
  | true =>
      simp only [Bool.or_eq_true, decide_eq_true_eq] at hb
      rcases hb with ((rfl | rfl) | rfl) | rfl <;> cases h

theorem NumberText.eq_cons {cs : List Char} (h : NumberText cs) :
    ∃ c tail, cs = c :: tail ∧ c.isDigit = true := by
  cases h with
  | @mk ds cs digits all fraction =>
      cases ds with
      | nil => exact absurd rfl digits
      | cons d ds => exact ⟨d, ds ++ cs, rfl, all d List.mem_cons_self⟩

theorem readValue_numberText (fuel depth : Nat) {negative : Bool} {body : List Char}
    (h : NumberText body) (rest : List Char) :
    readValue (fuel + 1) depth ((if negative then '-' :: body else body) ++ rest) =
      (numberAt negative (body ++ rest)).map fun r => (.num r.1, r.2) := by
  cases negative with
  | true =>
      rw [readValue]
      rfl
  | false =>
      obtain ⟨c, tail, rfl, hc⟩ := h.eq_cons
      exact readValue_of_digit (skipBlanks_of_not_blank (isJsonBlank_of_isDigit hc) _) hc

theorem ofChars_numberText {n : Number} {negative : Bool} {body : List Char}
    (h : NumberText body) (hn : numberText n = if negative then '-' :: body else body) :
    (ofChars (numberText n)).toOption =
      (numberAt negative body).toOption.map fun r => .num r.1 := by
  have hr := @readValue_numberText (2 * (numberText n).length + 1) maxDepth negative body h []
  rw [List.append_nil, List.append_nil, ← hn] at hr
  unfold ofChars fuelFor
  rw [hr]
  cases hx : numberAt negative body with
  | error fault => rfl
  | ok r =>
      obtain ⟨m, rest⟩ := r
      obtain rfl := h.rest_eq_nil hx
      rfl

theorem readValue_number (fuel depth : Nat) (n : Number) {rest : List Char} (hr : Stops rest) :
    (readValue (fuel + 1) depth (numberText n ++ rest)).toOption =
      (echo? (.num n)).map (·, rest) := by
  obtain ⟨negative, body, hb, hn⟩ := exists_numberText n
  have hnil : ∀ r ∈ (numberAt negative body).toOption, r.2 = [] := by
    rintro ⟨m, tail⟩ hm
    exact hb.rest_eq_nil (toOption_eq_some_iff.1 hm)
  rw [echo?, ofChars_numberText hb hn, hn, readValue_numberText fuel depth hb, toOption_map,
    numberAt_append hr, before_of_nil hnil]
  cases (numberAt negative body).toOption <;> rfl

theorem legible_whole (w : Whole) : Legible (.whole w) := by
  obtain ⟨negative, body, hb, ht, hw⟩ := exists_intText w
  have hn : numberText (.whole w) = if negative then '-' :: body else body := ht
  rw [Legible, ← toOption_eq_some_iff, ofChars_numberText hb hn, hw]
  rfl

def laterItems (items : List Json) : List Char := items.flatMap fun j => ',' :: chars j

def fieldText (field : String × Json) : List Char := stringText field.1 ++ ':' :: chars field.2

def laterFields (fields : List (String × Json)) : List Char :=
  fields.flatMap fun field => ',' :: fieldText field

theorem laterItems_cons (j : Json) (items : List Json) :
    laterItems (j :: items) = ',' :: (chars j ++ laterItems items) := by
  rw [laterItems, List.flatMap_cons, List.cons_append]
  rfl

theorem laterFields_cons (field : String × Json) (fields : List (String × Json)) :
    laterFields (field :: fields) = ',' :: (fieldText field ++ laterFields fields) := by
  rw [laterFields, List.flatMap_cons, List.cons_append]
  rfl

theorem fieldText_length (field : String × Json) :
    (chars field.2).length < (fieldText field).length := by
  rw [fieldText, List.length_append, List.length_cons]
  omega

theorem itemChars_cons (j : Json) (items : List Json) :
    itemChars (j :: items) = chars j ++ laterItems items := by
  induction items generalizing j with
  | nil => rw [itemChars, laterItems, List.flatMap_nil, List.append_nil]
  | cons k items ih => rw [itemChars, ih, laterItems_cons]

theorem fieldChars_cons (field : String × Json) (fields : List (String × Json)) :
    fieldChars (field :: fields) = fieldText field ++ laterFields fields := by
  induction fields generalizing field with
  | nil => rw [fieldChars, fieldText, laterFields, List.flatMap_nil, List.append_nil]
  | cons f fields ih =>
      rw [fieldChars, ih, laterFields_cons]
      simp only [fieldText, List.append_assoc, List.cons_append]

theorem stops_close {c : Char} (hc : continuesNumber c = false) (items : List Json)
    (rest : List Char) : Stops (laterItems items ++ c :: rest) := by
  cases items with
  | nil => exact stops_cons hc rest
  | cons j items => exact stops_cons (by decide) _

theorem stops_closeFields {c : Char} (hc : continuesNumber c = false)
    (fields : List (String × Json)) (rest : List Char) :
    Stops (laterFields fields ++ c :: rest) := by
  cases fields with
  | nil => exact stops_cons hc rest
  | cons f fields => exact stops_cons (by decide) _

/-- The text of a value begins with no blank and closes no list. -/
theorem chars_eq_cons (j : Json) :
    ∃ c cs, chars j = c :: cs ∧ isJsonBlank c = false ∧ c ≠ ']' := by
  cases j with
  | null => exact ⟨'n', _, rfl, rfl, by decide⟩
  | bool b =>
      cases b
      · exact ⟨'f', _, rfl, rfl, by decide⟩
      · exact ⟨'t', _, rfl, rfl, by decide⟩
  | num n =>
      obtain ⟨negative, body, hb, hn⟩ := exists_numberText n
      rw [chars, hn]
      cases negative with
      | true => exact ⟨'-', body, rfl, rfl, by decide⟩
      | false =>
          obtain ⟨c, tail, rfl, hc⟩ := hb.eq_cons
          refine ⟨c, tail, rfl, isJsonBlank_of_isDigit hc, ?_⟩
          rintro rfl
          cases hc
  | str s => exact ⟨'"', _, rfl, rfl, by decide⟩
  | arr items => exact ⟨'[', _, rfl, rfl, by decide⟩
  | obj fields => exact ⟨'{', _, rfl, rfl, by decide⟩

theorem chars_length_pos (j : Json) : 0 < (chars j).length := by
  obtain ⟨c, cs, hj, _⟩ := chars_eq_cons j
  rw [hj]
  exact Nat.succ_pos _

theorem nextItem_chars_first (j : Json) (rest : List Char) :
    nextItem true (chars j ++ rest) = .ok (.part () (chars j ++ rest)) := by
  obtain ⟨c, cs, hj, hb, hc⟩ := chars_eq_cons j
  rw [hj, List.cons_append, nextItem, skipBlanks_of_not_blank hb]
  dsimp only
  rw [if_neg hc]
  rfl

theorem nextItem_chars_later (j : Json) (rest : List Char) :
    nextItem false (',' :: (chars j ++ rest)) = .ok (.part () (chars j ++ rest)) := by
  obtain ⟨c, cs, hj, hb, hc⟩ := chars_eq_cons j
  have hs : skipBlanks (',' :: (chars j ++ rest)) = ',' :: (chars j ++ rest) :=
    skipBlanks_of_not_blank rfl _
  rw [nextItem, hs, hj, List.cons_append]
  dsimp only
  rw [skipBlanks_of_not_blank hb]
  dsimp only
  rw [if_neg hc]
  rfl

theorem keyAt_stringText (key : String) (rest : List Char) :
    keyAt (stringText key ++ rest) = .ok (.part key rest) := by
  have hk := stringAt_escaped key rest
  rw [stringText, List.append_assoc, List.cons_append, keyAt]
  rw [List.singleton_append, hk]
  rfl

theorem nextKey_fieldText_first (field : String × Json) (rest : List Char) :
    nextKey true (fieldText field ++ rest) =
      .ok (.part field.1 (':' :: (chars field.2 ++ rest))) := by
  have hk := keyAt_stringText field.1 (':' :: (chars field.2 ++ rest))
  rw [fieldText, List.append_assoc, List.cons_append]
  exact hk

theorem nextKey_fieldText_later (field : String × Json) (rest : List Char) :
    nextKey false (',' :: (fieldText field ++ rest)) =
      .ok (.part field.1 (':' :: (chars field.2 ++ rest))) := by
  have hk := keyAt_stringText field.1 (':' :: (chars field.2 ++ rest))
  rw [fieldText, List.append_assoc, List.cons_append]
  exact hk

theorem readItems_item {fuel depth : Nat} {first : Bool} {cs here after rest : List Char}
    {j : Json} {items : List Json} (hn : nextItem first cs = .ok (.part () here))
    (hv : (readValue fuel depth here).toOption = (echo? j).map (·, after))
    (hm : (readItems fuel depth false after).toOption = (echoItems? items).map (·, rest)) :
    (readItems (fuel + 1) depth first cs).toOption =
      (echoItems? (j :: items)).map (·, rest) := by
  rw [readItems, hn, echoItems?]
  dsimp only
  rcases error_or_ok_of_toOption hv with ⟨fault, hr, he⟩ | ⟨k, hr, he⟩
  · rw [hr, he]
    rfl
  · rw [hr, he]
    dsimp only
    rw [toOption_map, hm]
    cases echoItems? items <;> rfl

theorem readFields_field {fuel depth : Nat} {first : Bool} {cs here after rest : List Char}
    {key : String} {j : Json} {fields : List (String × Json)}
    (hn : nextKey first cs = .ok (.part key (':' :: here)))
    (hv : (readValue fuel depth here).toOption = (echo? j).map (·, after))
    (hm : (readFields fuel depth false after).toOption = (echoFields? fields).map (·, rest)) :
    (readFields (fuel + 1) depth first cs).toOption =
      (echoFields? ((key, j) :: fields)).map (·, rest) := by
  have hc : afterColon (':' :: here) = .ok here := rfl
  rw [readFields, hn, echoFields?]
  dsimp only
  rw [hc]
  dsimp only
  rcases error_or_ok_of_toOption hv with ⟨fault, hr, he⟩ | ⟨k, hr, he⟩
  · rw [hr, he]
    rfl
  · rw [hr, he]
    dsimp only
    rw [toOption_map, hm]
    cases echoFields? fields <;> rfl

theorem chars_arr (items : List Json) : chars (.arr items) = '[' :: (itemChars items ++ [']']) := by
  rw [chars, List.cons_append]

theorem chars_obj (fields : List (String × Json)) :
    chars (.obj fields) = '{' :: (fieldChars fields ++ ['}']) := by
  rw [chars, List.cons_append]

theorem readValue_list (fuel depth : Nat) (cs : List Char) :
    readValue (fuel + 1) (depth + 1) ('[' :: cs) =
      (readItems fuel depth true cs).map fun r => (.arr r.1, r.2) := by
  rw [readValue]
  rfl

theorem readValue_object (fuel depth : Nat) (cs : List Char) :
    readValue (fuel + 1) (depth + 1) ('{' :: cs) =
      (readFields fuel depth true cs).map fun r => (.obj r.1, r.2) := by
  rw [readValue]
  rfl

mutual

/-- The text of a value that is not nested too deep is read to its end, and gives the echo. -/
theorem readValue_chars : (j : Json) → {fuel depth : Nat} → j.depth ≤ depth →
    2 * (chars j).length ≤ fuel → {rest : List Char} → Stops rest →
    (readValue fuel depth (chars j ++ rest)).toOption = (echo? j).map (·, rest)
  | j, 0, _, _, hf, _, _ => by
      have := chars_length_pos j
      omega
  | .null, fuel + 1, depth, _, _, rest, _ => by
      rw [readValue]
      rfl
  | .bool b, fuel + 1, depth, _, _, rest, _ => by
      cases b <;> rw [readValue] <;> rfl
  | .num n, fuel + 1, depth, _, _, rest, hr => readValue_number fuel depth n hr
  | .str s, fuel + 1, depth, _, _, rest, _ => by
      have hs := stringAt_escaped s rest
      rw [chars, stringText, List.append_assoc, List.singleton_append, List.cons_append]
      exact toOption_eq_some_iff.2 (readValue_eq_ok_iff.2 (.string hs))
  | .arr items, fuel + 1, depth + 1, hd, hf, rest, _ => by
      have hd := Nat.le_of_succ_le_succ hd
      rw [chars_arr, List.length_cons, List.length_append, List.length_singleton] at hf
      have hi := @readItems_chars_first items fuel depth hd (by omega) rest
      rw [chars_arr, List.cons_append, List.append_assoc, List.singleton_append, readValue_list,
        toOption_map, hi, echo?]
      cases echoItems? items <;> rfl
  | .obj fields, fuel + 1, depth + 1, hd, hf, rest, _ => by
      have hd := Nat.le_of_succ_le_succ hd
      rw [chars_obj, List.length_cons, List.length_append, List.length_singleton] at hf
      have hi := @readFields_chars_first fields fuel depth hd (by omega) rest
      rw [chars_obj, List.cons_append, List.append_assoc, List.singleton_append,
        readValue_object, toOption_map, hi, echo?]
      cases echoFields? fields <;> rfl

theorem readItems_chars_first : (items : List Json) → {fuel depth : Nat} →
    depthItems items ≤ depth → 2 * (itemChars items).length + 1 ≤ fuel → (rest : List Char) →
    (readItems fuel depth true (itemChars items ++ ']' :: rest)).toOption =
      (echoItems? items).map (·, rest)
  | [], fuel + 1, depth, _, _, rest => by
      rw [readItems]
      rfl
  | j :: items, fuel + 1, depth, hd, hf, rest => by
      have hd := Nat.max_le.1 hd
      have := chars_length_pos j
      rw [itemChars_cons, List.length_append] at hf
      rw [itemChars_cons, List.append_assoc]
      exact readItems_item (nextItem_chars_first j _)
        (readValue_chars j hd.1 (by omega) (stops_close (by decide) items rest))
        (readItems_chars_later items hd.2 (by omega) rest)

theorem readItems_chars_later : (items : List Json) → {fuel depth : Nat} →
    depthItems items ≤ depth → 2 * (laterItems items).length + 1 ≤ fuel → (rest : List Char) →
    (readItems fuel depth false (laterItems items ++ ']' :: rest)).toOption =
      (echoItems? items).map (·, rest)
  | [], fuel + 1, depth, _, _, rest => by
      rw [readItems]
      rfl
  | j :: items, fuel + 1, depth, hd, hf, rest => by
      have hd := Nat.max_le.1 hd
      rw [laterItems_cons, List.length_cons, List.length_append] at hf
      rw [laterItems_cons, List.cons_append, List.append_assoc]
      exact readItems_item (nextItem_chars_later j _)
        (readValue_chars j hd.1 (by omega) (stops_close (by decide) items rest))
        (readItems_chars_later items hd.2 (by omega) rest)

theorem readFields_chars_first : (fields : List (String × Json)) → {fuel depth : Nat} →
    depthFields fields ≤ depth → 2 * (fieldChars fields).length + 1 ≤ fuel →
    (rest : List Char) →
    (readFields fuel depth true (fieldChars fields ++ '}' :: rest)).toOption =
      (echoFields? fields).map (·, rest)
  | [], fuel + 1, depth, _, _, rest => by
      rw [readFields]
      rfl
  | (key, j) :: fields, fuel + 1, depth, hd, hf, rest => by
      have hd := Nat.max_le.1 hd
      have hlt : (chars j).length < (fieldText (key, j)).length := fieldText_length (key, j)
      rw [fieldChars_cons, List.length_append] at hf
      rw [fieldChars_cons, List.append_assoc]
      exact readFields_field (nextKey_fieldText_first (key, j) _)
        (readValue_chars j hd.1 (by omega) (stops_closeFields (by decide) fields rest))
        (readFields_chars_later fields hd.2 (by omega) rest)

theorem readFields_chars_later : (fields : List (String × Json)) → {fuel depth : Nat} →
    depthFields fields ≤ depth → 2 * (laterFields fields).length + 1 ≤ fuel →
    (rest : List Char) →
    (readFields fuel depth false (laterFields fields ++ '}' :: rest)).toOption =
      (echoFields? fields).map (·, rest)
  | [], fuel + 1, depth, _, _, rest => by
      rw [readFields]
      rfl
  | (key, j) :: fields, fuel + 1, depth, hd, hf, rest => by
      have hd := Nat.max_le.1 hd
      have hlt : (chars j).length < (fieldText (key, j)).length := fieldText_length (key, j)
      rw [laterFields_cons, List.length_cons, List.length_append] at hf
      rw [laterFields_cons, List.cons_append, List.append_assoc]
      exact readFields_field (nextKey_fieldText_later (key, j) _)
        (readValue_chars j hd.1 (by omega) (stops_closeFields (by decide) fields rest))
        (readFields_chars_later fields hd.2 (by omega) rest)

end

mutual

/-- A value is its own echo exactly when its numbers are legible. -/
theorem echo?_eq_self_iff : (j : Json) → (echo? j = some j ↔ ∀ n ∈ numbers j, Legible n)
  | .null | .bool _ | .str _ => by simp [echo?, numbers]
  | .num n => by simp [echo?, numbers, Legible, toOption_eq_some_iff]
  | .arr items => by simp [echo?, numbers, echoItems?_eq_self_iff items]
  | .obj fields => by simp [echo?, numbers, echoFields?_eq_self_iff fields]

theorem echoItems?_eq_self_iff : (items : List Json) →
    (echoItems? items = some items ↔ ∀ n ∈ itemNumbers items, Legible n)
  | [] => by simp [echoItems?, itemNumbers]
  | j :: items => by
      rw [itemNumbers, List.forall_mem_append, ← echo?_eq_self_iff j,
        ← echoItems?_eq_self_iff items]
      simp [echoItems?, Option.bind_eq_some_iff]

theorem echoFields?_eq_self_iff : (fields : List (String × Json)) →
    (echoFields? fields = some fields ↔ ∀ n ∈ fieldNumbers fields, Legible n)
  | [] => by simp [echoFields?, fieldNumbers]
  | (key, j) :: fields => by
      rw [fieldNumbers, List.forall_mem_append, ← echo?_eq_self_iff j,
        ← echoFields?_eq_self_iff fields]
      simp [echoFields?, Option.bind_eq_some_iff]

end

theorem keys_echoFields? : {fields fields' : List (String × Json)} →
    echoFields? fields = some fields' → fields'.map (·.1) = fields.map (·.1)
  | [], _, h => by
      cases h
      rfl
  | (key, j) :: fields, fields', h => by
      obtain ⟨k, _, h⟩ := Option.bind_eq_some_iff.1 h
      obtain ⟨rest, hr, rfl⟩ := Option.map_eq_some_iff.1 h
      rw [List.map_cons, List.map_cons, keys_echoFields? hr]

mutual

theorem echo?_sorted : {j k : Json} → j.Sorted → echo? j = some k → k.Sorted
  | .null, _, hs, h | .bool _, _, hs, h | .str _, _, hs, h => by
      cases h
      exact hs
  | .num n, k, _, h => sorted_of_ofChars (toOption_eq_some_iff.1 h)
  | .arr items, k, hs, h => by
      obtain ⟨items', hi, rfl⟩ := Option.map_eq_some_iff.1 h
      exact echoItems?_sorted hs hi
  | .obj fields, k, hs, h => by
      obtain ⟨fields', hf, rfl⟩ := Option.map_eq_some_iff.1 h
      refine ⟨?_, echoFields?_sorted hs.2 hf⟩
      have ha := hs.1
      unfold Entries.Ascending at ha ⊢
      rw [← List.pairwise_map (f := Prod.fst) (R := (· < ·))] at ha ⊢
      rwa [keys_echoFields? hf]

theorem echoItems?_sorted : {items items' : List Json} → SortedItems items →
    echoItems? items = some items' → SortedItems items'
  | [], _, hs, h => by
      cases h
      exact hs
  | j :: items, items', hs, h => by
      obtain ⟨k, hj, h⟩ := Option.bind_eq_some_iff.1 h
      obtain ⟨rest, hr, rfl⟩ := Option.map_eq_some_iff.1 h
      exact ⟨echo?_sorted hs.1 hj, echoItems?_sorted hs.2 hr⟩

theorem echoFields?_sorted : {fields fields' : List (String × Json)} → SortedFields fields →
    echoFields? fields = some fields' → SortedFields fields'
  | [], _, hs, h => by
      cases h
      exact hs
  | (key, j) :: fields, fields', hs, h => by
      obtain ⟨k, hj, h⟩ := Option.bind_eq_some_iff.1 h
      obtain ⟨rest, hr, rfl⟩ := Option.map_eq_some_iff.1 h
      exact ⟨echo?_sorted hs.1 hj, echoFields?_sorted hs.2 hr⟩

end

theorem ofChars_chars {j : Json} (hd : j.depth ≤ maxDepth) :
    (ofChars (chars j)).toOption = (echo? j).map sort := by
  have hf : 2 * (chars j).length ≤ fuelFor (chars j) := by
    unfold fuelFor
    omega
  have hr := readValue_chars j hd hf stops_nil
  rw [List.append_nil] at hr
  unfold ofChars
  rcases error_or_ok_of_toOption hr with ⟨fault, hx, he⟩ | ⟨k, hx, he⟩
  · rw [hx, he]
    rfl
  · rw [hx, he]
    rfl

/-- A value in order is read back from its compact text exactly when it is not nested too deep and
its numbers are legible. -/
theorem ofChars_chars_iff {j : Json} (hs : j.Sorted) :
    ofChars (chars j) = .ok j ↔ j.depth ≤ maxDepth ∧ ∀ n ∈ numbers j, Legible n := by
  rw [← echo?_eq_self_iff]
  constructor
  · intro h
    have hd := depth_le_of_ofChars h
    have he := ofChars_chars hd
    rw [h] at he
    obtain ⟨k, hk, hj⟩ := Option.map_eq_some_iff.1 he.symm
    rw [sort_of_sorted (echo?_sorted hs hk)] at hj
    exact ⟨hd, hj ▸ hk⟩
  · rintro ⟨hd, he⟩
    rw [← toOption_eq_some_iff, ofChars_chars hd, he, Option.map_some, sort_of_sorted hs]

/-- The text of a value cannot be cut short, other than inside a number, and still be JSON. -/
theorem ofChars_ne_of_chars_eq_append {j : Json} (hd : j.depth ≤ maxDepth) {cs more : List Char}
    (h : chars j = cs ++ more) (hm : Stops more) (hne : more ≠ []) (k : Json) :
    ofChars cs ≠ .ok k := by
  intro hk
  obtain ⟨k', rest, hr, _, _⟩ := ofChars_eq_ok_iff.1 hk
  have hf : fuelFor cs ≤ fuelFor (chars j) := by
    rw [h]
    unfold fuelFor
    rw [List.length_append]
    omega
  -- Read in front of the rest, the part would leave the rest; but the text is read to its end.
  have ha := readValue_append hf hr hm
  rw [← h] at ha
  have hl : 2 * (chars j).length ≤ fuelFor (chars j) := by
    unfold fuelFor
    omega
  have he := readValue_chars j hd hl stops_nil
  rw [List.append_nil, ha] at he
  obtain ⟨j', _, hj⟩ := Option.map_eq_some_iff.1 he.symm
  have hrest : [] = rest ++ more := (Prod.mk.inj hj).2
  exact hne (List.append_eq_nil_iff.1 hrest.symm).2

end Dialogue.Json
