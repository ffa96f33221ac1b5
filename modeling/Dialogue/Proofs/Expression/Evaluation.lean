import Dialogue.Proofs.Expression.Grammar
import Dialogue.Proofs.Number.Text

/-!
# The values of expressions

A path is followed one segment after the other, and what is not there is null, from which nothing
can be followed. So following two paths one behind the other is following the joined path, from any
value, and from the input or from a variable as well.

The value of an expression depends on the values of the paths in it and on nothing else. In a
projection each value that is kept is the one that the path over its index leads to: an object that
has the property as written is asked for it as written, however else its other keys are spelled.
-/
namespace Dialogue

theorem Fields.lookup_singleton {name key : String}
    (h : Text.sameIgnoringAsciiCase name key = true) (j : Json) :
    Fields.lookup [(name, j)] key = some j := by
  rw [lookup, Entries.get?]
  by_cases hkey : name = key
  · rw [if_pos hkey]
  · rw [if_neg hkey, Entries.get?]
    simp [h]

namespace Json

theorem follow_null (segments : List String) : Json.null.follow segments = .null := by
  cases segments <;> rfl

theorem follow_cons (j : Json) (segment : String) (rest : List String) :
    j.follow (segment :: rest) = ((j.child? segment).getD .null).follow rest := by
  rw [follow]
  cases j.child? segment with
  | none => exact (follow_null rest).symm
  | some next => rfl

theorem follow_append (j : Json) (segments rest : List String) :
    j.follow (segments ++ rest) = (j.follow segments).follow rest := by
  induction segments generalizing j with
  | nil => rfl
  | cons segment segments ih => rw [List.cons_append, follow_cons, follow_cons, ih]

end Json

namespace Expr

variable {ctx : Context}

theorem resolve_input (ctx : Context) (segments : List String) :
    resolve ctx .input segments = (Json.obj ctx.input).follow segments := by
  cases segments with
  | nil => rfl
  | cons name rest =>
      rw [resolve, Json.follow_cons, Json.child?]
      cases Fields.lookup ctx.input name with
      | none => exact (Json.follow_null rest).symm
      | some j => rfl

theorem resolve_variable (ctx : Context) (name : String) (rest : List String) :
    resolve ctx .vars (name :: rest) = ((ctx.vars.get? name).getD .null).follow rest := by
  rw [resolve]
  cases ctx.vars.get? name with
  | none => exact (Json.follow_null rest).symm
  | some j => rfl

/-- A path leads where its second part leads from the end of the first, which has to name a variable
if the path begins at the variables. -/
theorem resolve_append {root : Root} {first : List String} (h : root = .vars → first ≠ [])
    (rest : List String) :
    resolve ctx root (first ++ rest) = (resolve ctx root first).follow rest := by
  cases root with
  | input => rw [resolve_input, resolve_input, Json.follow_append]
  | vars =>
      obtain ⟨name, first, rfl⟩ := List.exists_cons_of_ne_nil (h rfl)
      rw [List.cons_append, resolve_variable, resolve_variable, Json.follow_append]

def paths : Expr → List (Root × List String)
  | path root segments => [(root, segments)]
  | len inner => inner.paths
  | map source _ => source.paths
  | literal _ => []

theorem evaluate_of_paths {ctx' : Context} {e : Expr}
    (h : ∀ p ∈ e.paths, resolve ctx' p.1 p.2 = resolve ctx p.1 p.2) :
    e.evaluate ctx' = e.evaluate ctx := by
  induction e with
  | path root segments => exact h (root, segments) List.mem_cons_self
  | len inner ih => rw [evaluate, evaluate, ih h]
  | map source property ih => rw [evaluate, evaluate, ih h]
  | literal text => rfl

/-- What a path leads to does not depend on variables of these names: it begins at the input, or
with the name of another variable. -/
def PathAvoids (names : List String) : Root × List String → Prop
  | (.input, _) => True
  | (.vars, []) => False
  | (.vars, first :: _) => Text.lowercase first ∉ names.map Text.lowercase

instance (names : List String) (p : Root × List String) : Decidable (PathAvoids names p) :=
  match p with
  | (.input, _) => isTrue trivial
  | (.vars, []) => isFalse id
  | (.vars, first :: _) =>
      inferInstanceAs (Decidable (Text.lowercase first ∉ names.map Text.lowercase))

/-- No path in the expression depends on variables of these names. -/
def Avoids (e : Expr) (names : List String) : Prop := ∀ p ∈ e.paths, PathAvoids names p

instance (e : Expr) (names : List String) : Decidable (e.Avoids names) :=
  inferInstanceAs (Decidable (∀ p ∈ e.paths, PathAvoids names p))

/-- Contexts with one input that differ in variables of these names only agree on an expression that
avoids them. -/
theorem evaluate_of_avoids {ctx' : Context} {e : Expr} {names : List String} (h : e.Avoids names)
    (hinput : ctx'.input = ctx.input)
    (hvars : ∀ name, Text.lowercase name ∉ names.map Text.lowercase →
      ctx'.vars.get? name = ctx.vars.get? name) :
    e.evaluate ctx' = e.evaluate ctx := by
  refine evaluate_of_paths ?_
  rintro ⟨root, segments⟩ hp
  have havoids := h _ hp
  cases root with
  | input => rw [resolve_input, resolve_input, hinput]
  | vars =>
      cases segments with
      | nil => exact havoids.elim
      | cons name rest => rw [resolve_variable, resolve_variable, hvars name havoids]

end Expr

theorem filterMap_eq_filterMap_range {α β : Type} (f : α → Option β) (xs : List α) :
    xs.filterMap f = (List.range xs.length).filterMap fun i => xs[i]?.bind f := by
  have hxs : (List.range xs.length).map (fun i => xs[i]?) = xs.map some := by
    apply List.ext_getElem <;> simp
  calc xs.filterMap f
      = (xs.map some).filterMap fun x => x.bind f := by
        rw [List.filterMap_map]
        rfl
    _ = (List.range xs.length).filterMap fun i => xs[i]?.bind f := by
        rw [← hxs, List.filterMap_map]
        rfl

theorem isSegment_index (i : Nat) : IsSegment (toString i) := by
  have hdigits : (toString i).toList = Nat.toDigits 10 i := Nat.toList_repr
  rw [IsSegment, hdigits]
  exact ⟨Nat.toDigits_ne_nil, fun c hc => isSegmentChar_of_isDigit (isDigit_toDigits i c hc)⟩

namespace Json

theorem index?_toString (i : Nat) : index? (toString i) = some i := by
  have hdigits : (toString i).toList = Nat.toDigits 10 i := Nat.toList_repr
  have hall : (Nat.toDigits 10 i).all Char.isDigit = true :=
    List.all_eq_true.2 (isDigit_toDigits i)
  rw [index?, hdigits, hall, Numeral.digitsValue_toDigits]
  simp [Nat.toDigits_ne_nil]

theorem child?_index (items : List Json) (i : Nat) :
    (Json.arr items).child? (toString i) = items[i]? := by
  rw [child?, index?_toString]
  rfl

def hasField (key : String) : Json → Bool
  | .obj fields => Entries.contains key fields
  | _ => false

/-- The indices of the objects in a list that have the key as written. -/
def holders (key : String) (items : List Json) : List Nat :=
  (List.range items.length).filter fun i => items[i]?.any (hasField key)

theorem bind_get?_asFields? (key : String) (item : Json) :
    item.asFields?.bind (Entries.get? key) =
      if item.hasField key then some (item.follow [key]) else none := by
  cases item with
  | obj fields =>
      rw [hasField, Entries.contains, follow_cons, child?, Fields.lookup]
      change Entries.get? key fields = _
      cases Entries.get? key fields <;> rfl
  | _ => rfl

theorem project_arr (key : String) (items : List Json) :
    (Json.arr items).project key =
      (holders key items).map fun i => (Json.arr items).follow [toString i, key] := by
  rw [project, filterMap_eq_filterMap_range, holders, ← List.filterMap_eq_map,
    List.filterMap_filter]
  refine List.filterMap_congr fun i _ => ?_
  rw [Function.comp_apply, follow_cons, child?_index]
  cases items[i]? with
  | none => rfl
  | some item => exact bind_get?_asFields? key item

theorem project_of_no_list {j : Json} (h : ∀ items, j ≠ .arr items) (key : String) :
    j.project key = [] := by
  cases j with
  | arr items => exact absurd rfl (h items)
  | _ => rfl

/-- The value is the whole number of so many things. -/
def Counts (j : Json) (n : Nat) : Prop := ∃ w : Whole, w.value = n ∧ j = .num (.whole w)

theorem counts_ofLength {n : Nat} (h : n < 18446744073709551616) :
    (Json.num (.whole (.ofLength n))).Counts n := by
  refine ⟨_, ?_, rfl⟩
  rw [Whole.ofLength, dif_pos h]

end Json

namespace Expr

variable {ctx : Context} {root : Root} {segments : List String} {property : String}

theorem isProper_map (hs : ∀ s ∈ segments, IsSegment s) (hp : IsSegment property) :
    (map (path root segments) property).IsProper := by
  refine ⟨hs, .inl fun hquote => ?_⟩
  exact absurd (hp.2 '\'' hquote) (by decide)

/-- The path to a property of an item leads through the list. -/
theorem evaluate_item (hs : ∀ s ∈ segments, IsSegment s) (hp : IsSegment property)
    {items : List Json} (h : resolve ctx root segments = .arr items) (i : Nat) :
    ctx.evaluate (path root (segments ++ [toString i, property])).text =
      (Json.arr items).follow [toString i, property] := by
  have hitem : ∀ s ∈ segments ++ [toString i, property], IsSegment s := by
    intro s hm
    rcases List.mem_append.1 hm with hm | hm
    · exact hs s hm
    · rcases List.mem_pair.1 hm with rfl | rfl
      · exact isSegment_index i
      · exact hp
  -- All variables together are no list, so that the path names one if it begins there.
  have hroot : root = .vars → segments ≠ [] := by
    rintro rfl rfl
    cases h
  rw [evaluate_text (e := path root _) hitem, evaluate, resolve_append hroot, h]

/-- The projection of a list is what the paths over the indices lead to, at those indices where an
object has the property as written; lengths count the items, of which a list has fewer than
`2 ^ 64`, and these indices. The projection of anything else is empty. -/
theorem evaluate_map_by_indices (hs : ∀ s ∈ segments, IsSegment s) (hp : IsSegment property)
    (ctx : Context) :
    let p := path root segments
    (∀ items, ctx.evaluate p.text = .arr items →
      ctx.evaluate (map p property).text =
        .arr ((Json.holders property items).map fun i =>
          ctx.evaluate (path root (segments ++ [toString i, property])).text) ∧
      (items.length < 18446744073709551616 →
        (ctx.evaluate (len p).text).Counts items.length ∧
        (ctx.evaluate (len (map p property)).text).Counts
          (Json.holders property items).length)) ∧
    ((∀ items, ctx.evaluate p.text ≠ .arr items) →
      ctx.evaluate (map p property).text = .arr []) := by
  intro p
  have hpath : ctx.evaluate p.text = resolve ctx root segments := evaluate_text (e := p) hs ctx
  have hmap : ctx.evaluate (map p property).text =
      .arr ((resolve ctx root segments).project property) :=
    evaluate_text (isProper_map hs hp) ctx
  have hlen (e : Expr) (he : e.IsProper) : ctx.evaluate (len e).text =
      .num (.whole (.ofLength (ctx.evaluate e.text).length)) := by
    rw [evaluate_text (e := len e) he, evaluate_text he, evaluate]
  rw [hpath, hmap]
  refine ⟨?_, ?_⟩
  · intro items hitems
    have hproject := Json.project_arr property items
    rw [hitems, hproject]
    refine ⟨?_, ?_⟩
    · simp only [evaluate_item hs hp hitems]
    · intro hsize
      have hheld : (Json.holders property items).length ≤ items.length := by
        refine (List.length_filter_le _ _).trans ?_
        rw [List.length_range]
      rw [hlen p hs, hlen _ (isProper_map hs hp), hpath, hmap, hitems, hproject, Json.length,
        Json.length, List.length_map]
      exact ⟨Json.counts_ofLength hsize, Json.counts_ofLength (hheld.trans_lt hsize)⟩
  · intro hno
    rw [Json.project_of_no_list hno]

/-- A list of an object without the key in its own case, one with it beside another case, a text, a
list, and one in which it holds null. -/
def mixedRows : List Json :=
  [.obj [("K", .bool true)], .obj [("K", .bool true), ("k", .bool false)], .str "k",
    .arr [.obj [("k", .bool true)]], .obj [("k", .null)]]

/-- The first object is left out, though a path finds something in it; what is no list projects to
nothing. -/
theorem evaluate_map_mixedRows :
    let ctx : Context := { input := [("rows", .arr mixedRows)] }
    let rows := path .input ["rows"]
    let first := path .input ["rows", "0"]
    ctx.evaluate rows.text = .arr mixedRows ∧ (∀ items, ctx.evaluate first.text ≠ .arr items) ∧
      ctx.evaluate (path .input (["rows"] ++ [toString 0, "k"])).text = .bool true ∧
      (map rows "k").text = "$map($input.rows, 'k')" ∧
      ctx.evaluate (map rows "k").text = .arr [.bool false, .null] ∧
      (ctx.evaluate (len rows).text).Counts 5 ∧
      (ctx.evaluate (len (map rows "k")).text).Counts 2 ∧
      ctx.evaluate (map first "k").text = .arr [] := by
  intro ctx rows first
  have hrows : ∀ s ∈ ["rows"], IsSegment s := by decide
  have hk : IsSegment "k" := by decide
  have hlist : ctx.evaluate rows.text = .arr mixedRows := by decide +kernel
  have hobject : ctx.evaluate first.text = .obj [("K", .bool true)] := by decide +kernel
  have hother : ∀ items, ctx.evaluate first.text ≠ .arr items := by
    rw [hobject]
    exact nofun
  -- The first item is found by its key in another case.
  have hfound : ctx.evaluate (path .input (["rows"] ++ [toString 0, "k"])).text = .bool true := by
    have hcase : Text.sameIgnoringAsciiCase "K" "k" = true :=
      Text.sameIgnoringAsciiCase_iff.2 (by decide)
    have hlookup := Fields.lookup_singleton hcase (.bool true)
    have hvalue : resolve ctx .input ["rows"] = .arr mixedRows := rfl
    rw [evaluate_item hrows hk hvalue, Json.follow_cons, Json.child?_index]
    change (Json.obj [("K", .bool true)]).follow ["k"] = .bool true
    rw [Json.follow_cons, Json.child?, hlookup]
    rfl
  have hheld : Json.holders "k" mixedRows = [1, 4] := by decide +kernel
  have hone : ctx.evaluate (path .input (["rows"] ++ [toString 1, "k"])).text = .bool false := by
    decide +kernel
  have hfour : ctx.evaluate (path .input (["rows"] ++ [toString 4, "k"])).text = .null := by
    decide +kernel
  obtain ⟨hindexed, -⟩ := @evaluate_map_by_indices .input ["rows"] "k" hrows hk ctx
  obtain ⟨-, hempty⟩ := @evaluate_map_by_indices .input ["rows", "0"] "k" (by decide) hk ctx
  obtain ⟨hmap, hcount⟩ := hindexed mixedRows hlist
  obtain ⟨hlen, hlenMap⟩ := hcount (by decide)
  rw [hheld] at hmap hlenMap
  rw [List.map_cons, List.map_singleton, hone, hfour] at hmap
  exact ⟨hlist, hother, hfound, by decide +kernel, hmap, hlen, hlenMap, hempty hother⟩

end Expr

end Dialogue
