import Dialogue.Proofs.Expression.Evaluation
import Dialogue.Proofs.Run.Bindings

/-!
# Binding many names at once

An extraction evaluates all of its expressions before it binds a name, so that each name is bound to
a value of the context that the step was begun in. Of outputs that are one name in lower case the
last is kept, which is the greatest in the order of bytes; all other names are left as they were.

So two extractions can be done in either order if neither binds a name that the other binds or
reads. And a path may be cut at any place by binding its first part to a name: the rest is then
followed from that name to the value that the whole path had.
-/
namespace Dialogue

variable {σ : Type} {c : Collaborators σ}

namespace Variables

variable {vars vars' : Variables}

theorem binding?_foldl_set (sets : List (String × Json)) (vars : Variables) (name : String) :
    (sets.foldl (fun vars s => vars.set s.1 s.2) vars).binding? name =
      ((lastUnder? (Text.lowercase name) sets).map fun s => ⟨s.1, s.2⟩).or
        (vars.binding? name) := by
  induction sets using List.reverseRecOn with
  | nil => rfl
  | append_singleton sets s ih =>
      rw [List.foldl_concat, binding?_set, ih, lastUnder?, lastUnder?, List.reverse_concat,
        List.find?_cons]
      by_cases h : Text.lowercase name = Text.lowercase s.1
      · rw [if_pos h, beq_iff_eq.2 h.symm]
        rfl
      · rw [if_neg h, beq_eq_false_iff_ne.2 (Ne.symm h)]

theorem mem_snapshot_iff_of_same {s : String × Json} {name : String}
    (h : Text.lowercase s.1 = Text.lowercase name) :
    s ∈ vars.snapshot ↔ vars.binding? name = some ⟨s.1, s.2⟩ := by
  rw [mem_snapshot_iff_binding?, binding?, binding?, h]

theorem mem_snapshot_iff_of_binding? {s : String × Json} {name : String} {b : Binding}
    (h : Text.lowercase s.1 = Text.lowercase name) (hb : vars.binding? name = some b) :
    s ∈ vars.snapshot ↔ s = (b.name, b.value) := by
  rw [mem_snapshot_iff_of_same h, hb, Option.some_inj]
  constructor
  · rintro rfl
    rfl
  · rintro rfl
    rfl

theorem eq_of_binding? (h : ∀ name, vars.binding? name = vars'.binding? name) : vars = vars' := by
  have hsub {vars vars' : Variables} (h : ∀ name, vars.binding? name = vars'.binding? name)
      {b : String × Binding} (hb : b ∈ vars.bindings) : b ∈ vars'.bindings := by
    have hkey := vars.folded b hb
    have hheld : vars.binding? b.2.name = some b.2 := by
      rw [binding?, ← hkey]
      exact (Entries.get?_eq_some_iff vars.ascending).2 hb
    rw [h, binding?, ← hkey] at hheld
    exact Entries.mem_of_get? hheld
  exact eq_of_bindings (Entries.eq_of_mem_iff vars.ascending vars'.ascending fun b =>
    ⟨hsub h, hsub fun name => (h name).symm⟩)

end Variables

/-- Of the outputs that bind a name in any case, this is the one whose own name is the greatest in
the order of bytes. -/
structure Prevails (output : Entries String) (name : String) (e : String × String) : Prop where
  mem : e ∈ output
  same : Text.lowercase e.1 = Text.lowercase name
  greatest : ∀ f ∈ output, Text.lowercase f.1 = Text.lowercase name → f ≠ e →
    Text.bytes f.1 < Text.bytes e.1

/-- The last output that binds a name in any case. -/
def lastOutput? (output : Entries String) (name : String) : Option (String × String) :=
  output.reverse.find? fun e => Text.lowercase e.1 == Text.lowercase name

variable {output : Entries String} {name : String} {e : String × String}

theorem prevails_iff (h : Entries.Ascending output) :
    Prevails output name e ↔ lastOutput? output name = some e := by
  rw [lastOutput?, Entries.find?_reverse_eq_some_iff h]
  simp only [beq_iff_eq]
  constructor
  · rintro ⟨hm, hs, hg⟩
    exact ⟨hm, hs, fun f hf hsame hne => Text.bytes_lt_iff.1 (hg f hf hsame hne)⟩
  · rintro ⟨hm, hs, hg⟩
    exact ⟨hm, hs, fun f hf hsame hne => Text.bytes_lt_iff.2 (hg f hf hsame hne)⟩

theorem of_lastOutput? (h : lastOutput? output name = some e) :
    e ∈ output ∧ Text.lowercase e.1 = Text.lowercase name := by
  have hsame := List.find?_some h
  exact ⟨List.mem_reverse.1 (List.mem_of_find?_eq_some h), beq_iff_eq.1 hsame⟩

theorem lastOutput?_eq_none_iff :
    lastOutput? output name = none ↔ ∀ e ∈ output, Text.lowercase e.1 ≠ Text.lowercase name := by
  simp only [lastOutput?, List.find?_eq_none, List.mem_reverse, beq_iff_eq, ne_eq]

namespace Context

theorem extract_vars (ctx : Context) (output : Entries String) :
    (ctx.extract output).vars =
      (output.map fun e => (e.1, ctx.evaluate e.2)).foldl (fun vars s => vars.set s.1 s.2)
        ctx.vars :=
  (List.foldl_hom Context.vars fun _ _ => rfl).symm

/-- A name is bound by the last of its outputs, to a value of the context before. -/
theorem binding?_extract (ctx : Context) (output : Entries String) (name : String) :
    (ctx.extract output).vars.binding? name =
      ((lastOutput? output name).map fun e => ⟨e.1, ctx.evaluate e.2⟩).or
        (ctx.vars.binding? name) := by
  rw [extract_vars, Variables.binding?_foldl_set, Variables.lastUnder?, ← List.map_reverse,
    List.find?_map, Option.map_map]
  rfl

theorem binding?_extract_of_prevails (ctx : Context) (h : Entries.Ascending output)
    (he : Prevails output name e) :
    (ctx.extract output).vars.binding? name = some ⟨e.1, ctx.evaluate e.2⟩ := by
  rw [binding?_extract, (prevails_iff h).1 he]
  rfl

theorem get?_extract_of_prevails (ctx : Context) (h : Entries.Ascending output)
    (he : Prevails output name e) :
    (ctx.extract output).vars.get? name = some (ctx.evaluate e.2) :=
  congrArg (Option.map Binding.value) (ctx.binding?_extract_of_prevails h he)

end Context

theorem Prevails.alone (h : Prevails output name e) : Prevails [e] name e :=
  ⟨List.mem_singleton_self e, h.same, fun _ hf _ hne => absurd (List.mem_singleton.1 hf) hne⟩

/-- An extraction binds all of its names at once. A name that some output binds, in any case, gets
the value which the greatest of these outputs has in the context before, as if there was no other
output, and is shown in its spelling. Under all other names there is what there was, in the spelling
that it had. Nothing but the variables changes. -/
theorem Step.dispatch_extract_at_once (h : Entries.Ascending output) (c : Collaborators σ)
    (ctx : Context) (world : σ) :
    ∃ after, (extract output).dispatch c ctx world = ⟨.ok .onward, after, world⟩ ∧
      (∀ name, (∃ e ∈ output, Text.lowercase e.1 = Text.lowercase name) →
        ∃ e, Prevails output name e ∧ after.vars.get? name = some (ctx.evaluate e.2) ∧
          after.vars.get? name = (ctx.extract [e]).vars.get? name ∧
          ∀ s, Text.lowercase s.1 = Text.lowercase name →
            (s ∈ after.vars.snapshot ↔ s = (e.1, ctx.evaluate e.2))) ∧
      (∀ name, (∀ e ∈ output, Text.lowercase e.1 ≠ Text.lowercase name) →
        after.vars.get? name = ctx.vars.get? name ∧
          ∀ s, Text.lowercase s.1 = Text.lowercase name →
            (s ∈ after.vars.snapshot ↔ s ∈ ctx.vars.snapshot)) ∧
      after.input = ctx.input ∧ after.log = ctx.log ∧ after.finalText = ctx.finalText := by
  have hframe := ctx.extract_eq output
  refine ⟨ctx.extract output, rfl, ?_, ?_, by rw [hframe], by rw [hframe], by rw [hframe]⟩
  · intro name hsome
    obtain ⟨e, he⟩ : ∃ e, lastOutput? output name = some e := by
      rw [← Option.isSome_iff_exists, ← Option.ne_none_iff_isSome, Ne, lastOutput?_eq_none_iff]
      obtain ⟨e, he, hsame⟩ := hsome
      exact fun hno => hno e he hsame
    have hprevails := (prevails_iff h).2 he
    have hvalue := ctx.get?_extract_of_prevails h hprevails
    have halone := ctx.get?_extract_of_prevails (List.pairwise_singleton _ _) hprevails.alone
    have hbinding := ctx.binding?_extract_of_prevails h hprevails
    exact ⟨e, hprevails, hvalue, hvalue.trans halone.symm,
      fun s hs => Variables.mem_snapshot_iff_of_binding? hs hbinding⟩
  · intro name hnone
    have hsame : (ctx.extract output).vars.binding? name = ctx.vars.binding? name := by
      rw [Context.binding?_extract, lastOutput?_eq_none_iff.2 hnone]
      rfl
    refine ⟨congrArg (Option.map Binding.value) hsame, ?_⟩
    intro s hs
    rw [Variables.mem_snapshot_iff_of_same hs, Variables.mem_snapshot_iff_of_same hs, hsame]

/-- Two names change places, while one of them is bound under another spelling too. -/
def exchange : Entries String := [("X", "lost"), ("Y", "$vars.X"), ("x", "$vars.y")]

/-- Each gets what the other had; the spelling that is greater in the order of bytes is kept. -/
theorem Step.dispatch_exchange :
    let ctx : Context :=
      { vars := .ofFields [("Keep", .null), ("x", .bool true), ("y", .bool false)] }
    Entries.Ascending exchange ∧
      ∃ after, (extract exchange).dispatch Script.oneTool ctx 0 = ⟨.ok .onward, after, 0⟩ ∧
        after.vars.get? "X" = some (.bool false) ∧ after.vars.get? "y" = some (.bool true) ∧
        ("x", .bool false) ∈ after.vars.snapshot ∧ ("Y", .bool true) ∈ after.vars.snapshot ∧
        ("Keep", .null) ∈ after.vars.snapshot := by
  intro ctx
  have hascending : Entries.Ascending exchange := Entries.ascending_of_keys (by decide)
  obtain ⟨after, hdone, hbound, hothers, -⟩ :=
    dispatch_extract_at_once hascending Script.oneTool ctx 0
  have hprevails {name : String} {e : String × String} (he : lastOutput? exchange name = some e)
      {f : String × String} (hf : Prevails exchange name f) : f = e :=
    Option.some.inj (((prevails_iff hascending).1 hf).symm.trans he)
  obtain ⟨e, he, hx, -, hshownX⟩ := hbound "X" ⟨("X", "lost"), by decide, rfl⟩
  obtain rfl : e = ("x", "$vars.y") := hprevails (by decide +kernel) he
  obtain ⟨e, he, hy, -, hshownY⟩ := hbound "y" ⟨("Y", "$vars.X"), by decide, by decide +kernel⟩
  obtain rfl : e = ("Y", "$vars.X") := hprevails (by decide +kernel) he
  obtain ⟨-, hkept⟩ := hothers "Keep" (by decide +kernel)
  have holdX : ctx.evaluate "$vars.y" = .bool false := by decide +kernel
  have holdY : ctx.evaluate "$vars.X" = .bool true := by decide +kernel
  rw [holdX] at hx hshownX
  rw [holdY] at hy hshownY
  refine ⟨hascending, after, hdone, hx, hy, ?_, ?_, ?_⟩
  · exact (hshownX ("x", .bool false) (by decide +kernel)).2 rfl
  · exact (hshownY ("Y", .bool true) (by decide +kernel)).2 rfl
  · exact (hkept ("Keep", .null) rfl).2 (by decide +kernel)

/-- Neither extraction binds a name, in any case, that the other one binds or reads, and neither
reads all variables at once. -/
structure Independent (a b : Entries String) : Prop where
  apart : ∀ e ∈ a, ∀ f ∈ b, Text.lowercase e.1 ≠ Text.lowercase f.1
  left : ∀ e ∈ a, (Expr.ofText e.2).Avoids (b.map Prod.fst)
  right : ∀ f ∈ b, (Expr.ofText f.2).Avoids (a.map Prod.fst)

namespace Independent
variable {a b : Entries String}

instance (a b : Entries String) : Decidable (Independent a b) :=
  decidable_of_iff
    ((∀ e ∈ a, ∀ f ∈ b, Text.lowercase e.1 ≠ Text.lowercase f.1) ∧
      (∀ e ∈ a, (Expr.ofText e.2).Avoids (b.map Prod.fst)) ∧
      ∀ f ∈ b, (Expr.ofText f.2).Avoids (a.map Prod.fst))
    ⟨fun ⟨hapart, hleft, hright⟩ => ⟨hapart, hleft, hright⟩,
      fun h => ⟨h.apart, h.left, h.right⟩⟩

theorem symm (h : Independent a b) : Independent b a :=
  ⟨fun e he f hf => (h.apart f hf e he).symm, h.right, h.left⟩

end Independent

namespace Context
variable {a b : Entries String}

theorem evaluate_extract_of_avoids {source : String}
    (h : (Expr.ofText source).Avoids (output.map Prod.fst)) (ctx : Context) :
    (ctx.extract output).evaluate source = ctx.evaluate source := by
  refine Expr.evaluate_of_avoids h ?_ ?_
  · rw [ctx.extract_eq output]
  · intro name hname
    exact congrArg (Option.map Binding.value) ((ctx.extract_rebinds output).untouched hname)

/-- Done after an extraction that it is independent of, an extraction binds the values of the
context before both. -/
theorem binding?_extract_extract (h : Independent a b) (ctx : Context) (name : String) :
    ((ctx.extract a).extract b).vars.binding? name =
      ((lastOutput? b name).map fun f => ⟨f.1, ctx.evaluate f.2⟩).or
        ((ctx.extract a).vars.binding? name) := by
  rw [binding?_extract]
  cases hlast : lastOutput? b name with
  | none => rfl
  | some f =>
      have hsource := h.right f (of_lastOutput? hlast).1
      rw [Option.map_some, Option.map_some, evaluate_extract_of_avoids hsource]

theorem extract_comm (h : Independent a b) (ctx : Context) :
    (ctx.extract a).extract b = (ctx.extract b).extract a := by
  have hvars : ((ctx.extract a).extract b).vars = ((ctx.extract b).extract a).vars := by
    refine Variables.eq_of_binding? fun name => ?_
    rw [binding?_extract_extract h, binding?_extract_extract h.symm, binding?_extract,
      binding?_extract]
    -- At most one of the two binds the name.
    cases ha : lastOutput? a name with
    | none => rfl
    | some e =>
        have hb : lastOutput? b name = none := by
          rw [lastOutput?_eq_none_iff]
          obtain ⟨he, hsame⟩ := of_lastOutput? ha
          exact fun f hf hf' => h.apart e he f hf (hsame.trans hf'.symm)
        rw [hb]
        rfl
  rw [(ctx.extract a).extract_eq b, (ctx.extract b).extract_eq a, hvars, ctx.extract_eq a,
    ctx.extract_eq b]

end Context

theorem Machine.walk_extract (output : Entries String) (rest : List Step)
    (frames : List (List Step)) (ctx : Context) (world : σ) (turn : Nat) :
    walk c ⟨(.extract output :: rest) :: frames, ctx, world, turn⟩ =
      if c.stopsAt turn world then ⟨some .cancelled, ctx, world⟩
      else walk c ⟨rest :: frames, ctx.extract output, world, turn + 1⟩ := by
  have hadvance : advance c ⟨(.extract output :: rest) :: frames, ctx, world, turn⟩ =
      if c.stopsAt turn world then .stopped ⟨some .cancelled, ctx, world⟩
      else .running ⟨rest :: frames, ctx.extract output, world, turn + 1⟩ := rfl
  rw [walk, hadvance]
  cases c.stopsAt turn world <;> rfl

/-- Extractions that are independent of each other lead to one context in either order. A walk that
begins with both comes to the same end, unless it is told to stop between them: then it has done the
first. -/
theorem Step.dispatch_extract_comm {a b : Entries String} (h : Independent a b)
    (c : Collaborators σ) (ctx : Context) (world : σ) :
    ∃ afterA afterB after,
      (extract a).dispatch c ctx world = ⟨.ok .onward, afterA, world⟩ ∧
      (extract b).dispatch c afterA world = ⟨.ok .onward, after, world⟩ ∧
      (extract b).dispatch c ctx world = ⟨.ok .onward, afterB, world⟩ ∧
      (extract a).dispatch c afterB world = ⟨.ok .onward, after, world⟩ ∧
      ∀ rest frames turn,
        let one := Machine.walk c ⟨(extract a :: extract b :: rest) :: frames, ctx, world, turn⟩
        let other := Machine.walk c ⟨(extract b :: extract a :: rest) :: frames, ctx, world, turn⟩
        one = other ∨
          (c.stopsAt turn world = false ∧ c.stopsAt (turn + 1) world = true ∧
            one = ⟨some .cancelled, afterA, world⟩ ∧
            other = ⟨some .cancelled, afterB, world⟩) := by
  have hcomm := Context.extract_comm h ctx
  refine ⟨ctx.extract a, ctx.extract b, (ctx.extract a).extract b, rfl, rfl, rfl, ?_, ?_⟩
  · rw [hcomm]
    rfl
  · intro rest frames turn one other
    have hone : one = _ := Machine.walk_extract a (extract b :: rest) frames ctx world turn
    have hother : other = _ := Machine.walk_extract b (extract a :: rest) frames ctx world turn
    rw [hone, hother, Machine.walk_extract, Machine.walk_extract, hcomm]
    cases hfirst : c.stopsAt turn world with
    | true => exact .inl rfl
    | false =>
        cases hsecond : c.stopsAt (turn + 1) world with
        | true => exact .inr ⟨rfl, rfl, rfl, rfl⟩
        | false => exact .inl rfl

/-- Two extractions from one list, which one of them counts and the other one projects. -/
theorem Step.dispatch_counting_and_projecting :
    let a : Entries String := [("Count", "$len($vars.Rows)"), ("who", "$input.who")]
    let b : Entries String := [("Keys", "$map($vars.rows, 'k')"), ("last", "$vars.rows.1")]
    let ctx : Context :=
      { vars := .ofFields [("rows", .arr [.obj [("k", .null)], .bool true])],
        input := [("who", .str "ada")] }
    Independent a b ∧
      ∃ afterA afterB after,
        (extract a).dispatch Script.oneTool ctx 0 = ⟨.ok .onward, afterA, 0⟩ ∧
        (extract b).dispatch Script.oneTool afterA 0 = ⟨.ok .onward, after, 0⟩ ∧
        (extract b).dispatch Script.oneTool ctx 0 = ⟨.ok .onward, afterB, 0⟩ ∧
        (extract a).dispatch Script.oneTool afterB 0 = ⟨.ok .onward, after, 0⟩ ∧
        after.vars.get? "keys" = some (.arr [.null]) ∧ after.vars.get? "WHO" = some (.str "ada") ∧
        Machine.walk Script.oneTool (.start [extract a, extract b] ctx 0) =
          Machine.walk Script.oneTool (.start [extract b, extract a] ctx 0) := by
  intro a b ctx
  have hindependent : Independent a b := by decide +kernel
  obtain ⟨afterA, afterB, after, hA, hAB, hB, hBA, hwalk⟩ :=
    dispatch_extract_comm hindependent Script.oneTool ctx 0
  refine ⟨hindependent, afterA, afterB, after, hA, hAB, hB, hBA, ?_, ?_, ?_⟩
  · cases hA
    cases hAB
    decide +kernel
  · cases hA
    cases hAB
    decide +kernel
  · rcases hwalk [] [] 0 with hsame | ⟨-, htold, -⟩
    · exact hsame
    · cases htold

/-- A path that is cut by binding its first part to a name leads from that name, in any ASCII letter
case, where the whole path led before, whatever else is bound with it. A path into the variables is
not cut in front of the name of a variable. -/
theorem Step.dispatch_extract_cut {root : Root} {first rest : List String}
    (hs : ∀ s ∈ first ++ rest, IsSegment s) (hroot : root = .vars → first ≠ [])
    (hname : IsSegment name) (h : Entries.Ascending output)
    (hcut : Prevails output name (name, (Expr.path root first).text)) (c : Collaborators σ)
    (ctx : Context) (world : σ) :
    ∃ after, (extract output).dispatch c ctx world = ⟨.ok .onward, after, world⟩ ∧
      ∀ written, Text.sameIgnoringAsciiCase written name = true →
        after.evaluate (Expr.path .vars (written :: rest)).text =
          ctx.evaluate (Expr.path root (first ++ rest)).text := by
  refine ⟨ctx.extract output, rfl, fun written hcase => ?_⟩
  have hfirst : ∀ s ∈ first, IsSegment s := fun s hm => hs s (List.mem_append_left rest hm)
  have hwritten : ∀ s ∈ written :: rest, IsSegment s :=
    List.forall_mem_cons.2 ⟨isSegment_of_same hcase hname,
      fun s hm => hs s (List.mem_append_right first hm)⟩
  have hbound : (ctx.extract output).vars.get? written =
      some (ctx.evaluate (Expr.path root first).text) := by
    rw [← ctx.get?_extract_of_prevails h hcut, Variables.get?, Variables.get?,
      lowercase_of_same hcase hname]
  calc (ctx.extract output).evaluate (Expr.path .vars (written :: rest)).text
      = Expr.resolve (ctx.extract output) .vars (written :: rest) :=
        Expr.evaluate_text (e := .path .vars _) hwritten _
    _ = (ctx.evaluate (Expr.path root first).text).follow rest := by
        rw [Expr.resolve_variable, hbound, Option.getD_some]
    _ = (Expr.resolve ctx root first).follow rest := by
        rw [Expr.evaluate_text (e := .path root first) hfirst, Expr.evaluate]
    _ = Expr.resolve ctx root (first ++ rest) := (Expr.resolve_append hroot rest).symm
    _ = ctx.evaluate (Expr.path root (first ++ rest)).text :=
        (Expr.evaluate_text (e := .path root _) hs ctx).symm

/-- The variable that the path begins with is bound anew by its first part, and another name by the
whole of it. -/
theorem Step.dispatch_narrowing :
    let output : Entries String := [("Other", "$vars.rows"), ("rows", "$vars.Rows.1")]
    let ctx : Context :=
      { vars := .ofFields [("Rows", .arr [.null, .obj [("k", .arr [.bool true])]])] }
    Prevails output "rows" ("rows", (Expr.path .vars ["Rows", "1"]).text) ∧
      ∃ after, (extract output).dispatch Script.oneTool ctx 0 = ⟨.ok .onward, after, 0⟩ ∧
        after.evaluate "$vars.ROWS.k.0" = ctx.evaluate "$vars.Rows.1.k.0" ∧
        ctx.evaluate "$vars.Rows.1.k.0" = .bool true := by
  intro output ctx
  have hascending : Entries.Ascending output := Entries.ascending_of_keys (by decide)
  have hcut : Prevails output "rows" ("rows", (Expr.path .vars ["Rows", "1"]).text) :=
    (prevails_iff hascending).2 (by decide +kernel)
  have hcase : Text.sameIgnoringAsciiCase "ROWS" "rows" = true :=
    Text.sameIgnoringAsciiCase_iff.2 (by decide)
  have hwhole : (Expr.path .vars (["Rows", "1"] ++ ["k", "0"])).text = "$vars.Rows.1.k.0" := by
    decide +kernel
  have hrest : (Expr.path .vars ("ROWS" :: ["k", "0"])).text = "$vars.ROWS.k.0" := by
    decide +kernel
  have hsegments : ∀ s ∈ ["Rows", "1"] ++ ["k", "0"], IsSegment s := by decide
  obtain ⟨after, hdone, hread⟩ := dispatch_extract_cut hsegments
    (fun _ => List.cons_ne_nil _ _) (by decide) hascending hcut Script.oneTool ctx 0
  have hsame := hread "ROWS" hcase
  rw [hrest, hwhole] at hsame
  exact ⟨hcut, after, hdone, hsame, by decide +kernel⟩

end Dialogue
