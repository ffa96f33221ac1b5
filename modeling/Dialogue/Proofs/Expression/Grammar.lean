import Dialogue.Proofs.Expression.Path

/-!
# The grammar of expressions

`Spelled` says how a path, a length and a map are written: gaps of any length may stand between the
parts of a call, none inside a path, and a property stands in quotes that it does not hold. `Writes`
adds blanks around the whole. Reading is shown to agree with this in both directions, for any text
behind that could not go on with a path, by induction on the spelling and on the fuel.

So a text is read as an expression exactly when it writes one. Any other text is a literal and its
value is the text itself, also when it begins with `$`.
-/
namespace Dialogue

/-- A text that may stand between the parts of a call. -/
def Gap (cs : List Char) : Prop := ∀ c ∈ cs, isGap c = true

namespace Expr

/-- The text of an expression other than a literal, without what stands around it. -/
inductive Spelled : Expr → List Char → Prop
  | path (root : Root) {segments : List String} (h : ∀ s ∈ segments, IsSegment s) :
      Spelled (.path root segments) ('$' :: (root.name.toList ++ segmentsText segments))
  | len {inner : Expr} {cs g₁ g₂ g₃ : List Char} (h : Spelled inner cs)
      (h₁ : Gap g₁) (h₂ : Gap g₂) (h₃ : Gap g₃) :
      Spelled (.len inner) ("$len".toList ++ (g₁ ++ '(' :: (g₂ ++ (cs ++ (g₃ ++ [')'])))))
  | map {source : Expr} {property : String} {quote : Char} {cs g₁ g₂ g₃ g₄ g₅ : List Char}
      (h : Spelled source cs) (hq : quote = '\'' ∨ quote = '"') (hp : quote ∉ property.toList)
      (h₁ : Gap g₁) (h₂ : Gap g₂) (h₃ : Gap g₃) (h₄ : Gap g₄) (h₅ : Gap g₅) :
      Spelled (.map source property)
        ("$map".toList ++ (g₁ ++ '(' :: (g₂ ++ (cs ++ (g₃ ++ ',' :: (g₄ ++ quote ::
          (property.toList ++ quote :: (g₅ ++ [')']))))))))

/-- The source is a spelling of the expression with blanks around it. -/
def Writes (e : Expr) (source : String) : Prop :=
  ∃ before text after, (∀ c ∈ before, Text.isBlank c = true) ∧
    (∀ c ∈ after, Text.isBlank c = true) ∧ source.toList = before ++ (text ++ after) ∧
    e.Spelled text

/-- Built of paths, lengths and maps, with names that can be written. -/
def IsProper : Expr → Prop
  | path _ segments => ∀ s ∈ segments, IsSegment s
  | len inner => inner.IsProper
  | map source property =>
      source.IsProper ∧ ('\'' ∉ property.toList ∨ '"' ∉ property.toList)
  | literal _ => False

theorem gap_nil : Gap [] := nofun

theorem skipGaps_append {g : List Char} (h : Gap g) (cs : List Char) :
    skipGaps (g ++ cs) = skipGaps cs :=
  List.dropWhile_append_of_pos h

theorem skipGaps_cons {c : Char} (h : isGap c = false) (cs : List Char) :
    skipGaps (c :: cs) = c :: cs :=
  List.dropWhile_cons_of_neg (by simp [h])

theorem exists_gap (cs : List Char) : ∃ g, Gap g ∧ cs = g ++ skipGaps cs :=
  ⟨cs.takeWhile isGap, fun _ hc => List.mem_takeWhile_imp hc,
    List.takeWhile_append_dropWhile.symm⟩

theorem isBlank_of_isGap {c : Char} (h : isGap c = true) : Text.isBlank c = true := by
  simp only [isGap, Bool.or_eq_true, decide_eq_true_eq] at h
  rcases h with ((rfl | rfl) | rfl) | rfl <;> decide

theorem expect?_append {c : Char} (hc : isGap c = false) {g : List Char} (h : Gap g)
    (cs : List Char) : expect? c (g ++ c :: cs) = some cs := by
  rw [expect?, skipGaps_append h, skipGaps_cons hc]
  exact if_pos rfl

theorem eq_of_expect? {c : Char} {cs rest : List Char} (h : expect? c cs = some rest) :
    ∃ g, Gap g ∧ cs = g ++ c :: rest := by
  obtain ⟨g, hg, hcs⟩ := exists_gap cs
  unfold expect? at h
  split at h
  · rename_i d after hs
    split at h
    · rename_i hd
      cases h
      exact ⟨g, hg, by rw [hcs, hs, hd]⟩
    · cases h
  · cases h

theorem readProperty?_append {quote : Char} {property : String}
    (hq : quote = '\'' ∨ quote = '"') (hp : quote ∉ property.toList) (cs : List Char) :
    readProperty? (quote :: (property.toList ++ quote :: cs)) = some (property, cs) := by
  have hall : ∀ c ∈ property.toList, decide (c ≠ quote) = true := by
    intro c hc
    exact decide_eq_true fun e => hp (e ▸ hc)
  have hdrop : (quote :: cs).dropWhile (· ≠ quote) = quote :: cs :=
    List.dropWhile_cons_of_neg (by simp)
  have htake : (quote :: cs).takeWhile (· ≠ quote) = [] := List.takeWhile_cons_of_neg (by simp)
  rw [readProperty?, if_pos hq, List.dropWhile_append_of_pos hall,
    List.takeWhile_append_of_pos hall, hdrop, htake, List.append_nil, String.ofList_toList]

theorem eq_of_readProperty? {cs rest : List Char} {property : String}
    (h : readProperty? cs = some (property, rest)) :
    ∃ quote, (quote = '\'' ∨ quote = '"') ∧ quote ∉ property.toList ∧
      cs = quote :: (property.toList ++ quote :: rest) := by
  unfold readProperty? at h
  split at h
  · cases h
  · rename_i quote after
    split at h
    · rename_i hq
      split at h
      · cases h
      · rename_i c behind hd
        cases h
        rw [String.toList_ofList]
        have hc : c = quote := by
          have hstop := List.head?_dropWhile_not (· ≠ quote) after
          rw [hd] at hstop
          simpa using hstop
        refine ⟨quote, hq, ?_, ?_⟩
        · intro hm
          exact absurd (List.mem_takeWhile_imp hm) (by simp)
        · rw [← hc, ← hd]
          simp [hc]
    · cases h

theorem Spelled.eq_cons {e : Expr} {text : List Char} (h : e.Spelled text) :
    ∃ cs, text = '$' :: cs := by
  cases h with
  | path root _ => exact ⟨_, rfl⟩
  | len _ _ _ _ => exact ⟨_, rfl⟩
  | map _ _ _ _ _ _ _ _ => exact ⟨_, rfl⟩

theorem isBlank_of_isPathChar {c : Char} (h : isPathChar c = true) : Text.isBlank c = false := by
  rw [isPathChar, Bool.or_eq_true, decide_eq_true_iff, isSegmentChar_iff] at h
  rcases h with h | rfl
  · exact Text.not_isBlank_of_ascii (by omega) (by omega)
  · decide

theorem isBlank_of_mem_pathText {root : Root} {segments : List String}
    (h : ∀ s ∈ segments, IsSegment s) :
    ∀ c ∈ '$' :: (root.name.toList ++ segmentsText segments), Text.isBlank c = false := by
  intro c hc
  rcases List.mem_cons.1 hc with rfl | hc
  · decide
  · apply isBlank_of_isPathChar
    rcases List.mem_append.1 hc with hc | hc
    · exact isPathChar_of_mem_name root c hc
    · exact isPathChar_of_mem_segmentsText h c hc

theorem Spelled.getLast_not_blank {e : Expr} {text : List Char} (h : e.Spelled text)
    (hne : text ≠ []) : Text.isBlank (text.getLast hne) = false := by
  cases h with
  | path root hs => exact isBlank_of_mem_pathText hs _ (List.getLast_mem hne)
  | len _ _ _ _ => simp; decide
  | map _ _ _ _ _ _ _ _ => simp; decide

theorem endsPath_gap {g : List Char} (hg : Gap g) {cs : List Char} (h : EndsPath cs) :
    EndsPath (g ++ cs) := by
  cases g with
  | nil => exact h
  | cons c g =>
      have hc := hg c List.mem_cons_self
      simp only [isGap, Bool.or_eq_true, decide_eq_true_eq] at hc
      apply endsPath_cons
      rcases hc with ((rfl | rfl) | rfl) | rfl <;> decide

theorem Spelled.skipGaps_append {e : Expr} {text : List Char} (h : e.Spelled text)
    (cs : List Char) : skipGaps (text ++ cs) = text ++ cs := by
  obtain ⟨text, rfl⟩ := h.eq_cons
  exact skipGaps_cons (by decide) _

/-- An expression is read from its spelling, whatever cannot go on with a path behind. -/
theorem Spelled.read?_append {e : Expr} {text : List Char} (h : e.Spelled text) {fuel : Nat}
    (hf : text.length < fuel) {rest : List Char} (hr : EndsPath rest) :
    read? fuel (text ++ rest) = some (e, rest) := by
  induction h generalizing fuel rest with
  | path root hs =>
      obtain ⟨fuel, rfl⟩ := Nat.exists_eq_add_one_of_ne_zero (Nat.ne_zero_of_lt hf)
      have hlen (cs : List Char) :
          Text.dropLeading? "$len".toList ('$' :: (root.name.toList ++ cs)) = none := by
        cases root <;> rfl
      have hmap (cs : List Char) :
          Text.dropLeading? "$map".toList ('$' :: (root.name.toList ++ cs)) = none := by
        cases root <;> rfl
      have hmark (cs : List Char) : Text.dropLeading? ['$'] ('$' :: cs) = some cs :=
        Text.dropLeading?_eq_some.2 rfl
      simp only [List.append_assoc, List.cons_append]
      rw [read?, hlen, hmap]
      simp only [hmark, Option.bind_eq_bind, Option.bind_some, readPath?_append root hs hr]
      rfl
  | @len inner cs g₁ g₂ g₃ h h₁ h₂ h₃ ih =>
      obtain ⟨fuel, rfl⟩ := Nat.exists_eq_add_one_of_ne_zero (Nat.ne_zero_of_lt hf)
      have hlen : cs.length < fuel := by
        simp only [List.length_append, List.length_cons] at hf
        omega
      have hends : EndsPath (')' :: rest) := endsPath_cons (by decide) rest
      have hinner := ih hlen (endsPath_gap h₃ hends)
      simp only [List.append_assoc, List.cons_append, List.nil_append]
      rw [read?, Text.dropLeading?_eq_some.2 rfl]
      simp only [expect?_append (by decide : isGap '(' = false) h₁, Option.bind_eq_bind,
        Option.bind_some, Expr.skipGaps_append h₂, h.skipGaps_append, hinner,
        expect?_append (by decide : isGap ')' = false) h₃]
      rfl
  | @map source property quote cs g₁ g₂ g₃ g₄ g₅ h hq hp h₁ h₂ h₃ h₄ h₅ ih =>
      obtain ⟨fuel, rfl⟩ := Nat.exists_eq_add_one_of_ne_zero (Nat.ne_zero_of_lt hf)
      have hlen : cs.length < fuel := by
        simp only [List.length_append, List.length_cons] at hf
        omega
      have hquote : isGap quote = false := by rcases hq with rfl | rfl <;> decide
      have hends : EndsPath (',' :: (g₄ ++ quote :: (property.toList ++ quote ::
          (g₅ ++ ')' :: rest)))) := endsPath_cons (by decide) _
      have hsource := ih hlen (endsPath_gap h₃ hends)
      simp only [List.append_assoc, List.cons_append, List.nil_append]
      rw [read?, show Text.dropLeading? "$len".toList ("$map".toList ++ _) = none from rfl,
        Text.dropLeading?_eq_some.2 rfl]
      simp only [expect?_append (by decide : isGap '(' = false) h₁, Option.bind_eq_bind,
        Option.bind_some, Expr.skipGaps_append h₂, h.skipGaps_append, hsource,
        expect?_append (by decide : isGap ',' = false) h₃, Expr.skipGaps_append h₄,
        skipGaps_cons hquote, readProperty?_append hq hp,
        expect?_append (by decide : isGap ')' = false) h₅]
      rfl

theorem exists_spelled_of_read? {fuel : Nat} {cs rest : List Char} {e : Expr}
    (h : read? fuel cs = some (e, rest)) : ∃ text, cs = text ++ rest ∧ e.Spelled text := by
  induction fuel generalizing cs rest e with
  | zero => cases h
  | succ fuel ih =>
      rw [read?] at h
      split at h
      · rename_i after hlen
        simp only [Option.bind_eq_bind, Option.bind_eq_some_iff] at h
        obtain ⟨opened, hopen, ⟨inner, closing⟩, hinner, behind, hclose, he⟩ := h
        cases he
        obtain ⟨g₁, h₁, rfl⟩ := eq_of_expect? hopen
        obtain ⟨g₂, h₂, hg₂⟩ := exists_gap opened
        obtain ⟨text, htext, hs⟩ := ih hinner
        obtain ⟨g₃, h₃, rfl⟩ := eq_of_expect? hclose
        refine ⟨_, ?_, .len hs h₁ h₂ h₃⟩
        rw [Text.dropLeading?_eq_some.1 hlen, hg₂, htext]
        simp only [List.append_assoc, List.cons_append, List.nil_append]
      · split at h
        · rename_i after hmap
          simp only [Option.bind_eq_bind, Option.bind_eq_some_iff] at h
          obtain ⟨opened, hopen, ⟨source, closing⟩, hsource, quoted, hcomma, ⟨property, closing'⟩,
            hproperty, behind, hclose, he⟩ := h
          cases he
          obtain ⟨g₁, h₁, rfl⟩ := eq_of_expect? hopen
          obtain ⟨g₂, h₂, hg₂⟩ := exists_gap opened
          obtain ⟨text, htext, hs⟩ := ih hsource
          obtain ⟨g₃, h₃, rfl⟩ := eq_of_expect? hcomma
          obtain ⟨g₄, h₄, hg₄⟩ := exists_gap quoted
          obtain ⟨quote, hq, hp, hquoted⟩ := eq_of_readProperty? hproperty
          obtain ⟨g₅, h₅, rfl⟩ := eq_of_expect? hclose
          refine ⟨_, ?_, .map hs hq hp h₁ h₂ h₃ h₄ h₅⟩
          rw [Text.dropLeading?_eq_some.1 hmap, hg₂, htext, hg₄, hquoted]
          simp only [List.append_assoc, List.cons_append, List.nil_append]
        · simp only [Option.bind_eq_bind, Option.bind_eq_some_iff] at h
          obtain ⟨after, hmark, ⟨⟨root, segments⟩, behind⟩, hpath, he⟩ := h
          cases he
          obtain ⟨hafter, hs⟩ := eq_of_readPath? hpath
          refine ⟨_, ?_, .path root hs⟩
          rw [Text.dropLeading?_eq_some.1 hmark, hafter]
          simp only [List.append_assoc, List.cons_append, List.nil_append]

theorem ofChars?_eq_some_iff {cs : List Char} {e : Expr} :
    ofChars? cs = some e ↔
      ∃ g text g', Gap g ∧ Gap g' ∧ cs = g ++ (text ++ g') ∧ e.Spelled text := by
  unfold ofChars?
  simp only [Option.bind_eq_bind, Option.bind_eq_some_iff]
  constructor
  · rintro ⟨⟨e', rest⟩, hread, h⟩
    split at h
    · rename_i hend
      cases h
      obtain ⟨g, hg, hcs⟩ := exists_gap cs
      obtain ⟨g', hg', hrest⟩ := exists_gap rest
      obtain ⟨text, htext, hs⟩ := exists_spelled_of_read? hread
      rw [List.isEmpty_iff.1 hend, List.append_nil] at hrest
      exact ⟨g, text, rest, hg, hrest ▸ hg', by rw [← htext, ← hcs], hs⟩
    · cases h
  · rintro ⟨g, text, g', hg, hg', rfl, hs⟩
    have hr : EndsPath g' := by
      rw [← List.append_nil g']
      exact endsPath_gap hg' endsPath_nil
    have hf : text.length < (g ++ (text ++ g')).length + 1 := by
      simp only [List.length_append]
      omega
    refine ⟨(e, g'), ?_, ?_⟩
    · rw [Expr.skipGaps_append hg, hs.skipGaps_append, hs.read?_append hf hr]
    · have hend := Expr.skipGaps_append hg' []
      rw [List.append_nil] at hend
      rw [hend]
      rfl

theorem Spelled.trim_append {e : Expr} {text : List Char} (h : e.Spelled text)
    {before after : List Char} (hb : ∀ c ∈ before, Text.isBlank c = true)
    (ha : ∀ c ∈ after, Text.isBlank c = true) :
    Text.trim (before ++ (text ++ after)) = text := by
  obtain ⟨cs, hcs⟩ := h.eq_cons
  have hne : text ≠ [] := by simp [hcs]
  have hfirst : Text.isBlank (text.head hne) = false := by
    simp only [hcs, List.head_cons]
    decide
  exact Text.trim_append hb ha hne hfirst (h.getLast_not_blank hne)

theorem trim_of_writes {e : Expr} {source : String} (h : e.Writes source) :
    e.Spelled (Text.trim source.toList) := by
  obtain ⟨before, text, after, hb, ha, hsource, hs⟩ := h
  rw [hsource, hs.trim_append hb ha]
  exact hs

theorem isMarked_of_writes {e : Expr} {source : String} (h : e.Writes source) :
    isMarked source = true := by
  obtain ⟨before, text, after, hb, -, hsource, hs⟩ := h
  obtain ⟨cs, rfl⟩ := hs.eq_cons
  rw [isMarked, hsource, Text.trimStart_append hb]
  rfl

theorem writes_of_trim {e : Expr} {source : String}
    (h : ofChars? (Text.trim source.toList) = some e) : e.Writes source := by
  obtain ⟨before, after, hb, ha, hsource⟩ := Text.exists_eq_append_trim source.toList
  obtain ⟨g, text, g', hg, hg', htrim, hs⟩ := ofChars?_eq_some_iff.1 h
  refine ⟨before ++ g, text, g' ++ after, ?_, ?_, ?_, hs⟩
  · intro c hc
    exact (List.mem_append.1 hc).elim (hb c) fun hc => isBlank_of_isGap (hg c hc)
  · intro c hc
    exact (List.mem_append.1 hc).elim (fun hc => isBlank_of_isGap (hg' c hc)) (ha c)
  · rw [hsource, htrim]
    simp only [List.append_assoc]

theorem Spelled.ne_literal {e : Expr} {text : List Char} (h : e.Spelled text) (s : String) :
    e ≠ .literal s := by
  rintro rfl
  cases h

/-- A source is read as an expression other than a literal exactly when it writes it. -/
theorem ofText?_eq_some_iff {source : String} {e : Expr} (he : ∀ s, e ≠ .literal s) :
    ofText? source = some e ↔ e.Writes source := by
  unfold ofText?
  constructor
  · intro h
    split at h
    · exact writes_of_trim h
    · cases h
      exact absurd rfl (he source)
  · intro h
    have hs := trim_of_writes h
    rw [if_pos (isMarked_of_writes h)]
    exact ofChars?_eq_some_iff.2 ⟨[], _, [], gap_nil, gap_nil, by simp, hs⟩

theorem Spelled.ofText_eq {e : Expr} {text : List Char} (h : e.Spelled text) :
    ofText (String.ofList text) = e := by
  have hwrites : e.Writes (String.ofList text) := ⟨[], text, [], nofun, nofun, by simp, h⟩
  rw [ofText, (ofText?_eq_some_iff h.ne_literal).2 hwrites, Option.getD_some]

theorem ofText_of_not_writes {source : String} (h : ∀ e : Expr, ¬ e.Writes source) :
    ofText source = .literal source := by
  unfold ofText ofText?
  split
  · cases ho : ofChars? (Text.trim source.toList) with
    | none => rfl
    | some e => exact absurd (writes_of_trim ho) (h e)
  · rfl

theorem Spelled.isProper {e : Expr} {text : List Char} (h : e.Spelled text) : e.IsProper := by
  induction h with
  | path root hs => exact hs
  | len _ _ _ _ ih => exact ih
  | map _ hq hp _ _ _ _ _ ih =>
      refine ⟨ih, ?_⟩
      rcases hq with rfl | rfl
      · exact .inl hp
      · exact .inr hp

/-- The text of an expression without gaps but for a blank in front of a property, which stands
between single quotes unless it holds one. -/
def chars : Expr → List Char
  | path root segments => '$' :: (root.name.toList ++ segmentsText segments)
  | len inner => "$len".toList ++ '(' :: (inner.chars ++ [')'])
  | map source property =>
      let quote := if '\'' ∈ property.toList then '"' else '\''
      "$map".toList ++ '(' :: (source.chars ++ ',' :: ' ' :: quote ::
        (property.toList ++ quote :: [')']))
  | literal text => text.toList

theorem spelled_chars {e : Expr} (h : e.IsProper) : e.Spelled e.chars := by
  induction e with
  | path root segments => exact .path root h
  | len inner ih => exact .len (ih h) gap_nil gap_nil gap_nil
  | map source property ih =>
      obtain ⟨hsource, hproperty⟩ := h
      have hspace : Gap [' '] := by simp [Gap, isGap]
      rw [chars]
      split
      · rename_i hsingle
        have hdouble : '"' ∉ property.toList := hproperty.resolve_left fun hp => hp hsingle
        exact .map (ih hsource) (.inr rfl) hdouble gap_nil gap_nil gap_nil hspace gap_nil
      · rename_i hsingle
        exact .map (ih hsource) (.inl rfl) hsingle gap_nil gap_nil gap_nil hspace gap_nil
  | literal text => exact h.elim

def text (e : Expr) : String := String.ofList e.chars

theorem evaluate_text {e : Expr} (h : e.IsProper) (ctx : Context) :
    ctx.evaluate e.text = e.evaluate ctx := by
  rw [Context.evaluate, text, (spelled_chars h).ofText_eq]

theorem exists_writes_iff {e : Expr} : (∃ source, e.Writes source) ↔ e.IsProper := by
  constructor
  · rintro ⟨source, h⟩
    exact (trim_of_writes h).isProper
  · intro h
    exact ⟨e.text, [], e.chars, [], nofun, nofun, by simp [text], spelled_chars h⟩

/-- Every expression of paths, lengths and maps can be written, and is read back from whatever
writes it; whatever else is read as an expression is a literal, and a source that writes no
expression is the literal of itself. -/
theorem ofText_accepts_exactly_written :
    (∀ e : Expr, e.IsProper ↔ ∃ source, e.Writes source) ∧
    (∀ (e : Expr) (source : String), e.Writes source → ofText? source = some e) ∧
    (∀ (e : Expr) (source : String), ofText? source = some e → (∀ s, e ≠ .literal s) →
      e.Writes source) ∧
    ∀ source : String, (∀ e : Expr, ¬ e.Writes source) →
      ofText source = .literal source ∧ ∀ ctx : Context, ctx.evaluate source = .str source := by
  refine ⟨fun e => exists_writes_iff.symm, ?_, ?_, ?_⟩
  · intro e source h
    exact (ofText?_eq_some_iff (trim_of_writes h).ne_literal).2 h
  · intro e source h he
    exact (ofText?_eq_some_iff he).1 h
  · intro source h
    have hl := ofText_of_not_writes h
    refine ⟨hl, ?_⟩
    intro ctx
    rw [Context.evaluate, hl, evaluate]

/-- Gaps inside a call and a wide blank in front change nothing; a path with an empty segment is a
literal. -/
theorem ofText_length_of_map :
    let e : Expr := .len (.map (.path .vars ["a-1"]) "it's")
    let source := "\u3000$len (\t$map($vars.a-1\n , \"it's\") )"
    e.IsProper ∧ e.Writes source ∧ ofText? source = some e ∧
      (∀ e : Expr, ¬ e.Writes "$vars..a") ∧ ofText "$vars..a" = .literal "$vars..a" := by
  intro e source
  have hsegment : ∀ s ∈ ["a-1"], IsSegment s := by
    intro s hs
    rw [List.mem_singleton.1 hs]
    exact ⟨by decide, List.all_eq_true.1 (by decide)⟩
  have hquote : '"' ∉ "it's".toList := by decide
  have hwide : ∀ c ∈ ['\u3000'], Text.isBlank c = true := List.forall_mem_singleton.2 (by decide)
  have hspace : Gap [' '] := by simp [Gap, isGap]
  have htab : Gap ['\t'] := by simp [Gap, isGap]
  have hline : Gap ['\n', ' '] := by simp [Gap, isGap]
  have hmap := Spelled.map (.path .vars hsegment) (.inr rfl) hquote gap_nil gap_nil hline hspace
    gap_nil
  have hwrites : e.Writes source :=
    ⟨['\u3000'], _, [], hwide, nofun, by decide, .len hmap hspace htab hspace⟩
  have hnone : ofText? "$vars..a" = none := by decide +kernel
  have hother : ∀ e : Expr, ¬ e.Writes "$vars..a" := by
    intro e h
    have hread := ofText_accepts_exactly_written.2.1 e "$vars..a" h
    rw [hnone] at hread
    cases hread
  have hread : ofText? source = some e := ofText_accepts_exactly_written.2.1 e source hwrites
  have hagain : e.Writes source := ofText_accepts_exactly_written.2.2.1 e source hread nofun
  refine ⟨?_, hwrites, hread, hother, ?_⟩
  · exact (ofText_accepts_exactly_written.1 e).2 ⟨source, hagain⟩
  · exact (ofText_accepts_exactly_written.2.2.2 "$vars..a" hother).1

end Expr

end Dialogue
