import Dialogue.Proofs.Entries
import Dialogue.Proofs.Text.Blank
import Dialogue.Proofs.Text.Utf8
import Dialogue.Tool

/-!
# Tools of recorded results

A recipient is read as a namespace and a function, which stand around the last point of its trimmed
text. A registry puts the two together again, and what it gets is the trimmed text. So a recorded
result is kept under the trimmed text of its name, and a recipient finds what is kept under its own
trimmed text: how often either has points and which blanks stand around it does not matter.

Results are recorded in the order of their names. Of several names with one trimmed text the
greatest is therefore the one whose result is found.
-/
namespace Dialogue

variable {σ : Type} {recipient space function : String} {cs before after : List Char}

theorem splitLastPoint?_eq_none_iff : splitLastPoint? cs = none ↔ '.' ∉ cs := by
  induction cs with
  | nil => simp [splitLastPoint?]
  | cons c cs ih =>
      rw [splitLastPoint?]
      cases hs : splitLastPoint? cs with
      | none => simp [ih.1 hs, eq_comm]
      | some parts =>
          have hpoint : '.' ∈ cs := by
            by_contra h
            rw [ih.2 h] at hs
            cases hs
          simp [hpoint]

theorem splitLastPoint?_append (before : List Char) (h : '.' ∉ after) :
    splitLastPoint? (before ++ '.' :: after) = some (before, after) := by
  induction before with
  | nil => rw [List.nil_append, splitLastPoint?, splitLastPoint?_eq_none_iff.2 h, if_pos rfl]
  | cons c before ih => rw [List.cons_append, splitLastPoint?, ih]

theorem splitLastPoint?_eq_some_iff :
    splitLastPoint? cs = some (before, after) ↔ cs = before ++ '.' :: after ∧ '.' ∉ after := by
  refine ⟨fun h => ?_, fun ⟨hcs, hafter⟩ => hcs ▸ splitLastPoint?_append before hafter⟩
  induction cs generalizing before with
  | nil => cases h
  | cons c cs ih =>
      rw [splitLastPoint?] at h
      split at h
      · rename_i front back hs
        cases h
        obtain ⟨rfl, hback⟩ := ih hs
        exact ⟨rfl, hback⟩
      · rename_i hs
        split at h
        · rename_i hc
          cases h
          exact ⟨by rw [hc, List.nil_append], splitLastPoint?_eq_none_iff.1 hs⟩
        · cases h

/-- The trimmed text of a recipient is a namespace, a point and a function without points, and
neither of the two is blank. -/
structure NamesTool (recipient space function : String) : Prop where
  text : Text.trimmed recipient = space ++ "." ++ function
  last : '.' ∉ function.toList
  space_shows : Text.showsNothing space = false
  function_shows : Text.showsNothing function = false

theorem trimmed_eq_join_iff :
    Text.trimmed recipient = space ++ "." ++ function ↔
      Text.trim recipient.toList = space.toList ++ '.' :: function.toList := by
  rw [← String.toList_inj, Text.trimmed, String.toList_ofList, String.toList_append,
    String.toList_append, List.append_assoc]
  rfl

theorem splitRecipient?_eq_some_iff :
    splitRecipient? recipient = some (space, function) ↔ NamesTool recipient space function := by
  rw [splitRecipient?]
  constructor
  · intro h
    split at h
    · cases h
    · rename_i before after hs
      obtain ⟨htrim, hlast⟩ := splitLastPoint?_eq_some_iff.1 hs
      split at h
      · cases h
      · rename_i hshow
        cases h
        rw [Bool.or_eq_true, not_or, Bool.not_eq_true, Bool.not_eq_true] at hshow
        refine ⟨trimmed_eq_join_iff.2 ?_, ?_, ?_, ?_⟩
        · rwa [String.toList_ofList, String.toList_ofList]
        · rwa [String.toList_ofList]
        · rw [Text.showsNothing, String.toList_ofList, hshow.1]
        · rw [Text.showsNothing, String.toList_ofList, hshow.2]
  · rintro ⟨htext, hlast, hspace, hfunction⟩
    rw [Text.showsNothing] at hspace hfunction
    rw [splitLastPoint?_eq_some_iff.2 ⟨trimmed_eq_join_iff.1 htext, hlast⟩]
    simp only [hspace, hfunction, Bool.or_self, Bool.false_eq_true, if_false, String.ofList_toList]

/-- What a recipient names is told by its trimmed text. -/
theorem splitRecipient?_trimmed (recipient : String) :
    splitRecipient? (Text.trimmed recipient) = splitRecipient? recipient := by
  rw [splitRecipient?, splitRecipient?, Text.trimmed, String.toList_ofList, Text.trim_trim]

theorem splitRecipient?_congr {other : String} (h : Text.trimmed other = Text.trimmed recipient) :
    splitRecipient? other = splitRecipient? recipient := by
  rw [← splitRecipient?_trimmed, h, splitRecipient?_trimmed]

namespace Registry

theorem key_eq (h : splitRecipient? recipient = some (space, function)) :
    key space function = Text.trimmed recipient :=
  (splitRecipient?_eq_some_iff.1 h).text.symm

/-- The entry for a recorded result, if its name is that of a tool. -/
def fixture? (f : String × Json) : Option (String × Tool σ) :=
  (splitRecipient? f.1).map fun _ => (Text.trimmed f.1, .constant f.2)

theorem tools_addFixture (r : Registry σ) (f : String × Json) :
    (r.addFixture f.1 f.2).tools =
      ((fixture? f).map fun e => Entries.insert e.1 e.2 r.tools).getD r.tools := by
  rw [addFixture, fixture?]
  split
  · rename_i space function hs
    rw [hs, register, key_eq hs]
    rfl
  · rename_i hs
    rw [hs]
    rfl

/-- A registry of recorded results keeps, under each trimmed text, the last one. -/
theorem tools_ofFixtures (fixtures : Fields) :
    (ofFixtures fixtures : Registry σ).tools = Entries.ofList (fixtures.filterMap fixture?) := by
  induction fixtures using List.reverseRecOn with
  | nil => rfl
  | append_singleton fixtures f ih =>
      have hlast : (ofFixtures (fixtures ++ [f]) : Registry σ) =
          (ofFixtures fixtures).addFixture f.1 f.2 := List.foldl_concat ..
      rw [hlast, tools_addFixture, ih, List.filterMap_append]
      cases hf : (fixture? f : Option (String × Tool σ)) with
      | none => simp [hf]
      | some e =>
          rw [List.filterMap_cons_some hf, List.filterMap_nil, Entries.ofList_concat]
          rfl

theorem keys_fixtures (fixtures : Fields) :
    (fixtures.filterMap fixture?).map (Prod.fst : String × Tool σ → String) =
      ((Entries.keys fixtures).map Text.trimmed).filter
        fun name => (splitRecipient? name).isSome := by
  rw [List.map_filterMap, Entries.keys, List.map_map, List.filter_map, ← List.filterMap_eq_map,
    List.filterMap_filter]
  refine List.filterMap_congr fun f _ => ?_
  simp only [fixture?, Function.comp_apply, splitRecipient?_trimmed]
  cases splitRecipient? f.1 <;> rfl

theorem size_ofFixtures (fixtures : Fields) :
    (ofFixtures fixtures : Registry σ).size =
      (((Entries.keys fixtures).map Text.trimmed).filter
        fun name => (splitRecipient? name).isSome).dedup.length := by
  have hperm := Entries.keys_ofList_perm (fixtures.filterMap (fixture? (σ := σ)))
  rw [keys_fixtures] at hperm
  rw [size, tools_ofFixtures, ← hperm.length_eq, Entries.keys, List.length_map]

/-- A recipient that names a tool finds the last result that is recorded under its trimmed text. -/
theorem resolve_ofFixtures (h : splitRecipient? recipient = some (space, function))
    (fixtures : Fields) :
    (ofFixtures fixtures : Registry σ).resolve space function =
      (fixtures.reverse.find? fun f => Text.trimmed f.1 == Text.trimmed recipient).map
        fun f => .constant f.2 := by
  have hfixture (f : String × Json) : ((fixture? f : Option (String × Tool σ)).any
      fun e => e.1 == Text.trimmed recipient) = (Text.trimmed f.1 == Text.trimmed recipient) := by
    rw [fixture?]
    cases hf : splitRecipient? f.1 with
    | some _ => rfl
    | none =>
        refine (beq_eq_false_iff_ne.2 fun he => ?_).symm
        rw [splitRecipient?_congr he, h] at hf
        cases hf
  rw [resolve, key_eq h, tools_ofFixtures, Entries.get?_ofList, ← List.filterMap_reverse,
    List.find?_filterMap]
  simp only [hfixture]
  cases hf : fixtures.reverse.find? fun f => Text.trimmed f.1 == Text.trimmed recipient with
  | none => rfl
  | some f =>
      have he : Text.trimmed f.1 = Text.trimmed recipient := by simpa using List.find?_some hf
      have hsplit := (splitRecipient?_congr he).trans h
      simp [fixture?, hsplit]

/-- The result is recorded under the greatest name, in the order of bytes, of those that have the
trimmed text of the recipient. -/
def Recorded (fixtures : Fields) (recipient : String) (result : Json) : Prop :=
  ∃ name, (name, result) ∈ fixtures ∧ Text.trimmed name = Text.trimmed recipient ∧
    ∀ f ∈ fixtures, Text.trimmed f.1 = Text.trimmed recipient → f.1 ≠ name →
      Text.bytes f.1 < Text.bytes name

theorem Recorded.unique {fixtures : Fields} (h : Entries.Ascending fixtures) {result other : Json}
    (hr : Recorded fixtures recipient result) (ho : Recorded fixtures recipient other) :
    result = other := by
  obtain ⟨name, hm, htext, hlast⟩ := hr
  obtain ⟨name', hm', htext', hlast'⟩ := ho
  by_cases hname : name = name'
  · subst hname
    have hget := (Entries.get?_eq_some_iff h).2 hm
    rw [(Entries.get?_eq_some_iff h).2 hm'] at hget
    exact (Option.some.inj hget).symm
  · have hbehind := hlast' _ hm htext hname
    exact absurd (hlast _ hm' htext' (Ne.symm hname)) (List.lt_asymm hbehind)

theorem recorded_of_find? {fixtures : Fields} (h : Entries.Ascending fixtures) {f : String × Json}
    (hf : (fixtures.reverse.find? fun f => Text.trimmed f.1 == Text.trimmed recipient) = some f) :
    Recorded fixtures recipient f.2 := by
  obtain ⟨hm, htext, hlast⟩ := (Entries.find?_reverse_eq_some_iff h).1 hf
  refine ⟨f.1, hm, beq_iff_eq.1 htext, fun g hg hgtext hne => Text.bytes_lt_iff.2 ?_⟩
  exact hlast g hg (beq_iff_eq.2 hgtext) fun he => hne (congrArg Prod.fst he)

/-- Recorded results are found by exactly the recipients that name them. What a recipient names is
told by `NamesTool`. If it names a tool, one is found exactly when a result is recorded under a name
with the same trimmed text, and whatever it is asked, the tool answers with the result that is
recorded under the greatest of these names. There are as many tools as there are different trimmed
texts of names that name a tool. -/
theorem ofFixtures_finds_named {fixtures : Fields} (h : Entries.Ascending fixtures) :
    let registry : Registry σ := ofFixtures fixtures
    (∀ recipient space function, splitRecipient? recipient = some (space, function) ↔
      NamesTool recipient space function) ∧
    (∀ recipient space function, splitRecipient? recipient = some (space, function) →
      ((registry.resolve space function).isSome = true ↔
        ∃ f ∈ fixtures, Text.trimmed f.1 = Text.trimmed recipient) ∧
      ∀ tool, registry.resolve space function = some tool →
        ∃ result, Recorded fixtures recipient result ∧
          ∀ args world, tool.invoke args world = (.ok result, world)) ∧
    registry.size = (((Entries.keys fixtures).map Text.trimmed).filter
      fun name => (splitRecipient? name).isSome).dedup.length := by
  intro registry
  refine ⟨fun _ _ _ => splitRecipient?_eq_some_iff, ?_, size_ofFixtures fixtures⟩
  intro recipient space function hs
  have hresolve : registry.resolve space function = _ := resolve_ofFixtures hs fixtures
  rw [hresolve]
  constructor
  · simp only [Option.isSome_map, List.find?_isSome, List.mem_reverse, beq_iff_eq]
  · intro tool htool
    obtain ⟨f, hf, rfl⟩ := Option.map_eq_some_iff.1 htool
    exact ⟨f.2, recorded_of_find? h hf, fun _ _ => rfl⟩

/-- Names of one tool with blanks around them, of another one with a blank inside, and of none. -/
def tabFixtures : Fields :=
  [(" browser.tabs.open", .null), (".open", .null), ("browser.tabs. open", .null),
    ("browser.tabs.open", .bool true), ("browser.tabs.open\u3000", .str "opened"), ("open", .null)]

/-- The last of the names that differ in the blanks around them counts. -/
theorem ofFixtures_finds_opened :
    let registry : Registry Unit := ofFixtures tabFixtures
    Entries.Ascending tabFixtures ∧ NamesTool "\tbrowser.tabs.open" "browser.tabs" "open" ∧
      (∃ tool, registry.resolve "browser.tabs" "open" = some tool ∧
        ∀ args world, tool.invoke args world = (.ok (.str "opened"), world)) ∧
      registry.size = 2 := by
  intro registry
  have hascending : Entries.Ascending tabFixtures := Entries.ascending_of_keys (by decide)
  have hsplit : splitRecipient? "\tbrowser.tabs.open" = some ("browser.tabs", "open") := by
    decide +kernel
  have hrecorded : Recorded tabFixtures "\tbrowser.tabs.open" (.str "opened") :=
    ⟨"browser.tabs.open\u3000", by decide, by decide +kernel, by decide +kernel⟩
  obtain ⟨hnames, hfound, hsize⟩ := ofFixtures_finds_named (σ := Unit) hascending
  obtain ⟨hsome, hinvoke⟩ := hfound _ _ _ hsplit
  obtain ⟨tool, htool⟩ := Option.isSome_iff_exists.1 (hsome.2
    ⟨("browser.tabs.open", .bool true), by decide, by decide +kernel⟩)
  obtain ⟨result, hresult, hanswer⟩ := hinvoke tool htool
  rw [hresult.unique hascending hrecorded] at hanswer
  refine ⟨hascending, (hnames _ _ _).1 hsplit, ⟨tool, htool, hanswer⟩, hsize.trans ?_⟩
  decide +kernel

end Registry

end Dialogue
