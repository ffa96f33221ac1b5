import Dialogue.Proofs.Condition.Comparison
import Dialogue.Proofs.Entries
import Dialogue.Proofs.Run.Trace
import Mathlib.Data.List.Forall2

/-!
# A call of a tool

What a tool is sent, and what a run keeps of its answer.

Each argument is sent under its own name. It stands for itself or for what it evaluates to, in the
context that the call is made in. A text is sent as the list of its items where the tool declares a
list of strings of that name, so only the declarations count, not their order or how often they are
made. Going through the declarations one after the other comes to the same, since a list is no text
any more.

The answer is kept in the conversation and under one name. A name that can stand in a path is ASCII,
so that it is read back in any ASCII letter case.
-/
namespace Dialogue

variable {σ : Type}

/-- The items of a text are its pieces between the commas that are not blank, trimmed. -/
def Lists (joined : String) (items : List String) : Prop :=
  ∃ piece pieces, joined.toList = piece ++ pieces.flatMap (',' :: ·) ∧
    (∀ p ∈ piece :: pieces, ',' ∉ p) ∧
    items = ((piece :: pieces).filter fun p => !p.all Text.isBlank).map fun p =>
      String.ofList (Text.trim p)

theorem listedItems_eq (joined : String) :
    listedItems joined =
      ((Text.splitAt ',' joined.toList).filter fun p => !p.all Text.isBlank).map fun p =>
        String.ofList (Text.trim p) := by
  have hblank (p : List Char) : (Text.trim p).isEmpty = p.all Text.isBlank := by
    rw [Bool.eq_iff_iff, List.isEmpty_iff, Text.trim_eq_nil_iff, List.all_eq_true]
  rw [listedItems, List.filter_map, List.map_map]
  simp only [Function.comp_def, hblank]

theorem lists_iff {joined : String} {items : List String} :
    Lists joined items ↔ listedItems joined = items := by
  rw [listedItems_eq]
  constructor
  · rintro ⟨piece, pieces, hjoined, hlack, rfl⟩
    rw [Text.splitAt_eq_cons_iff.2 ⟨hjoined, hlack⟩]
  · rintro rfl
    cases hs : Text.splitAt ',' joined.toList with
    | nil => exact absurd hs (Text.splitAt_ne_nil _)
    | cons piece pieces =>
        obtain ⟨hjoined, hlack⟩ := Text.splitAt_eq_cons_iff.1 hs
        exact ⟨piece, pieces, hjoined, hlack, rfl⟩

/-- A text that begins with `$` stands for what it evaluates to, all else for itself. -/
inductive Context.Stands (ctx : Context) : Json → Json → Prop
  | evaluated {s : String} {cs : List Char} (h : s.toList = '$' :: cs) :
      ctx.Stands (.str s) (ctx.evaluate s)
  | itself {j : Json} (h : ∀ s cs, j = .str s → s.toList ≠ '$' :: cs) : ctx.Stands j j

theorem Context.stands_iff {ctx : Context} {j value : Json} :
    ctx.Stands j value ↔ ctx.argument j = value := by
  have hhead (s : String) : s.toList.head? = some '$' ↔ ∃ cs, s.toList = '$' :: cs := by
    cases s.toList <;> simp
  constructor
  · intro h
    cases h with
    | evaluated h => exact if_pos ((hhead _).2 ⟨_, h⟩)
    | itself h =>
        cases j with
        | str s => exact if_neg fun hs => ((hhead s).1 hs).elim fun cs hcs => h s cs rfl hcs
        | _ => rfl
  · rintro rfl
    cases j with
    | str s =>
        rw [argument]
        split
        · rename_i hs
          obtain ⟨cs, hcs⟩ := (hhead s).1 hs
          exact .evaluated hcs
        · rename_i hs
          refine .itself ?_
          rintro _ cs ⟨⟩ hcs
          exact hs ((hhead s).2 ⟨cs, hcs⟩)
    | _ =>
        refine .itself ?_
        intro s cs h
        cases h

namespace Parameter

variable {parameters : List Parameter} {name : String} {j sent : Json}

theorem takesStringList_iff :
    takesStringList parameters name = true ↔ ⟨name, .stringList⟩ ∈ parameters := by
  rw [takesStringList, List.any_eq_true]
  constructor
  · rintro ⟨⟨_, _⟩, hp, h⟩
    obtain ⟨hname, hkind⟩ := Bool.and_eq_true_iff.1 h
    cases beq_iff_eq.1 hname
    cases beq_iff_eq.1 hkind
    exact hp
  · intro h
    exact ⟨_, h, by simp⟩

/-- A text is sent as its items where a list of strings of that name is declared, all else as it is.
-/
inductive Sends (parameters : List Parameter) (name : String) : Json → Json → Prop
  | listed {joined : String} {items : List String} (hp : ⟨name, .stringList⟩ ∈ parameters)
      (hi : Lists joined items) : Sends parameters name (.str joined) (.ofStrings items)
  | kept {j : Json} (h : ∀ joined, j = .str joined → ⟨name, .stringList⟩ ∉ parameters) :
      Sends parameters name j j

theorem sends_iff : Sends parameters name j sent ↔ normalise parameters name j = sent := by
  constructor
  · intro h
    cases h with
    | listed hp hi => rw [normalise, if_pos (takesStringList_iff.2 hp), lists_iff.1 hi]
    | kept h =>
        cases j with
        | str s => exact if_neg fun hp => h s rfl (takesStringList_iff.1 hp)
        | _ => rfl
  · rintro rfl
    cases j with
    | str s =>
        rw [normalise]
        split
        · rename_i hp
          exact .listed (takesStringList_iff.1 hp) (lists_iff.2 rfl)
        · rename_i hp
          refine .kept ?_
          rintro _ ⟨⟩ hmem
          exact hp (takesStringList_iff.2 hmem)
    | _ =>
        refine .kept ?_
        intro joined h
        cases h

theorem Sends.of_same_members {others : List Parameter} (h : Sends parameters name j sent)
    (hsame : ∀ p, p ∈ parameters ↔ p ∈ others) : Sends others name j sent := by
  cases h with
  | listed hp hi => exact .listed ((hsame _).1 hp) hi
  | kept h => exact .kept fun joined hj hp => h joined hj ((hsame _).2 hp)

/-- What one declaration does to the arguments. -/
def normaliseUnder (p : Parameter) (args : Fields) : Fields :=
  if p.kind = .stringList then
    match Entries.get? p.name args with
    | some (.str joined) => Entries.insert p.name (.ofStrings (listedItems joined)) args
    | _ => args
  else args

theorem normalise_of_not_mem (h : ⟨name, .stringList⟩ ∉ parameters) (j : Json) :
    normalise parameters name j = j :=
  sends_iff.1 (.kept fun _ _ => h)

theorem normalise_cons (p : Parameter) (parameters : List Parameter) (name : String) (j : Json) :
    normalise (p :: parameters) name j = normalise parameters name (normalise [p] name j) := by
  cases j with
  | str s =>
      have hcons : takesStringList (p :: parameters) name =
          (takesStringList [p] name || takesStringList parameters name) := by
        simp [takesStringList]
      rw [normalise, normalise, hcons]
      cases takesStringList [p] name with
      | true => rfl
      | false => rfl
  | _ => rfl

theorem map_normalise_eq_self {args : Fields}
    (h : ∀ e ∈ args, normalise parameters e.1 e.2 = e.2) :
    args.map (fun e => (e.1, normalise parameters e.1 e.2)) = args := by
  conv_rhs => rw [← List.map_id args]
  exact List.map_congr_left fun e he => by rw [h e he, id]

theorem normaliseUnder_eq {args : Fields} (h : Entries.Ascending args) (p : Parameter) :
    p.normaliseUnder args = args.map fun e => (e.1, normalise [p] e.1 e.2) := by
  obtain ⟨own, kind⟩ := p
  by_cases hkind : kind = .stringList
  · subst hkind
    rw [normaliseUnder, if_pos rfl]
    -- Either the name holds a text, and this alone changes, or there is nothing to change.
    split
    · rename_i joined hown
      rw [Entries.insert_eq_map h hown]
      refine List.map_congr_left fun e he => ?_
      obtain ⟨k, j⟩ := e
      dsimp only
      split
      · rename_i hk
        subst hk
        have hj : Entries.get? k args = some j := (Entries.get?_eq_some_iff h).2 he
        obtain rfl : j = .str joined := Option.some.inj (hj.symm.trans hown)
        rw [sends_iff.1 (.listed List.mem_cons_self (lists_iff.2 rfl))]
      · rename_i hk
        rw [normalise_of_not_mem (by simpa using hk)]
    · rename_i hown
      refine (map_normalise_eq_self fun e he => ?_).symm
      obtain ⟨k, j⟩ := e
      refine sends_iff.1 (.kept ?_)
      rintro joined rfl hmem
      cases List.mem_singleton.1 hmem
      exact hown joined ((Entries.get?_eq_some_iff h).2 he)
  · rw [normaliseUnder, if_neg hkind]
    refine (map_normalise_eq_self fun e _ => normalise_of_not_mem ?_ e.2).symm
    intro hmem
    cases List.mem_singleton.1 hmem
    exact hkind rfl

/-- Each argument is sent as if it was alone. -/
theorem foldl_normaliseUnder {args : Fields} (h : Entries.Ascending args)
    (parameters : List Parameter) :
    parameters.foldl (fun args p => p.normaliseUnder args) args =
      args.map fun e => (e.1, normalise parameters e.1 e.2) := by
  induction parameters generalizing args with
  | nil => exact (map_normalise_eq_self fun e _ => normalise_of_not_mem List.not_mem_nil e.2).symm
  | cons p parameters ih =>
      -- The keys stay in order, so the rest of the loop finds what this turn has left.
      have hmap : Entries.Ascending (args.map fun e => (e.1, normalise [p] e.1 e.2)) :=
        List.pairwise_map.2 h
      rw [List.foldl_cons, normaliseUnder_eq h, ih hmap, List.map_map]
      exact List.map_congr_left fun e _ => by
        rw [Function.comp_apply, normalise_cons p parameters]

end Parameter

theorem Context.evaluate_variable {ctx : Context} {name : String} {value : Json}
    (hname : IsSegment name) (h : ctx.vars.get? name = some value) :
    ctx.evaluate ("$vars." ++ name) = value := by
  have hread := (Condition.spelled_variable hname).ofText_eq
  have hsource : "$vars." ++ name = String.ofList ("$vars.".toList ++ name.toList) := by
    rw [← String.toList_append, String.ofList_toList]
  rw [evaluate, hsource, hread, Condition.evaluate_variable h]

namespace ToolCall

/-- What a tool with these parameters is sent: a value for each argument of the call and for no
others. -/
def Prepares (call : ToolCall) (ctx : Context) (parameters : List Parameter) (args : Fields) :
    Prop :=
  List.Forall₂ (fun given sent : String × Json => sent.1 = given.1 ∧
    ∃ value, ctx.Stands given.2 value ∧ Parameter.Sends parameters given.1 value sent.2)
    call.args args

theorem prepares_iff {call : ToolCall} {ctx : Context} {parameters : List Parameter}
    {args : Fields} :
    call.Prepares ctx parameters args ↔ call.preparedArgs ctx parameters = args := by
  have heach (given sent : String × Json) : (sent.1 = given.1 ∧
      ∃ value, ctx.Stands given.2 value ∧ Parameter.Sends parameters given.1 value sent.2) ↔
        (given.1, Parameter.normalise parameters given.1 (ctx.argument given.2)) = sent := by
    obtain ⟨name, j⟩ := sent
    simp only [Context.stands_iff, Parameter.sends_iff, exists_eq_left', Prod.mk.injEq,
      eq_comm (a := name)]
  have hargs : call.preparedArgs ctx parameters = call.args.map fun given =>
      (given.1, Parameter.normalise parameters given.1 (ctx.argument given.2)) := by
    rw [preparedArgs, evaluatedArgs, List.map_map]
    rfl
  rw [hargs, ← List.forall₂_eq_eq_eq, List.forall₂_map_left_iff, Prepares]
  simp only [heach]

/-- What a run keeps of the result of a call: a turn of the conversation, which is a tool's under
the recipient as it is written and says the result as compact JSON, and one variable. -/
structure Keeps (call : ToolCall) (result : Json) (ctx after : Context) : Prop where
  log : after.log =
    ctx.log ++ [{ role := .tool, content := result.compact, name := some call.recipient }]
  input : after.input = ctx.input
  finalText : after.finalText = ctx.finalText
  vars : after.vars = ctx.vars.set call.saveAs result
  bound : ∀ name, Text.lowercase name = Text.lowercase call.saveAs →
    after.vars.get? name = some result
  others : ∀ name, Text.lowercase name ≠ Text.lowercase call.saveAs →
    after.vars.get? name = ctx.vars.get? name
  read : IsSegment call.saveAs → ∀ name, Text.sameIgnoringAsciiCase name call.saveAs = true →
    after.evaluate ("$vars." ++ name) = result

theorem keeps_record (call : ToolCall) (result : Json) (ctx : Context) :
    call.Keeps result ctx (call.record result ctx) := by
  have hbound : ∀ name, Text.lowercase name = Text.lowercase call.saveAs →
      (call.record result ctx).vars.get? name = some result := by
    intro name hname
    rw [← ctx.vars.get?_set_self call.saveAs result, Variables.get?, Variables.get?, hname]
    rfl
  refine ⟨rfl, rfl, rfl, rfl, hbound, ?_, ?_⟩
  · intro name hname
    exact Variables.get?_set_of_ne ctx.vars result hname
  · intro hsegment name hname
    exact Context.evaluate_variable (isSegment_of_same hname hsegment)
      (hbound name (lowercase_of_same hname hsegment))

end ToolCall

/-- A machine whose next step fails keeps its context. -/
theorem Machine.advance_of_failed {c : Collaborators σ} {s : Step} {ctx next : Context}
    {world after : σ} {e : RunError} {rest : List Step} {frames : List (List Step)} {turn : Nat}
    (hc : c.stopsAt turn world = false) (h : s.dispatch c ctx world = ⟨.error e, next, after⟩) :
    Machine.advance c ⟨(s :: rest) :: frames, ctx, world, turn⟩ =
      .stopped ⟨some e, ctx, after⟩ := by
  simp only [Machine.advance, hc, h, Step.ctx_of_failed h, Bool.false_eq_true, if_false]

namespace Step

/-- A call of a tool from end to end, in a watched world. Where no tool is found, none is invoked
and the step fails. A tool that is found is invoked once, and what it is sent is told by
`ToolCall.Prepares`; so it does not depend on the order or the number of the declarations, and going
through them one after the other comes to the same. Where the tool fails, the step fails. A step
that fails leaves the context as it was, and a run that comes to it stops in that context. Where the
tool answers, the step leads on, and `ToolCall.Keeps` tells what has changed. -/
theorem dispatch_tool_call {call : ToolCall} {space function : String}
    (hs : splitRecipient? call.recipient = some (space, function)) (c : Collaborators σ)
    (ctx : Context) (world : σ) (calls : List Call) :
    let outcome := (tool call).dispatch c.watched ctx (world, calls)
    (∀ after, c.resolve space function world = (none, after) →
      outcome = ⟨.error (.toolNotFound call.recipient), ctx, after,
        calls ++ [.resolve space function]⟩) ∧
    (∀ tool between, c.resolve space function world = (some tool, between) →
      ∃ args, (∀ sent, call.Prepares ctx tool.parameters sent ↔ sent = args) ∧
        let calls' := calls ++ [.resolve space function, .invoke space function args]
        (∀ e after, tool.invoke args between = (.error e, after) →
          outcome = ⟨.error (e.asRunError call.recipient), ctx, after, calls'⟩) ∧
        (∀ result after, tool.invoke args between = (.ok result, after) →
          ∃ next, call.Keeps result ctx next ∧ outcome = ⟨.ok .onward, next, after, calls'⟩)) ∧
    (∀ parameters others : List Parameter, (∀ p, p ∈ parameters ↔ p ∈ others) →
      ∀ args, call.Prepares ctx parameters args → call.Prepares ctx others args) ∧
    (Entries.Ascending call.args → ∀ parameters : List Parameter,
      call.Prepares ctx parameters
        (parameters.foldl (fun args p => p.normaliseUnder args) (call.evaluatedArgs ctx))) ∧
    (RunError.toolNotFound call.recipient).kind = "tool_not_found" ∧
    (∀ message,
      ((ToolError.invalidArguments message).asRunError call.recipient).kind =
        "invalid_arguments" ∧
      ((ToolError.failed message).asRunError call.recipient).kind = "tool_failed") ∧
    ∀ e next after rest frames turn, outcome = ⟨.error e, next, after⟩ →
      c.stopsAt turn world = false → next = ctx ∧
        Machine.advance c.watched ⟨(tool call :: rest) :: frames, ctx, (world, calls), turn⟩ =
          .stopped ⟨some e, ctx, after⟩ := by
  intro outcome
  have houtcome : outcome =
      ((call.perform c ctx world).map fun _ => .onward).watched
        (calls ++ call.calls c ctx world) :=
    dispatch_watched (tool call) ctx world calls
  refine ⟨?_, ?_, ?_, ?_, rfl, fun _ => ⟨rfl, rfl⟩, ?_⟩
  · intro after hr
    rw [houtcome, ToolCall.perform_of_missing hs hr, ToolCall.calls_of_missing hs hr]
    rfl
  · intro tool between hr
    refine ⟨call.preparedArgs ctx tool.parameters,
      fun sent => ToolCall.prepares_iff.trans eq_comm, ?_, ?_⟩
    · intro e after hi
      rw [houtcome, ToolCall.perform_of_failed hs hr hi, ToolCall.calls_of_found hs hr]
      rfl
    · intro result after hi
      refine ⟨call.record result ctx, call.keeps_record result ctx, ?_⟩
      rw [houtcome, ToolCall.perform_of_answered hs hr hi, ToolCall.calls_of_found hs hr]
      rfl
  · intro parameters others hsame args hargs
    refine hargs.imp fun given sent => ?_
    rintro ⟨hname, value, hvalue, hsent⟩
    exact ⟨hname, value, hvalue, hsent.of_same_members hsame⟩
  · intro hargs parameters
    rw [ToolCall.prepares_iff, ToolCall.preparedArgs, ToolCall.evaluatedArgs,
      Parameter.foldl_normaliseUnder]
    exact List.pairwise_map.2 hargs
  · intro e next after rest frames turn hfailed hc
    exact ⟨ctx_of_failed hfailed, Machine.advance_of_failed hc hfailed⟩

/-- A tool that declares its list of tags twice and answers with what it is sent. -/
def tagger : Tool Unit where
  parameters := [⟨"tags", .stringList⟩, ⟨"who", .string⟩, ⟨"tags", .stringList⟩]
  invoke args world := (.ok (.obj args), world)

/-- A world where that is the tool of every function of `notes`. -/
def tagging : Collaborators Unit where
  complete _ world := (.ok "", world)
  resolve space _ world := (if space = "notes" then some tagger else none, world)
  cancelled _ := false

/-- The tags stand in a variable, and the answer is read in another letter case. Where the tool is
missing, nothing has changed. -/
theorem dispatch_tagging :
    let args : Fields := [("tags", .str "$vars.given"), ("who", .str "a, b")]
    let call : ToolCall := { recipient := "notes.tag", args, saveAs := "Kept" }
    let lost : ToolCall := { call with recipient := "other.tag" }
    let ctx : Context := { vars := .ofFields [("given", .str " x,, y ,")], log := [.user "hi"] }
    let sent : Fields := [("tags", .ofStrings ["x", "y"]), ("who", .str "a, b")]
    let answer : String := "\x7b\"tags\":[\"x\",\"y\"],\"who\":\"a, b\"\x7d"
    splitRecipient? call.recipient = some ("notes", "tag") ∧
      (∃ next, (tool call).dispatch tagging.watched ctx ((), []) =
          ⟨.ok .onward, next, (), [.resolve "notes" "tag", .invoke "notes" "tag" sent]⟩ ∧
        next.log = [{ role := .user, content := "hi", name := none },
          { role := .tool, content := answer, name := some "notes.tag" }] ∧
        next.evaluate "$vars.KEPT" = .obj sent) ∧
      (tool lost).dispatch tagging.watched ctx ((), []) =
        ⟨.error (.toolNotFound "other.tag"), ctx, (), [.resolve "other" "tag"]⟩ := by
  intro args call lost ctx sent answer
  have hs : splitRecipient? call.recipient = some ("notes", "tag") := by decide +kernel
  have hlost : splitRecipient? lost.recipient = some ("other", "tag") := by decide +kernel
  have hr : tagging.resolve "notes" "tag" () = (some tagger, ()) :=
    congrArg (fun tool => (tool, ())) (if_pos rfl)
  have hsent : call.preparedArgs ctx tagger.parameters = sent := by decide +kernel
  obtain ⟨-, hfound, -⟩ := dispatch_tool_call hs tagging ctx () []
  obtain ⟨prepared, hprepared, -, hok⟩ := hfound tagger () hr
  obtain ⟨next, hkeeps, hnext⟩ := hok (.obj prepared) () rfl
  rw [← (hprepared sent).1 (ToolCall.prepares_iff.2 hsent)] at hkeeps hnext
  have hsegment : IsSegment call.saveAs := ⟨by decide, List.all_eq_true.1 (by decide)⟩
  have hcase : Text.sameIgnoringAsciiCase "KEPT" "Kept" = true := by
    rw [Text.sameIgnoringAsciiCase_iff]
    decide
  have hread := hkeeps.read hsegment "KEPT" hcase
  have hpath : "$vars." ++ "KEPT" = "$vars.KEPT" := by decide +kernel
  rw [hpath] at hread
  have hanswer : (Json.obj sent).compact = answer := by decide +kernel
  refine ⟨hs, ⟨next, hnext, ?_, hread⟩, ?_⟩
  · rw [hkeeps.log, hanswer]
    rfl
  · exact (dispatch_tool_call hlost tagging ctx () []).1 ()
      (congrArg (fun tool => (tool, ())) (if_neg (by decide)))

end Step

end Dialogue
