import Dialogue.Load
import Dialogue.Proofs.Envelope
import Dialogue.Proofs.Json.ShapeText
import Dialogue.Proofs.Wire.RoundTrip

/-!
# Loading what was written as JSON

An envelope is loaded from its compact JSON text as it was, whether the fields of a message are
written in the order of a listing or in that of their keys. Running text and JSON therefore lead to
the same envelopes: what was loaded from either is loaded again from its JSON text, whatever the
version is that is given from outside.

An envelope puts three levels around the content of a message: the object that it is, its list of
messages and the message. What is loaded from any text has contents in order.
-/
namespace Dialogue

open Json (Fits ShapedSlot)

namespace Message

/-- The value is an object of the parts of the message, in some order. -/
def ToldBy (m : Message) (j : Json) : Prop := ∃ fields, j = .obj fields ∧ fields.Perm m.listing

variable {m : Message} {j : Json}

theorem toldBy_listing (m : Message) : m.ToldBy (.obj m.listing) := ⟨_, rfl, .refl _⟩

theorem keys_listing (m : Message) : (m.listing.map Prod.fst).Nodup := by
  simp [listing]

theorem toldBy_toJson (m : Message) : m.ToldBy m.toJson := by
  refine ⟨_, rfl, ?_⟩
  apply (List.perm_ext_iff_of_nodup _ (List.Nodup.of_map _ m.keys_listing)).2
  · intro f
    simp only [listing, List.mem_cons, List.not_mem_nil, or_false]
    tauto
  · apply List.Nodup.of_map Prod.fst
    simp

theorem sorted_ofOption (s : Option String) : (ofOption s).Sorted := by
  cases s <;> trivial

theorem sorted_toJson (hs : m.content.Sorted) : m.toJson.Sorted := by
  have hkeys : ["channel", "content", "contentType", "recipient", "role", "termination"].Pairwise
      (· < ·) := by decide
  refine ⟨Entries.ascending_of_keys hkeys, Json.sortedFields_iff.2 ?_⟩
  simp only [List.forall_mem_cons]
  exact ⟨sorted_ofOption _, hs, sorted_ofOption _, sorted_ofOption _, trivial, sorted_ofOption _,
    List.forall_mem_nil _⟩

theorem sort_of_toldBy (h : m.ToldBy j) (hs : m.content.Sorted) : j.sort = m.toJson := by
  obtain ⟨fields, rfl, hperm⟩ := h
  obtain ⟨fields', hj, hperm'⟩ := m.toldBy_toJson
  have hkeys : (fields.map Prod.fst).Nodup := (hperm.map Prod.fst).nodup_iff.2 m.keys_listing
  rw [Json.sort_perm (hperm.trans hperm'.symm) hkeys, ← hj]
  exact Json.sort_of_sorted (sorted_toJson hs)

theorem depth_le_of_toldBy (h : m.ToldBy j) : j.depth ≤ m.content.depth + 1 := by
  obtain ⟨fields, rfl, hperm⟩ := h
  have hoption (s : Option String) : (ofOption s).depth = 0 := by cases s <;> rfl
  apply Nat.succ_le_succ (Json.depthFields_le_iff.2 _)
  intro f hf
  have hmem := hperm.mem_iff.1 hf
  simp only [listing, List.mem_cons, List.not_mem_nil, or_false] at hmem
  rcases hmem with rfl | rfl | rfl | rfl | rfl | rfl <;> simp [hoption, Json.depth]

theorem fits_text (s : Option String) : Fits (.optional .text) (ofOption s) := by
  cases s with
  | none => exact .absent _
  | some s => exact .present rfl nofun (.text s)

theorem fits_choice {names : List String} {s : Option String} (h : ∀ name ∈ s, name ∈ names) :
    Fits (.optional (.choice names)) (ofOption s) := by
  cases s with
  | none => exact .absent _
  | some s => exact .present rfl nofun (.choice (h s rfl))

theorem fits_of_toldBy (h : m.ToldBy j) (hn : ∀ n ∈ m.content.numbers, Json.Legible n) :
    Fits decoder.shape j := by
  obtain ⟨fields, rfl, hperm⟩ := h
  have hchannel : Fits (.optional (.choice (Channel.known.map (·.1))))
      (ofOption (m.channel.map Channel.name)) := by
    apply fits_choice
    intro name hname
    obtain ⟨c, _, rfl⟩ := Option.map_eq_some_iff.1 hname
    cases c <;> decide
  have htermination : Fits (.optional (.choice (Termination.known.map (·.1))))
      (ofOption (m.termination.map Termination.name)) := by
    apply fits_choice
    intro name hname
    obtain ⟨t, _, rfl⟩ := Option.map_eq_some_iff.1 hname
    cases t <;> decide
  have hparts : ∀ f ∈ m.listing, ∃ k,
      (slots.map fun s => (s.name, s.required, s.shape)).find? (fun k => k.1 = f.1) = some k ∧
        Fits k.2.2 f.2 := by
    simp only [listing, List.forall_mem_cons]
    exact ⟨⟨_, rfl, .text m.role⟩, ⟨_, rfl, hchannel⟩, ⟨_, rfl, fits_text _⟩,
      ⟨_, rfl, fits_text _⟩, ⟨_, rfl, .any hn⟩, ⟨_, rfl, htermination⟩, List.forall_mem_nil _⟩
  apply Fits.record_of_known (by decide) ((hperm.map Prod.fst).nodup_iff.2 m.keys_listing)
  exact fun f hf => hparts f (hperm.mem_iff.1 hf)

theorem slots_keep_sorted : ∀ slot ∈ slots.map (·.toSlot), slot.Keeps Json.Sorted
    fun m : Message => m.content.Sorted := by
  simp only [slots, List.map_cons, List.map_nil, List.forall_mem_cons]
  refine ⟨?role, ?channel, ?recipient, ?contentType, ?content, ?termination,
    List.forall_mem_nil _⟩
  case content =>
    apply ShapedSlot.ofDefault_keeps
    intro j a before hj ha _
    cases ha
    exact hj
  all_goals exact ShapedSlot.ofDefault_keeps fun _ _ _ _ _ hb => hb

theorem content_sorted (hj : j.Sorted) (h : ofJson j = .ok m) : m.content.Sorted := by
  let r : Json.Record Json Message := ⟨"Message", slots.map (·.toSlot), {}⟩
  have hread : r.ofJson j = .ok m := h
  exact Json.Record.ofJson_keeps (P := fun m : Message => m.content.Sorted) (r := r)
    slots_keep_sorted trivial (Json.sorted_of_mem_parts hj) hread

end Message

namespace Envelope

/-- The value is an object of the version and of a list of values that tell the messages. -/
def ToldBy (e : Envelope) (j : Json) : Prop :=
  ∃ items, j = .obj [("HRFVersion", .str e.version), ("messages", .arr items)] ∧
    List.Forall₂ Message.ToldBy e.messages items

variable {e : Envelope} {j : Json}

theorem toldBy_map {write : Message → Json} (h : ∀ m : Message, m.ToldBy (write m)) :
    e.ToldBy
      (.obj [("HRFVersion", .str e.version), ("messages", .arr (e.messages.map write))]) := by
  refine ⟨_, rfl, ?_⟩
  rw [List.forall₂_map_right_iff, List.forall₂_same]
  exact fun m _ => h m

theorem toldBy_listing (e : Envelope) : e.ToldBy (.obj e.listing) :=
  toldBy_map Message.toldBy_listing

theorem toldBy_toJson (e : Envelope) : e.ToldBy e.toJson := toldBy_map Message.toldBy_toJson

theorem ascending_fields (version messages : Json) :
    Entries.Ascending [("HRFVersion", version), ("messages", messages)] := by
  have hkeys : ["HRFVersion", "messages"].Pairwise (· < ·) := by decide
  exact Entries.ascending_of_keys hkeys

theorem sort_of_toldBy (h : e.ToldBy j) (hs : ∀ m ∈ e.messages, m.content.Sorted) :
    j.sort = e.toJson := by
  obtain ⟨items, rfl, hitems⟩ := h
  have hsort : Json.sortItems items = e.messages.map Message.toJson := by
    generalize e.messages = ms at hs hitems
    induction hitems with
    | nil => rfl
    | @cons m k ms items hm _ ih =>
        obtain ⟨hms, hrest⟩ := List.forall_mem_cons.1 hs
        rw [Json.sortItems, Message.sort_of_toldBy hm hms, ih hrest, List.map_cons]
  simp only [Json.sort, Json.sortFields, hsort]
  exact congrArg Json.obj (Entries.ofList_of_ascending (ascending_fields _ _))

theorem depth_le_of_toldBy (h : e.ToldBy j) {d : Nat} (hd : ∀ m ∈ e.messages, m.content.depth ≤ d) :
    j.depth ≤ d + 3 := by
  obtain ⟨items, rfl, hitems⟩ := h
  have hdepth : Json.depthItems items ≤ d + 1 := by
    generalize e.messages = ms at hd hitems
    induction hitems with
    | nil => exact Nat.zero_le _
    | @cons m k ms items hm _ ih =>
        obtain ⟨hmd, hrest⟩ := List.forall_mem_cons.1 hd
        have hle := Message.depth_le_of_toldBy hm
        have hi := ih hrest
        simp only [Json.depthItems]
        omega
  simp only [Json.depth, Json.depthFields]
  omega

theorem fits_of_toldBy (h : e.ToldBy j)
    (hn : ∀ m ∈ e.messages, ∀ n ∈ m.content.numbers, Json.Legible n) :
    Fits decoder.shape j := by
  obtain ⟨items, rfl, hitems⟩ := h
  have hfits : ∀ k ∈ items, Fits Message.decoder.shape k := by
    generalize e.messages = ms at hn hitems
    induction hitems with
    | nil => exact List.forall_mem_nil _
    | cons hm _ ih =>
        obtain ⟨hmn, hrest⟩ := List.forall_mem_cons.1 hn
        exact List.forall_mem_cons.2 ⟨Message.fits_of_toldBy hm hmn, ih hrest⟩
  apply Fits.record_of_known (by decide) (by simp)
  simp only [List.forall_mem_cons]
  exact ⟨⟨_, rfl, .text e.version⟩, ⟨_, rfl, .listOf hfits⟩, List.forall_mem_nil _⟩

theorem ofJson_toJson (e : Envelope) : ofJson e.toJson = .ok e := by
  have hms : List.Forall₂ Message.StandsIn e.messages (e.messages.map Message.toJson) := by
    rw [List.forall₂_map_right_iff, List.forall₂_same]
    exact fun m _ => m.standsIn_toJson
  exact ofJson_of_heldBy (ascending_fields _ _) ⟨rfl, _, rfl, hms⟩

/-- What begins with a brace is taken for JSON. -/
theorem load_compact_obj (fields : List (String × Json)) (version : String) :
    load (Json.obj fields).compact version =
      (decoder.ofText (Json.obj fields).compact).mapError fun reason =>
        { code := .format, message := "invalid envelope JSON: " ++ reason } := by
  have hhead : InputFormat.ofText (Json.obj fields).compact = .envelope := by
    rw [InputFormat.ofText, if_pos]
    rw [Json.compact, String.toList_ofList, Json.chars_obj]
    rfl
  rw [load, hhead]

/-- An envelope whose contents are in order, with legible numbers and not nested too deep, is loaded
from its JSON text. -/
theorem load_of_toldBy (h : e.ToldBy j) (hs : ∀ m ∈ e.messages, m.content.Sorted)
    (hn : ∀ m ∈ e.messages, ∀ n ∈ m.content.numbers, Json.Legible n)
    (hd : ∀ m ∈ e.messages, m.content.depth ≤ 124) (version : String) :
    load j.compact version = .ok e := by
  have hdepth : j.depth ≤ Json.maxDepth := depth_le_of_toldBy h hd
  have hread : decoder.ofText j.compact = .ok e := by
    apply Json.Decoder.ofText_compact (fits_of_toldBy h hn) hdepth
    rw [sort_of_toldBy h hs]
    exact ofJson_toJson e
  obtain ⟨items, rfl, _⟩ := h
  rw [load_compact_obj, hread]
  rfl

theorem slots_keep_sorted : ∀ slot ∈ slots.map (·.toSlot), slot.Keeps Json.Sorted
    fun e : Envelope => ∀ m ∈ e.messages, m.content.Sorted := by
  simp only [slots, List.map_cons, List.map_nil, List.forall_mem_cons]
  refine ⟨?version, ?messages, List.forall_mem_nil _⟩
  case version => exact ShapedSlot.ofDefault_keeps fun _ _ _ _ _ hb => hb
  case messages =>
    apply ShapedSlot.ofDefault_keeps
    intro j messages before hj hmessages _ m hm
    obtain ⟨k, hk, hread⟩ := Json.exists_of_mem_asList hmessages m hm
    exact Message.content_sorted (Json.sorted_of_mem_parts hj k hk) hread

theorem contents_sorted_of_load {text version : String} (h : load text version = .ok e) :
    ∀ m ∈ e.messages, m.content.Sorted := by
  unfold load at h
  split at h
  · rw [mapError_eq_ok_iff, Json.Decoder.ofText, mapError_eq_ok_iff] at h
    obtain ⟨j, hj, hread⟩ := Json.Decoder.exists_of_ofChars h
    let r : Json.Record Json Envelope := ⟨"Envelope", slots.map (·.toSlot), {}⟩
    have hrecord : r.ofJson j = .ok e := hread
    exact Json.Record.ofJson_keeps (P := fun e : Envelope => ∀ m ∈ e.messages, m.content.Sorted)
      (r := r) slots_keep_sorted (List.forall_mem_nil _) (Json.sorted_of_mem_parts hj) hrecord
  · split at h
    · rename_i ms hparse
      cases h
      intro m hm
      obtain ⟨n, hn, rfl⟩ := List.mem_map.1 hm
      have hcontent : (unframed n).content = n.content := by
        unfold unframed
        split <;> rfl
      rw [hcontent]
      exact Wire.sorted_of_parse hparse n hn
    · cases h

/-- An envelope whose contents hold whole numbers only and are nested 124 deep at most is loaded
from its compact JSON text, whatever the order of fields in it, if its contents are in order, as the
maps of a JSON value are. They are so when the envelope itself was loaded from some text: running
text and JSON lead to the same envelopes. -/
theorem load_compact
    (hn : ∀ m ∈ e.messages, ∀ n ∈ m.content.numbers, ∃ w, n = .whole w)
    (hd : ∀ m ∈ e.messages, m.content.depth ≤ 124) :
    ((∀ m ∈ e.messages, m.content.Sorted) → ∀ version,
      load (Json.obj e.listing).compact version = .ok e ∧
        load e.toJson.compact version = .ok e) ∧
    ∀ text first, load text first = .ok e → ∀ version,
      load (Json.obj e.listing).compact version = .ok e ∧
        load e.toJson.compact version = .ok e := by
  have hlegible : ∀ m ∈ e.messages, ∀ n ∈ m.content.numbers, Json.Legible n := by
    intro m hm n hnum
    obtain ⟨w, rfl⟩ := hn m hm n hnum
    exact Json.legible_whole w
  have hload (hs : ∀ m ∈ e.messages, m.content.Sorted) (version : String) :
      load (Json.obj e.listing).compact version = .ok e ∧
        load e.toJson.compact version = .ok e :=
    ⟨load_of_toldBy e.toldBy_listing hs hlegible hd version,
      load_of_toldBy e.toldBy_toJson hs hlegible hd version⟩
  exact ⟨hload, fun text first h => hload (contents_sorted_of_load h)⟩

/-- A quotation, and an answer that is marked as JSON. -/
def quotation : String :=
  "<|start|>user<|message|>say \"hi\"<|end|>" ++
    "<|start|>assistant<|channel|>final<|constrain|>json<|message|>" ++
    "\x7b\"b\":[1,null],\"a\":\"\\n\"\x7d<|return|>"

/-- The envelope that the quotation is loaded as, the fields of the answer in order. -/
def quoted : Envelope where
  version := "1.0"
  messages := [.plain "user" "say \"hi\"",
    { role := "assistant", channel := some .final, contentType := some "json",
      content := .obj [("a", .str "\n"), ("b", .arr [.num (.whole (.ofLength 1)), .null])],
      termination := some .returned }]

/-- Read from running text under one version, it is loaded from its JSON text under another. -/
theorem load_compact_quoted :
    load quotation "1.0" = .ok quoted ∧ load (Json.obj quoted.listing).compact "2.0" = .ok quoted ∧
      load quoted.toJson.compact "2.0" = .ok quoted := by
  have hn : ∀ m ∈ quoted.messages, ∀ n ∈ m.content.numbers, ∃ w, n = .whole w := by
    simp [quoted, Message.plain, Json.numbers, Json.fieldNumbers, Json.itemNumbers]
  have hd : ∀ m ∈ quoted.messages, m.content.depth ≤ 124 := by decide
  have hload : load quotation "1.0" = .ok quoted := by
    rw [← toOption_eq_some_iff]
    decide +kernel
  exact ⟨hload, (load_compact hn hd).2 quotation "1.0" hload "2.0"⟩

end Envelope
end Dialogue
