import Dialogue.Template
import Dialogue.Proofs.Expression.Grammar

/-!
# Templates and their holes

A hole holds no opening brace behind its first two characters, so two holes never overlap: a hole
that begins in front of another one ends in front of it. A template is therefore split into holes
and texts without holes in one way only, and that is the way in which its pieces are read.

`Split` carries the template that it splits. Filling it puts the value of every hole's path in the
place of the hole, the path taken as an expression, and leaves the texts between the holes alone;
the text of a value is never read again.
-/
namespace Dialogue.Template

/-- A path between double braces, with blanks around it if need be. -/
structure Hole where
  before : List Char
  root : Root
  segments : List String
  after : List Char
  before_blank : ∀ c ∈ before, Text.isBlank c = true
  segments_valid : ∀ s ∈ segments, IsSegment s
  after_blank : ∀ c ∈ after, Text.isBlank c = true

namespace Hole

def path (hole : Hole) : List Char := hole.root.name.toList ++ segmentsText hole.segments

def inner (hole : Hole) : List Char := hole.before ++ (hole.path ++ (hole.after ++ ['}', '}']))

def text (hole : Hole) : List Char := '{' :: '{' :: hole.inner

theorem isPathChar_of_mem_path (hole : Hole) : ∀ c ∈ hole.path, isPathChar c = true := by
  intro c hc
  rcases List.mem_append.1 hc with hc | hc
  · exact isPathChar_of_mem_name hole.root c hc
  · exact isPathChar_of_mem_segmentsText hole.segments_valid c hc

theorem path_ne_nil (hole : Hole) : hole.path ≠ [] := by
  cases hroot : hole.root <;> simp [path, hroot, Root.name]

theorem inner_ne_nil (hole : Hole) : hole.inner ≠ [] := by
  simp [inner, hole.path_ne_nil]

theorem not_mem_inner (hole : Hole) : '{' ∉ hole.inner := by
  intro h
  rcases List.mem_append.1 h with h | h
  · exact absurd (hole.before_blank _ h) (by decide)
  rcases List.mem_append.1 h with h | h
  · exact absurd (hole.isPathChar_of_mem_path _ h) (by decide)
  rcases List.mem_append.1 h with h | h
  · exact absurd (hole.after_blank _ h) (by decide)
  · exact absurd h (by decide)

end Hole

theorem trimStart_path (hole : Hole) (rest : List Char) :
    Text.trimStart (hole.path ++ rest) = hole.path ++ rest := by
  obtain ⟨c, cs, hc⟩ := List.exists_cons_of_ne_nil hole.path_ne_nil
  have hpath : isPathChar c = true := hole.isPathChar_of_mem_path c (hc ▸ List.mem_cons_self)
  rw [hc, List.cons_append]
  exact List.dropWhile_cons_of_neg (by simp [Expr.isBlank_of_isPathChar hpath])

theorem endsPath_after (hole : Hole) (rest : List Char) :
    EndsPath (hole.after ++ (['}', '}'] ++ rest)) := by
  cases ha : hole.after with
  | nil => exact endsPath_cons (by decide) _
  | cons c cs =>
      have hblank : Text.isBlank c = true := hole.after_blank c (ha ▸ List.mem_cons_self)
      have hpath : isPathChar c ≠ true := fun h => by simp [Expr.isBlank_of_isPathChar h] at hblank
      apply endsPath_cons
      simpa [isPathChar] using hpath

theorem readHole?_text (hole : Hole) (rest : List Char) :
    readHole? (hole.text ++ rest) = some ((hole.root, hole.segments), rest) := by
  have hopen : Text.dropLeading? ['{', '{'] (hole.text ++ rest) = some (hole.inner ++ rest) :=
    Text.dropLeading?_eq_some.2 rfl
  have hstart : Text.trimStart (hole.inner ++ rest) =
      hole.path ++ (hole.after ++ (['}', '}'] ++ rest)) := by
    simp only [Hole.inner, List.append_assoc]
    rw [Text.trimStart_append hole.before_blank, trimStart_path]
  have hread := readPath?_append hole.root hole.segments_valid (endsPath_after hole rest)
  rw [← List.append_assoc] at hread
  have hend : Text.trimStart (hole.after ++ (['}', '}'] ++ rest)) = ['}', '}'] ++ rest :=
    Text.trimStart_append hole.after_blank _
  have hclose : Text.dropLeading? ['}', '}'] (['}', '}'] ++ rest) = some rest :=
    Text.dropLeading?_eq_some.2 rfl
  rw [readHole?, hopen]
  simp only [Option.bind_eq_bind, Option.bind_some, hstart, Hole.path, hread, hend, hclose]
  rfl

theorem exists_hole_of_readHole? {cs rest : List Char} {root : Root} {segments : List String}
    (h : readHole? cs = some ((root, segments), rest)) :
    ∃ hole : Hole, hole.root = root ∧ hole.segments = segments ∧ cs = hole.text ++ rest := by
  unfold readHole? at h
  simp only [Option.bind_eq_bind, Option.bind_eq_some_iff] at h
  obtain ⟨opened, hopen, ⟨⟨root', segments'⟩, behind⟩, hpath, closed, hclose, he⟩ := h
  cases he
  obtain ⟨hstart, hvalid⟩ := eq_of_readPath? hpath
  refine ⟨⟨opened.takeWhile Text.isBlank, root, segments, behind.takeWhile Text.isBlank,
    fun c hc => List.mem_takeWhile_imp hc, hvalid, fun c hc => List.mem_takeWhile_imp hc⟩,
    rfl, rfl, ?_⟩
  have hopened : opened.takeWhile Text.isBlank ++ Text.trimStart opened = opened :=
    List.takeWhile_append_dropWhile
  have hbehind : behind.takeWhile Text.isBlank ++ Text.trimStart behind = behind :=
    List.takeWhile_append_dropWhile
  rw [hstart, ← hbehind, Text.dropLeading?_eq_some.1 hclose] at hopened
  rw [Text.dropLeading?_eq_some.1 hopen]
  conv_lhs => rw [← hopened]
  simp [Hole.text, Hole.inner, Hole.path]

theorem takeWhile_inner (hole : Hole) : hole.inner.takeWhile Text.isBlank = hole.before := by
  obtain ⟨c, cs, hc⟩ := List.exists_cons_of_ne_nil hole.path_ne_nil
  have hpath : isPathChar c = true := hole.isPathChar_of_mem_path c (hc ▸ List.mem_cons_self)
  rw [Hole.inner, List.takeWhile_append_of_pos hole.before_blank, hc, List.cons_append,
    List.takeWhile_cons_of_neg (by simp [Expr.isBlank_of_isPathChar hpath]), List.append_nil]

/-- Two texts that begin with a hole agree only if the holes do. -/
theorem Hole.text_append_inj {hole other : Hole} {xs ys : List Char}
    (h : hole.text ++ xs = other.text ++ ys) : hole = other ∧ xs = ys := by
  have hread := readHole?_text hole xs
  rw [h, readHole?_text other ys] at hread
  simp only [Option.some.injEq, Prod.mk.injEq] at hread
  obtain ⟨⟨hroot, hsegments⟩, rfl⟩ := hread
  refine ⟨?_, rfl⟩
  have hinner : hole.inner = other.inner := by
    have htext := List.append_cancel_right h
    rw [Hole.text, Hole.text] at htext
    exact List.tail_eq_of_cons_eq (List.tail_eq_of_cons_eq htext)
  have hbefore : hole.before = other.before := by
    rw [← takeWhile_inner hole, hinner, takeWhile_inner other]
  have hafter : hole.after = other.after := by
    simp only [Hole.inner, Hole.path, hbefore, hroot, hsegments] at hinner
    exact List.append_cancel_right (List.append_cancel_left (List.append_cancel_left hinner))
  cases hole
  cases other
  simp_all

/-- No hole occurs in the text. -/
def HoleFree (cs : List Char) : Prop := ∀ hole : Hole, ¬ hole.text <:+: cs

theorem HoleFree.mono {xs ys : List Char} (h : HoleFree ys) (hx : xs <:+: ys) : HoleFree xs :=
  fun hole hi => h hole (hi.trans hx)

theorem holeFree_nil : HoleFree [] := by
  intro hole h
  exact absurd (List.infix_nil.1 h) (List.cons_ne_nil _ _)

/-- A hole that begins in front of another one ends in front of it. -/
theorem Hole.prefix_of_prefix_append {hole other : Hole} {xs ys : List Char} (hx : xs ≠ [])
    (h : hole.text <+: xs ++ (other.text ++ ys)) : hole.text <+: xs := by
  obtain ⟨zs, h⟩ := h
  rcases List.append_eq_append_iff.1 h with ⟨as, hs, -⟩ | ⟨bs, hs, hb⟩
  · exact ⟨as, hs.symm⟩
  -- behind `xs` the hole would go on with the opening braces of the other one
  · obtain ⟨x, xs, rfl⟩ := List.exists_cons_of_ne_nil hx
    cases bs with
    | nil => exact ⟨[], by rw [hs, List.append_nil, List.append_nil]⟩
    | cons b bs =>
        injection hb with hb hrest
        injection hs with hs hinner
        subst hb
        exfalso
        cases xs with
        | nil =>
            injection hinner with _ hinner
            subst hinner
            obtain ⟨c, cs, hc⟩ := List.exists_cons_of_ne_nil hole.inner_ne_nil
            rw [hc] at hrest
            injection hrest with hrest _
            exact hole.not_mem_inner (hc ▸ hrest ▸ List.mem_cons_self)
        | cons y xs =>
            injection hinner with _ hinner
            exact hole.not_mem_inner (hinner ▸ List.mem_append_right xs List.mem_cons_self)

theorem readHole?_of_holeFree {xs : List Char} (h : HoleFree xs) : readHole? xs = none := by
  cases hread : readHole? xs with
  | none => rfl
  | some found =>
      obtain ⟨hole, -, -, hxs⟩ := exists_hole_of_readHole? hread
      exact absurd ⟨[], found.2, hxs.symm⟩ (h hole)

/-- No hole is read in front of the one behind a text without holes. -/
theorem readHole?_of_holeFree_append {xs : List Char} (h : HoleFree xs) (hx : xs ≠ [])
    (hole : Hole) (rest : List Char) : readHole? (xs ++ (hole.text ++ rest)) = none := by
  cases hread : readHole? (xs ++ (hole.text ++ rest)) with
  | none => rfl
  | some found =>
      obtain ⟨other, -, -, htext⟩ := exists_hole_of_readHole? hread
      have hbegins : other.text <+: xs := Hole.prefix_of_prefix_append hx ⟨found.2, htext.symm⟩
      exact absurd hbegins.isInfix (h other)

theorem HoleFree.cons {c : Char} {cs rest : List Char} (h : HoleFree cs)
    (hread : readHole? (c :: (cs ++ rest)) = none) : HoleFree (c :: cs) := by
  intro hole hi
  rcases List.infix_cons_iff.1 hi with ⟨ys, hys⟩ | hi
  · rw [← List.cons_append, ← hys, List.append_assoc, readHole?_text] at hread
    cases hread
  · exact h hole hi

theorem piecesAfter_append (skipped rest : List Char) :
    piecesAfter skipped.length (skipped ++ rest) = piecesAfter 0 rest := by
  induction skipped with
  | nil => rfl
  | cons c skipped ih => exact ih

theorem piecesAfter_hole (hole : Hole) (rest : List Char) :
    piecesAfter 0 (hole.text ++ rest) =
      .hole hole.root hole.segments :: piecesAfter 0 rest := by
  have hread := readHole?_text hole rest
  have hlength : ('{' :: (hole.inner ++ rest)).length - rest.length =
      ('{' :: hole.inner).length := by
    simp only [List.length_cons, List.length_append]
    omega
  have hskip := piecesAfter_append ('{' :: hole.inner) rest
  rw [Hole.text, List.cons_append, List.cons_append] at hread ⊢
  rw [piecesAfter, hread]
  simp only [hlength]
  rw [← List.cons_append, hskip]

theorem piecesAfter_char {c : Char} {cs : List Char} (h : readHole? (c :: cs) = none) :
    piecesAfter 0 (c :: cs) = .char c :: piecesAfter 0 cs := by
  rw [piecesAfter, h]

theorem piecesAfter_of_holeFree {xs : List Char} (h : HoleFree xs) :
    piecesAfter 0 xs = xs.map .char := by
  induction xs with
  | nil => rfl
  | cons c xs ih =>
      have htail : HoleFree xs := h.mono (List.suffix_cons c xs).isInfix
      rw [piecesAfter_char (readHole?_of_holeFree h), ih htail, List.map_cons]

theorem piecesAfter_holeFree_append {xs : List Char} (h : HoleFree xs) (hole : Hole)
    (rest : List Char) :
    piecesAfter 0 (xs ++ (hole.text ++ rest)) =
      xs.map .char ++ .hole hole.root hole.segments :: piecesAfter 0 rest := by
  induction xs with
  | nil => exact piecesAfter_hole hole rest
  | cons c xs ih =>
      have htail : HoleFree xs := h.mono (List.suffix_cons c xs).isInfix
      have hread := readHole?_of_holeFree_append h (List.cons_ne_nil c xs) hole rest
      rw [List.cons_append] at hread ⊢
      rw [piecesAfter_char hread, ih htail]
      rfl

def partsText (parts : List (List Char × Hole)) : List Char :=
  parts.flatMap fun part => part.1 ++ part.2.text

/-- A text as a sequence of holes and of texts without holes around them. -/
structure Split (cs : List Char) where
  parts : List (List Char × Hole)
  last : List Char
  parts_free : ∀ part ∈ parts, HoleFree part.1
  last_free : HoleFree last
  text_eq : partsText parts ++ last = cs

theorem partsText_cons (part : List Char × Hole) (parts : List (List Char × Hole))
    (last : List Char) :
    partsText (part :: parts) ++ last = part.1 ++ (part.2.text ++ (partsText parts ++ last)) := by
  simp [partsText]

theorem HoleFree.eq_nil {xs rest rest' : List Char} {hole other : Hole} (h : HoleFree xs)
    (he : hole.text ++ rest = xs ++ (other.text ++ rest')) : xs = [] := by
  by_contra hx
  have hbegins : hole.text <+: xs := Hole.prefix_of_prefix_append hx ⟨rest, he⟩
  exact h hole hbegins.isInfix

/-- The first hole of a text is the one that stands behind a text without holes. -/
theorem first_hole_unique {xs ys rest rest' : List Char} {hole other : Hole} (hx : HoleFree xs)
    (hy : HoleFree ys) (h : xs ++ (hole.text ++ rest) = ys ++ (other.text ++ rest')) :
    xs = ys ∧ hole = other ∧ rest = rest' := by
  rcases List.append_eq_append_iff.1 h with ⟨as, hys, he⟩ | ⟨bs, hxs, he⟩
  · have has : as = [] := (hy.mono ⟨xs, [], by simp [hys]⟩).eq_nil he
    rw [has, List.append_nil] at hys
    rw [has, List.nil_append] at he
    exact ⟨hys.symm, Hole.text_append_inj he⟩
  · have hbs : bs = [] := (hx.mono ⟨ys, [], by simp [hxs]⟩).eq_nil he
    rw [hbs, List.append_nil] at hxs
    rw [hbs, List.nil_append] at he
    obtain ⟨hhole, hrest⟩ := Hole.text_append_inj he
    exact ⟨hxs, hhole.symm, hrest.symm⟩

theorem parts_unique {parts parts' : List (List Char × Hole)} {last last' : List Char}
    (h : ∀ part ∈ parts, HoleFree part.1) (h' : ∀ part ∈ parts', HoleFree part.1)
    (hlast : HoleFree last) (hlast' : HoleFree last')
    (he : partsText parts ++ last = partsText parts' ++ last') :
    parts = parts' ∧ last = last' := by
  induction parts generalizing parts' with
  | nil =>
      cases parts' with
      | nil => exact ⟨rfl, he⟩
      | cons part parts' =>
          rw [partsText_cons] at he
          exact absurd ⟨part.1, _, by rw [List.append_assoc]; exact he.symm⟩ (hlast part.2)
  | cons part parts ih =>
      cases parts' with
      | nil =>
          rw [partsText_cons] at he
          exact absurd ⟨part.1, _, by rw [List.append_assoc]; exact he⟩ (hlast' part.2)
      | cons part' parts' =>
          rw [partsText_cons, partsText_cons] at he
          obtain ⟨htext, hhole, hrest⟩ :=
            first_hole_unique (h part List.mem_cons_self) (h' part' List.mem_cons_self) he
          obtain ⟨hparts, hlasts⟩ := ih (fun p hp => h p (List.mem_cons_of_mem part hp))
            (fun p hp => h' p (List.mem_cons_of_mem part' hp)) hrest
          exact ⟨by rw [Prod.ext htext hhole, hparts], hlasts⟩

theorem Split.unique {cs : List Char} (split other : Split cs) : split = other := by
  have he := split.text_eq.trans other.text_eq.symm
  obtain ⟨hparts, hlast⟩ := parts_unique split.parts_free other.parts_free split.last_free
    other.last_free he
  cases split
  cases other
  simp_all

theorem exists_split (cs : List Char) : Nonempty (Split cs) := by
  induction hn : cs.length using Nat.strong_induction_on generalizing cs with
  | _ n ih =>
      subst hn
      -- a hole at the front is a part of its own, any other character joins the first text
      cases hread : readHole? cs with
      | some found =>
          obtain ⟨hole, -, -, htext⟩ := exists_hole_of_readHole? hread
          have hshort : found.2.length < cs.length := by
            rw [htext]
            simp only [Hole.text, List.length_append, List.length_cons]
            omega
          obtain ⟨parts, last, hparts, hlast, he⟩ := ih _ hshort found.2 rfl
          refine ⟨⟨([], hole) :: parts, last, ?_, hlast, by rw [partsText_cons, he, htext]; rfl⟩⟩
          exact List.forall_mem_cons.2 ⟨holeFree_nil, hparts⟩
      | none =>
          cases cs with
          | nil => exact ⟨⟨[], [], nofun, holeFree_nil, rfl⟩⟩
          | cons c cs =>
              obtain ⟨parts, last, hparts, hlast, he⟩ := ih _ (Nat.lt_succ_self _) cs rfl
              cases parts with
              | nil =>
                  have hfree : HoleFree cs := he ▸ hlast
                  rw [← List.append_nil cs] at hread
                  exact ⟨⟨[], c :: cs, nofun, hfree.cons hread, rfl⟩⟩
              | cons part parts =>
                  obtain ⟨hfirst, hothers⟩ := List.forall_mem_cons.1 hparts
                  rw [partsText_cons] at he
                  refine ⟨⟨(c :: part.1, part.2) :: parts, last, ?_, hlast, ?_⟩⟩
                  · exact List.forall_mem_cons.2 ⟨hfirst.cons (he ▸ hread), hothers⟩
                  · rw [partsText_cons, List.cons_append, he]

/-- What stands in the place of a hole: the value of its path, taken as an expression. -/
def Hole.filled (ctx : Context) (hole : Hole) : List Char :=
  (ctx.evaluate (String.ofList ('$' :: hole.path))).shown.toList

def Split.filled {cs : List Char} (ctx : Context) (split : Split cs) : List Char :=
  (split.parts.flatMap fun part => part.1 ++ part.2.filled ctx) ++ split.last

theorem fill_hole (ctx : Context) (hole : Hole) :
    fill ctx (.hole hole.root hole.segments) = hole.filled ctx := by
  have hpath : (Expr.path hole.root hole.segments).Spelled ('$' :: hole.path) :=
    .path hole.root hole.segments_valid
  rw [fill, Hole.filled, Context.evaluate, hpath.ofText_eq, Expr.evaluate]

theorem flatMap_fill_char (ctx : Context) (cs : List Char) :
    (cs.map Piece.char).flatMap (fill ctx) = cs := by
  induction cs with
  | nil => rfl
  | cons c cs ih => simp [fill, ih]

theorem flatMap_fill_parts (ctx : Context) {parts : List (List Char × Hole)} {last : List Char}
    (h : ∀ part ∈ parts, HoleFree part.1) (hlast : HoleFree last) :
    (piecesAfter 0 (partsText parts ++ last)).flatMap (fill ctx) =
      (parts.flatMap fun part => part.1 ++ part.2.filled ctx) ++ last := by
  induction parts with
  | nil =>
      change (piecesAfter 0 last).flatMap (fill ctx) = last
      rw [piecesAfter_of_holeFree hlast, flatMap_fill_char]
  | cons part parts ih =>
      obtain ⟨hfirst, hothers⟩ := List.forall_mem_cons.1 h
      rw [partsText_cons, piecesAfter_holeFree_append hfirst, List.flatMap_append,
        flatMap_fill_char, List.flatMap_cons, fill_hole, ih hothers]
      simp only [List.flatMap_cons, List.append_assoc]

/-- Every template is split into holes and texts without holes in exactly one way, and rendering it
puts the value of each hole's path, taken as an expression, in the place of the hole. -/
theorem render_fills_only_split (template : String) :
    ∃ split : Split template.toList, (∀ other : Split template.toList, other = split) ∧
      ∀ ctx : Context, ctx.render template = String.ofList (split.filled ctx) := by
  obtain ⟨split⟩ := exists_split template.toList
  refine ⟨split, fun other => other.unique split, ?_⟩
  intro ctx
  have hfill := flatMap_fill_parts ctx split.parts_free split.last_free
  rw [split.text_eq] at hfill
  rw [Context.render, pieces, hfill, Split.filled]

/-- A value that makes a hole of the text around it is not filled again. -/
example :
    let ctx := ({} : Context).bind "a" (.str "\x7b\x7bvars")
    ctx.render "\x7b\x7b vars.a \x7d\x7d.a\x7d\x7d" = "\x7b\x7bvars.a\x7d\x7d" := by
  decide +kernel

end Dialogue.Template
