import Dialogue.Text.Category
import Dialogue.Text.Lowercase

/-!
# Patterns

A pattern describes parts of texts. `Pattern.occursIn` finds out whether some part of a text is
described. It follows sets of places: `ends` gives every place where what began at a place may end,
so a repetition needs no more rounds than there are places, and no choice is ever taken back.
-/
namespace Dialogue

/-- A set of characters. -/
inductive CharSet where
  /-- From one code point to another. -/
  | range (first last : Nat)
  | named (c : Text.NamedClass)
  | none
  | not (s : CharSet)
  | or (s t : CharSet)
  | and (s t : CharSet)
  | xor (s t : CharSet)
  deriving Repr, DecidableEq

namespace CharSet

def contains : CharSet → Char → Bool
  | range first last, c => first ≤ c.toNat && c.toNat ≤ last
  | named k, c => k.contains c
  | none, _ => false
  | not s, c => !s.contains c
  | or s t, c => s.contains c || t.contains c
  | and s t, c => s.contains c && t.contains c
  | xor s t, c => s.contains c != t.contains c

def single (c : Char) : CharSet := range c.toNat c.toNat

def ofRanges : List (Nat × Nat) → CharSet
  | [] => none
  | (first, last) :: rest => or (range first last) (ofRanges rest)

def ofChars (cs : List Char) : CharSet := ofRanges (cs.map fun c => (c.toNat, c.toNat))

def digit : CharSet := range 0x30 0x39

def letter : CharSet := ofRanges [(0x41, 0x5A), (0x61, 0x7A)]

/-- Letters, digits and the low line. -/
def word : CharSet := or (or letter digit) (single '_')

def space : CharSet :=
  ofRanges [(0x09, 0x0D), (0x20, 0x20), (0xA0, 0xA0), (0x2003, 0x2003), (0x2029, 0x2029),
    (0xFEFF, 0xFEFF)]

/-- The digits of ASCII or of any script. -/
def digitOf (wide : Bool) : CharSet := if wide then named (.categories [.decimalNumber]) else digit

/-- Letters, digits and the low line, or what stands in words of any script. -/
def wordOf (wide : Bool) : CharSet := if wide then named .word else word

def spaceOf (wide : Bool) : CharSet := if wide then named .blank else space

/-- As `contains` where each part of the set has every case of its letters. -/
def containsAnyCase : CharSet → Char → Bool
  | range first last, c =>
      (Text.caseVariants c).any fun d => first ≤ d.toNat && d.toNat ≤ last
  | named k, c => (Text.caseVariants c).any k.contains
  | none, _ => false
  | not s, c => !s.containsAnyCase c
  | or s t, c => s.containsAnyCase c || t.containsAnyCase c
  | and s t, c => s.containsAnyCase c && t.containsAnyCase c
  | xor s t, c => s.containsAnyCase c != t.containsAnyCase c

end CharSet

/-- What a part of a text must look like. -/
inductive Pattern where
  | empty
  /-- One character of a set, in any letter case or not. -/
  | one (anyCase : Bool) (s : CharSet)
  | seq (p q : Pattern)
  | or (p q : Pattern)
  /-- At least `least` and perhaps at most `most` times in a row. -/
  | repeated (p : Pattern) (least : Nat) (most : Option Nat)
  /-- Nothing, where a text begins; or a line, if `lines`. -/
  | start (lines : Bool)
  /-- Nothing, where a text ends; or a line, if `lines`. -/
  | stop (lines : Bool)
  /-- Nothing, where a word begins or ends; or nowhere else, if not `wanted`. -/
  | edge (wanted : Bool)
  /-- Nothing, where what follows looks so; or does not, if not `wanted`. -/
  | before (wanted : Bool) (p : Pattern)
  /-- Nothing, where what precedes looks so; or does not, if not `wanted`. -/
  | after (wanted : Bool) (p : Pattern)
  deriving Repr, DecidableEq

namespace Pattern

/-- Some part of the pattern is about what follows or precedes. -/
def looksAround : Pattern → Bool
  | before _ _ | after _ _ => true
  | seq p q | or p q => p.looksAround || q.looksAround
  | repeated p _ _ => p.looksAround
  | _ => false

/-- Apply a function that often. -/
def iterate {α : Type} (f : α → α) : Nat → α → α
  | 0, a => a
  | n + 1, a => iterate f n (f a)

/-- The places that further rounds reach, together with those given. -/
def closure (step : Nat → List Nat) (rounds : Nat) (places : List Nat) : List Nat :=
  iterate (fun reached => (reached ++ reached.flatMap step).eraseDups) rounds places

/-- A character that stands in words of any script. -/
def isWordAt (text : Array Char) (i : Nat) : Bool := text[i]?.any (CharSet.wordOf true).contains

/-- A word begins or ends at a place. -/
def isEdge (text : Array Char) (i : Nat) : Bool :=
  isWordAt text i != (i != 0 && isWordAt text (i - 1))

/-- The places where what begins at a place may end. -/
def ends (text : Array Char) : Pattern → Nat → List Nat
  | empty, i => [i]
  | one anyCase s, i =>
      match text[i]? with
      | some c => if (if anyCase then s.containsAnyCase c else s.contains c) then [i + 1] else []
      | none => []
  | seq p q, i => ((ends text p i).flatMap (ends text q)).eraseDups
  | or p q, i => (ends text p i ++ ends text q i).eraseDups
  | repeated p least most, i =>
      let first := iterate (fun places => (places.flatMap (ends text p)).eraseDups) least [i]
      match most with
      | none => closure (ends text p) (text.size + 1) first
      | some most => closure (ends text p) (min (most - least) (text.size + 1)) first
  | start lines, i => if i = 0 || (lines && text[i - 1]? == some '\n') then [i] else []
  | stop lines, i => if i = text.size || (lines && text[i]? == some '\n') then [i] else []
  | edge wanted, i => if isEdge text i == wanted then [i] else []
  | before wanted p, i => if (ends text p i).isEmpty != wanted then [i] else []
  | after wanted p, i =>
      if ((List.range (i + 1)).any fun j => (ends text p j).contains i) == wanted then [i] else []

/-- Some part of a text looks as described. -/
def occursIn (p : Pattern) (s : String) : Bool :=
  let text := s.toList.toArray
  (List.range (text.size + 1)).any fun i => !(ends text p i).isEmpty

end Pattern

end Dialogue
