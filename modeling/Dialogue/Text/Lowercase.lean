import Dialogue.Text.CaseTable
import Dialogue.Text.Ranges

/-!
# Lower case

The full lower case of a text: every character is replaced by its lower case, which for `İ` is two
characters. A capital sigma becomes `ς` at the end of a word and `σ` elsewhere; a word ends where a
letter with case stands before the sigma and none after it, characters without case apart.

Two names count as one name when their lower cases agree. Two characters count as one in any case
when their folded forms agree.
-/
namespace Dialogue.Text

def isCased (c : Char) : Bool := inRanges casedRanges c

def isCaseIgnorable (c : Char) : Bool := inRanges caseIgnorableRanges c

def CaseRun.covers (run : CaseRun) (c : Char) : Bool :=
  run.first ≤ c.toNat && c.toNat ≤ run.last && (c.toNat - run.first) % run.stride == 0

/-- The lower case of one character, sigma taken as if inside a word. -/
def lowerChar (c : Char) : List Char :=
  if c.toNat < 128 then [c.toLower]
  else if c.toNat = 0x130 then ['i', Char.ofNat 0x307]
  else
    match lowercaseRuns.find? (·.covers c) with
    | some run => [Char.ofNat ((c.toNat : Int) + run.shift).toNat]
    | none => [c]

/-- The nearest character that is not passed over is a letter with case. -/
def meetsCased (cs : List Char) : Bool :=
  match cs.dropWhile isCaseIgnorable with
  | [] => false
  | c :: _ => isCased c

/-- The lower case of a text that follows `before`, which is given backwards. -/
def lowerAfter (before : List Char) : List Char → List Char
  | [] => []
  | c :: cs =>
      let lower :=
        if c = 'Σ' then [if meetsCased before && !meetsCased cs then 'ς' else 'σ'] else lowerChar c
      lower ++ lowerAfter (c :: before) cs

/-- The lower case of a text. -/
def lowercase (s : String) : String := String.ofList (lowerAfter [] s.toList)

/-- Characters in lower case that count as another one in any case. -/
def foldings : List (Nat × Nat) :=
  [(0xB5, 0x3BC), (0x17F, 0x73), (0x345, 0x3B9), (0x3C2, 0x3C3), (0x3D0, 0x3B2), (0x3D1, 0x3B8),
    (0x3D5, 0x3C6), (0x3D6, 0x3C0), (0x3F0, 0x3BA), (0x3F1, 0x3C1), (0x3F5, 0x3B5),
    (0x1C80, 0x432), (0x1C81, 0x434), (0x1C82, 0x43E), (0x1C83, 0x441), (0x1C84, 0x442),
    (0x1C85, 0x442), (0x1C86, 0x44A), (0x1C87, 0x463), (0x1C88, 0xA64B), (0x1E9B, 0x1E61),
    (0x1FBE, 0x3B9), (0x1FD3, 0x390), (0x1FE3, 0x3B0), (0xFB05, 0xFB06)]

/-- The form that all cases of a character share. -/
def folded (c : Char) : Char :=
  match foldings.lookup c.toNat, lowerChar c with
  | some n, _ => Char.ofNat n
  | none, [d] => d
  | none, _ => c

/-- The characters whose lower case is a given one. -/
def capitals (d : Char) : List Char :=
  lowercaseRuns.filterMap fun run =>
    let c := Char.ofNat ((d.toNat : Int) - run.shift).toNat
    if run.covers c then some c else none

/-- All characters that count as one with a character in any case. -/
def caseVariants (c : Char) : List Char :=
  let d := folded c
  let others := foldings.filterMap fun (n, m) => if m = d.toNat then some (Char.ofNat n) else none
  c :: d :: capitals d ++ others

end Dialogue.Text
