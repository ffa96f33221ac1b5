/-!
# Characters written in letters and digits

A text of any characters can be written in ASCII letters, digits and hyphens: first its ASCII
characters, then numbers that say which other characters stand where. A number is written digit by
digit, the lowest first, and ends at a digit below the threshold of its place; the thresholds follow
a bias that adapts to the numbers before.
-/
namespace Dialogue.Text.Punycode

def digitChar (d : Nat) : Char := Char.ofNat (if d < 26 then 0x61 + d else 0x30 + (d - 26))

def digitValue? (c : Char) : Option Nat :=
  if 'a' ≤ c ∧ c ≤ 'z' then some (c.toNat - 0x61)
  else if 'A' ≤ c ∧ c ≤ 'Z' then some (c.toNat - 0x41)
  else if c.isDigit then some (c.toNat - 0x30 + 26)
  else none

/-- The threshold of the place with weight number `k`. -/
def threshold (k bias : Nat) : Nat :=
  if k ≤ bias then 1 else if bias + 26 ≤ k then 26 else k - bias

/-- Divide down to a bound and count the steps in units of the base. -/
def scaled (delta k : Nat) : Nat × Nat :=
  if 455 < delta then scaled (delta / 35) (k + 36) else (delta, k)
termination_by delta
decreasing_by omega

/-- The bias after a number that placed one of `count` characters. -/
def adapted (delta count : Nat) (first : Bool) : Nat :=
  let delta := if first then delta / 700 else delta / 2
  let (delta, k) := scaled (delta + delta / count) 0
  k + 36 * delta / (delta + 38)

/-- Add a number to `sum`; `fuel` bounds its digits. -/
def readNumber? (bias : Nat) : (fuel k weight sum : Nat) → List Char → Option (Nat × List Char)
  | 0, _, _, _, _ => none
  | _, _, _, _, [] => none
  | fuel + 1, k, weight, sum, c :: cs => do
      let d ← digitValue? c
      let t := threshold k bias
      let sum := sum + d * weight
      if d < t then return (sum, cs) else readNumber? bias fuel (k + 36) (weight * (36 - t)) sum cs

/-- The largest number that a reader holds. -/
def bound : Nat := 4294967296

/-- Put the characters that the numbers place into `done`. -/
def decodeNumbers? : (fuel code index bias : Nat) → (done cs : List Char) → Option (List Char)
  | 0, _, _, _, _, _ => none
  | _, _, _, _, done, [] => some done
  | fuel + 1, code, index, bias, done, c :: cs => do
      let (sum, rest) ← readNumber? bias (cs.length + 1) 36 1 index (c :: cs)
      let count := done.length + 1
      let code := code + sum / count
      let place := sum % count
      if bound ≤ sum ∨ !code.isValidChar then none
      else
        decodeNumbers? fuel code (place + 1) (adapted (sum - index) count (index = 0))
          (done.take place ++ Char.ofNat code :: done.drop place) rest

/-- The text that a written form stands for. -/
def decode? (cs : List Char) : Option (List Char) :=
  let back := cs.reverse
  let numbers := (back.takeWhile (· ≠ '-')).reverse
  let plain := ((back.dropWhile (· ≠ '-')).drop 1).reverse
  if plain.all fun c => c.toNat < 128 then
    decodeNumbers? (cs.length + 1) 128 0 72 plain numbers
  else none

/-- The digits of a number; `fuel` bounds their count. -/
def writeNumber (bias : Nat) : (fuel k n : Nat) → List Char
  | 0, _, _ => []
  | fuel + 1, k, n =>
      let t := threshold k bias
      if n < t then [digitChar n]
      else digitChar (t + (n - t) % (36 - t)) :: writeNumber bias fuel (k + 36) ((n - t) / (36 - t))

/-- Where a writer stands. -/
structure Writer where
  written : List Char
  delta : Nat := 0
  bias : Nat := 72
  placed : Nat

/-- Pass one character while those with the code `code` are placed. -/
def Writer.pass (code plain : Nat) (w : Writer) (c : Char) : Writer :=
  if c.toNat < code then { w with delta := w.delta + 1 }
  else if c.toNat = code then
    { written := w.written ++ writeNumber w.bias 64 36 w.delta
      bias := adapted w.delta (w.placed + 1) (w.placed = plain)
      placed := w.placed + 1 }
  else w

/-- Place all characters from the code `code` on; `fuel` bounds the number of codes. -/
def Writer.place (cs : List Char) (plain : Nat) : (fuel code : Nat) → Writer → List Char
  | 0, _, w => w.written
  | fuel + 1, code, w =>
      match (cs.map Char.toNat).filter (code ≤ ·) with
      | [] => w.written
      | c :: codes =>
          let next := codes.foldl min c
          let w := { w with delta := w.delta + (next - code) * (w.placed + 1) }
          let w := cs.foldl (Writer.pass next plain) w
          Writer.place cs plain fuel (next + 1) { w with delta := w.delta + 1 }

/-- The written form of a text. -/
def encode (cs : List Char) : List Char :=
  let plain := cs.filter fun c => c.toNat < 128
  let start := if plain.isEmpty then [] else plain ++ ['-']
  Writer.place cs plain.length (cs.length + 1) 128 { written := start, placed := plain.length }

end Dialogue.Text.Punycode
