import Dialogue.Number.Binary64

/-!
# Numbers of a document

A number is a whole number of 64 bits, signed or not, or a binary64 number. The two kinds differ
even where their values agree: `1` and `1.0` are two numbers.
-/
namespace Dialogue

/-- A whole number from `-2 ^ 63` up to, but not including, `2 ^ 64`. -/
structure Whole where
  value : Int
  inRange : -9223372036854775808 ≤ value ∧ value < 18446744073709551616
  deriving Repr, DecidableEq

namespace Whole

def ofInt? (n : Int) : Option Whole :=
  if h : -9223372036854775808 ≤ n ∧ n < 18446744073709551616 then some ⟨n, h⟩ else none

theorem ofInt?_value (w : Whole) : ofInt? w.value = some w := by
  simp only [ofInt?, dif_pos w.inRange]

/-- The length of a list, which has fewer than `2 ^ 64` entries. -/
def ofLength (n : Nat) : Whole :=
  if h : n < 18446744073709551616 then ⟨n, by omega, by omega⟩ else ⟨0, by decide⟩

end Whole

/-- A number as a document holds it. -/
inductive Number where
  | whole (value : Whole)
  | float (value : Binary64)
  deriving Repr, DecidableEq

namespace Number

/-- The nearest binary64 number, for comparison. -/
def reading : Number → Reading
  | whole n => .ofInt n.value
  | float x => .finite x

/-- The value in steps of `2 ^ (-1074)`. -/
def steps : Number → Int
  | whole n => n.value * pow2 1074
  | float x => x.steps

/-- Equal in value, whatever the kinds. -/
def sameValue (m n : Number) : Bool := m.steps == n.steps

/-- The nearest binary64 number. -/
def toBinary64 : Number → Binary64
  | whole n => .round (n.value < 0) n.value.natAbs 1
  | float x => x

/-- As binary64 numbers no further apart than the numbers next to one. -/
def nearlyEqual (m n : Number) : Bool :=
  (m.toBinary64.sub n.toBinary64).magnitude < pow2 1022

/-- A whole number in value, such as `2` or `2.0`. -/
def isWhole : Number → Bool
  | whole _ => true
  | float x => x.isWhole

end Number

end Dialogue
