/-!
# Ranges of characters

A property of characters is kept as a list of ranges of code points, both ends included.
-/
namespace Dialogue.Text

def inRanges (ranges : List (Nat × Nat)) (c : Char) : Bool :=
  ranges.any fun r => r.1 ≤ c.toNat && c.toNat ≤ r.2

end Dialogue.Text
