/-!
# Bytes written in sixty-four characters

Three bytes are written as four characters of six bits each. At the end one or two bytes are written
as two or three characters, filled up to four with equals signs; the bits left over must be zero.
-/
namespace Dialogue.Text.Base64

def value? (c : Char) : Option Nat :=
  if 'A' ≤ c ∧ c ≤ 'Z' then some (c.toNat - 'A'.toNat)
  else if 'a' ≤ c ∧ c ≤ 'z' then some (c.toNat - 'a'.toNat + 26)
  else if c.isDigit then some (c.toNat - '0'.toNat + 52)
  else if c = '+' then some 62
  else if c = '/' then some 63
  else none

/-- The bytes that a text writes. -/
def decode? : List Char → Option (List Nat)
  | [] => some []
  | [a, b, '=', '='] => do
      let n := 64 * (← value? a) + (← value? b)
      if n % 16 = 0 then return [n / 16] else none
  | [a, b, c, '='] => do
      let n := 4096 * (← value? a) + 64 * (← value? b) + (← value? c)
      if n % 4 = 0 then return [n / 1024, n / 4 % 256] else none
  | a :: b :: c :: d :: rest => do
      let n := 262144 * (← value? a) + 4096 * (← value? b) + 64 * (← value? c) + (← value? d)
      return n / 65536 :: n / 256 % 256 :: n % 256 :: (← decode? rest)
  | _ => none

end Dialogue.Text.Base64
