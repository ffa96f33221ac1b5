/-!
# Texts as bytes

Places in a text are given as counts of UTF-8 bytes, so the length of a character is the number of
bytes that encode it. Bytes that encode no text have a first place at which they do not: some bytes
there can begin no character, or the bytes end inside one.
-/
namespace Dialogue.Text

/-- The number of bytes that encode a text. -/
def byteLength : List Char → Nat
  | [] => 0
  | c :: cs => c.utf8Size + byteLength cs

theorem byteLength_append (s t : List Char) :
    byteLength (s ++ t) = byteLength s + byteLength t := by
  induction s with
  | nil => simp [byteLength]
  | cons c s ih => simp only [List.cons_append, byteLength, ih]; omega

theorem length_le_byteLength (s : List Char) : s.length ≤ byteLength s := by
  induction s with
  | nil => simp [byteLength]
  | cons c s ih =>
      have := Char.utf8Size_pos c
      simp only [List.length_cons, byteLength]
      omega

/-- A byte that goes on with a character. -/
def isContinuation (b : Nat) : Bool := 0x80 ≤ b && b ≤ 0xBF

/-- A byte may follow the first byte of a character of more than two. -/
def mayFollow (first b : Nat) : Bool :=
  if first = 0xE0 then 0xA0 ≤ b && b ≤ 0xBF
  else if first = 0xED then 0x80 ≤ b && b ≤ 0x9F
  else if first = 0xF0 then 0x90 ≤ b && b ≤ 0xBF
  else if first = 0xF4 then 0x80 ≤ b && b ≤ 0x8F
  else isContinuation b

/-- What is wrong with bytes. -/
inductive Utf8Fault where
  /-- So many bytes at a place can begin no character. -/
  | wrong (count place : Nat)
  /-- The bytes end inside the character that begins at a place. -/
  | incomplete (place : Nat)
  deriving Repr, DecidableEq

def Utf8Fault.message : Utf8Fault → String
  | wrong count place =>
      "invalid utf-8 sequence of " ++ toString count ++ " bytes from index " ++ toString place
  | incomplete place => "incomplete utf-8 byte sequence from index " ++ toString place

/-- The first fault of bytes that stand behind `place` others. -/
def utf8Fault? (place : Nat) : List Nat → Option Utf8Fault
  | [] => none
  | a :: rest =>
      if a < 0x80 then utf8Fault? (place + 1) rest
      else if a < 0xC2 ∨ 0xF4 < a then some (.wrong 1 place)
      else
        match rest with
        | [] => some (.incomplete place)
        | b :: rest =>
            if a < 0xE0 then
              if isContinuation b then utf8Fault? (place + 2) rest else some (.wrong 1 place)
            else if !mayFollow a b then some (.wrong 1 place)
            else
              match rest with
              | [] => some (.incomplete place)
              | c :: rest =>
                  if !isContinuation c then some (.wrong 2 place)
                  else if a < 0xF0 then utf8Fault? (place + 3) rest
                  else
                    match rest with
                    | [] => some (.incomplete place)
                    | d :: rest =>
                        if isContinuation d then utf8Fault? (place + 4) rest
                        else some (.wrong 3 place)

end Dialogue.Text
