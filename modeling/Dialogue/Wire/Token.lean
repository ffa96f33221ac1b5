import Dialogue.Text.Leading
import Dialogue.Text.Utf8

/-!
# Wire tokens

Running text is cut into messages by seven tokens. None of them occurs inside another, and two of
them never overlap: each begins with `<`, which occurs in no token after its first character.

`splitAtFirst` cuts a text at the leftmost occurrence of any of some tokens.
-/
namespace Dialogue.Wire

inductive Token where
  | start
  | message
  | channel
  | constrain
  | finish
  | call
  | answer
  deriving Repr, DecidableEq

namespace Token

def chars : Token → List Char
  | start => "<|start|>".toList
  | message => "<|message|>".toList
  | channel => "<|channel|>".toList
  | constrain => "<|constrain|>".toList
  | finish => "<|end|>".toList
  | call => "<|call|>".toList
  | answer => "<|return|>".toList

/-- What ends a role. -/
def afterRole : List Token := [channel, constrain, message]

/-- What ends a channel header. -/
def afterChannel : List Token := [constrain, message]

/-- What ends a content type. -/
def afterConstrain : List Token := [message]

/-- What ends a message. -/
def terminators : List Token := [finish, call, answer]

end Token

/-- The token among `tokens` that the text begins with, and the text after it. -/
def tokenAt? : (tokens : List Token) → List Char → Option (Token × List Char)
  | [], _ => none
  | t :: tokens, cs =>
      match Text.dropLeading? t.chars cs with
      | some rest => some (t, rest)
      | none => tokenAt? tokens cs

/-- A text cut at a token: what stands before it, the token, and what stands after it. -/
structure Cut where
  before : List Char
  token : Token
  after : List Char
  deriving Repr, DecidableEq

/-- The text cut at the leftmost occurrence of any of `tokens`. -/
def splitAtFirst? (tokens : List Token) : List Char → Option Cut
  | [] => none
  | c :: cs =>
      match tokenAt? tokens (c :: cs) with
      | some (t, rest) => some ⟨[], t, rest⟩
      | none => (splitAtFirst? tokens cs).map fun cut => { cut with before := c :: cut.before }

theorem tokenAt?_eq {tokens : List Token} {cs rest : List Char} {t : Token}
    (h : tokenAt? tokens cs = some (t, rest)) : t ∈ tokens ∧ cs = t.chars ++ rest := by
  induction tokens with
  | nil => simp [tokenAt?] at h
  | cons s tokens ih =>
      simp only [tokenAt?] at h
      split at h
      · rename_i r hr
        simp only [Option.some.injEq, Prod.mk.injEq] at h
        obtain ⟨rfl, rfl⟩ := h
        exact ⟨List.mem_cons_self, Text.dropLeading?_eq_some.1 hr⟩
      · exact ⟨List.mem_cons_of_mem _ (ih h).1, (ih h).2⟩

/-- A cut loses nothing. -/
theorem splitAtFirst?_eq {tokens : List Token} {cs : List Char} {cut : Cut}
    (h : splitAtFirst? tokens cs = some cut) :
    cut.token ∈ tokens ∧ cs = cut.before ++ (cut.token.chars ++ cut.after) := by
  induction cs generalizing cut with
  | nil => simp [splitAtFirst?] at h
  | cons c cs ih =>
      simp only [splitAtFirst?] at h
      split at h
      · rename_i t rest ht
        simp only [Option.some.injEq] at h
        subst h
        simpa using tokenAt?_eq ht
      · simp only [Option.map_eq_some_iff] at h
        obtain ⟨inner, hi, rfl⟩ := h
        obtain ⟨hm, hc⟩ := ih hi
        exact ⟨hm, by simp [hc]⟩

theorem Token.chars_length_pos (t : Token) : 0 < t.chars.length := by
  cases t <;> decide

end Dialogue.Wire
