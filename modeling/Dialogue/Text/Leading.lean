/-!
# Text at the front

Taking a known text off the front of another, and cutting a text at every occurrence of a character.
-/
namespace Dialogue.Text

/-- The text after `lead`, if the text begins with it. -/
def dropLeading? : (lead cs : List Char) → Option (List Char)
  | [], cs => some cs
  | _ :: _, [] => none
  | l :: lead, c :: cs => if l = c then dropLeading? lead cs else none

theorem dropLeading?_eq_some {lead cs rest : List Char} :
    dropLeading? lead cs = some rest ↔ cs = lead ++ rest := by
  induction lead generalizing cs with
  | nil => simp [dropLeading?]
  | cons l lead ih =>
      cases cs with
      | nil => simp [dropLeading?]
      | cons c cs =>
          simp only [dropLeading?, List.cons_append, List.cons.injEq]
          split
          · rename_i h
            subst h
            simp [ih]
          · rename_i h
            simp [Ne.symm h]

/-- The pieces between the occurrences of a character; there is always at least one. -/
def splitAt (separator : Char) : List Char → List (List Char)
  | [] => [[]]
  | c :: cs =>
      if c = separator then [] :: splitAt separator cs
      else
        match splitAt separator cs with
        | [] => [[c]]
        | piece :: pieces => (c :: piece) :: pieces

end Dialogue.Text
