import Dialogue.Json.Basic

/-!
# Agreement of values

Two values agree when they are equal up to the way in which their numbers are held: `1` agrees with
`1.0`, at any depth.
-/
namespace Dialogue.Json

mutual

/-- Equal, where numbers are equal when they are so in value. -/
def agrees : Json → Json → Bool
  | .null, .null => true
  | .bool a, .bool b => a == b
  | .num m, .num n => m.sameValue n
  | .str s, .str t => s == t
  | .arr xs, .arr ys => agreesItems xs ys
  | .obj xs, .obj ys => agreesFields xs ys
  | _, _ => false
termination_by structural j => j

def agreesItems : List Json → List Json → Bool
  | [], [] => true
  | x :: xs, y :: ys => agrees x y && agreesItems xs ys
  | _, _ => false
termination_by structural items => items

def agreesFields : List (String × Json) → List (String × Json) → Bool
  | [], [] => true
  | (k, x) :: xs, (l, y) :: ys => k == l && agrees x y && agreesFields xs ys
  | _, _ => false
termination_by structural fields => fields

end

/-- No two of the values agree. -/
def allDiffer : List Json → Bool
  | [] => true
  | j :: rest => !rest.any (agrees j) && allDiffer rest

/-- The value is the one that was asked for; a number may miss a number by next to nothing. -/
def meets : (found wanted : Json) → Bool
  | .num m, .num n => m.nearlyEqual n
  | found, wanted => found.agrees wanted

end Dialogue.Json
