import Dialogue.Json.Scan

/-!
# Reading JSON text

`readValue` reads a value as it is written: the fields of an object stand in the order of the text
and may repeat a key. `skipValue` passes over a value that nobody wants; it checks less and has no
limit on nesting. `Json.ofText` reads a whole text and puts the fields in order.

Every call consumes a character or is followed by one that does, so twice the length of the text is
fuel enough. At most 127 lists and objects may be open at once.
-/
namespace Dialogue.Json

/-- How many lists and objects may be open at once. -/
def maxDepth : Nat := 127

/-- Enough fuel to read `cs`. -/
def fuelFor (cs : List Char) : Nat := 2 * cs.length + 2

/-- What stands next in a list or an object: one more part, or its end. -/
inductive Next (α : Type) where
  | part (head : α) (rest : List Char)
  | close (rest : List Char)

/-- The next item of a list. -/
def nextItem (first : Bool) (cs : List Char) : Except Fault (Next Unit) :=
  match skipBlanks cs with
  | [] => .error (.before .endInList [])
  | c :: rest =>
      if c = ']' then .ok (.close rest)
      else if first then .ok (.part () (c :: rest))
      else if c = ',' then
        match skipBlanks rest with
        | [] => .error (.before .endInValue [])
        | d :: after =>
            if d = ']' then .error (.within .trailingComma (d :: after))
            else .ok (.part () (d :: after))
      else .error (.within .expectedListEnd (c :: rest))

/-- A key, when its opening quote is next. -/
def keyAt (cs : List Char) : Except Fault (Next String) :=
  match cs with
  | '"' :: rest => (stringAt rest).map fun r => .part r.1 r.2
  | cs => .error (.within .keyNotString cs)

/-- The key of the next field of an object. -/
def nextKey (first : Bool) (cs : List Char) : Except Fault (Next String) :=
  match skipBlanks cs with
  | [] => .error (.before .endInObject [])
  | c :: rest =>
      if c = '}' then .ok (.close rest)
      else if first then keyAt (c :: rest)
      else if c = ',' then
        match skipBlanks rest with
        | [] => .error (.before .endInValue [])
        | d :: after =>
            if d = '}' then .error (.within .trailingComma (d :: after)) else keyAt (d :: after)
      else .error (.within .expectedObjectEnd (c :: rest))

/-- The text after the colon that follows a key. -/
def afterColon (cs : List Char) : Except Fault (List Char) :=
  match skipBlanks cs with
  | [] => .error (.before .endInObject [])
  | c :: rest => if c = ':' then .ok rest else .error (.within .expectedColon (c :: rest))

mutual

/-- A value as it is written, with `depth` levels of nesting to spare. -/
def readValue : (fuel depth : Nat) → List Char → Scan Json
  | 0, _, cs => .error (.before .tooDeep cs)
  | fuel + 1, depth, cs =>
      match skipBlanks cs with
      | [] => .error (.before .endInValue [])
      | c :: rest =>
          if c = 'n' then (expectWord "ull".toList rest).map fun after => (.null, after)
          else if c = 't' then (expectWord "rue".toList rest).map fun after => (.bool true, after)
          else if c = 'f' then
            (expectWord "alse".toList rest).map fun after => (.bool false, after)
          else if c = '-' then (numberAt true rest).map fun r => (.num r.1, r.2)
          else if c.isDigit then (numberAt false (c :: rest)).map fun r => (.num r.1, r.2)
          else if c = '"' then (stringAt rest).map fun r => (.str r.1, r.2)
          else if c = '[' then
            match depth with
            | 0 => .error (.within .tooDeep (c :: rest))
            | depth + 1 => (readItems fuel depth true rest).map fun r => (.arr r.1, r.2)
          else if c = '{' then
            match depth with
            | 0 => .error (.within .tooDeep (c :: rest))
            | depth + 1 => (readFields fuel depth true rest).map fun r => (.obj r.1, r.2)
          else .error (.within .expectedValue (c :: rest))
termination_by structural fuel => fuel

/-- The items of a list up to its closing bracket. -/
def readItems : (fuel depth : Nat) → (first : Bool) → List Char → Scan (List Json)
  | 0, _, _, cs => .error (.before .tooDeep cs)
  | fuel + 1, depth, first, cs =>
      match nextItem first cs with
      | .error fault => .error fault
      | .ok (.close rest) => .ok ([], rest)
      | .ok (.part _ rest) =>
          match readValue fuel depth rest with
          | .error fault => .error fault
          | .ok (item, rest) =>
              (readItems fuel depth false rest).map fun r => (item :: r.1, r.2)
termination_by structural fuel => fuel

/-- The fields of an object up to its closing brace. -/
def readFields : (fuel depth : Nat) → (first : Bool) → List Char → Scan (List (String × Json))
  | 0, _, _, cs => .error (.before .tooDeep cs)
  | fuel + 1, depth, first, cs =>
      match nextKey first cs with
      | .error fault => .error fault
      | .ok (.close rest) => .ok ([], rest)
      | .ok (.part key rest) =>
          match afterColon rest with
          | .error fault => .error fault
          | .ok rest =>
              match readValue fuel depth rest with
              | .error fault => .error fault
              | .ok (value, rest) =>
                  (readFields fuel depth false rest).map fun r => ((key, value) :: r.1, r.2)
termination_by structural fuel => fuel

end

mutual

/-- The text after a value. -/
def skipValue : (fuel : Nat) → List Char → Except Fault (List Char)
  | 0, cs => .error (.before .tooDeep cs)
  | fuel + 1, cs =>
      match skipBlanks cs with
      | [] => .error (.before .endInValue [])
      | c :: rest =>
          if c = 'n' then expectWord "ull".toList rest
          else if c = 't' then expectWord "rue".toList rest
          else if c = 'f' then expectWord "alse".toList rest
          else if c = '-' then skipNumber rest
          else if c.isDigit then skipNumber (c :: rest)
          else if c = '"' then skipString rest
          else if c = '[' then skipItems fuel true rest
          else if c = '{' then skipFields fuel true rest
          else .error (.within .expectedValue (c :: rest))
termination_by structural fuel => fuel

/-- The text after the items of a list and its closing bracket. -/
def skipItems : (fuel : Nat) → (first : Bool) → List Char → Except Fault (List Char)
  | 0, _, cs => .error (.before .tooDeep cs)
  | fuel + 1, first, cs =>
      match skipBlanks cs with
      | [] => .error (.before .endInList [])
      | c :: rest =>
          if c = ']' then .ok rest
          else if !first ∧ c ≠ ',' then .error (.within .expectedListEnd (c :: rest))
          else
            match skipValue fuel (if first then c :: rest else rest) with
            | .error fault => .error fault
            | .ok rest => skipItems fuel false rest
termination_by structural fuel => fuel

/-- The text after the fields of an object and its closing brace. -/
def skipFields : (fuel : Nat) → (first : Bool) → List Char → Except Fault (List Char)
  | 0, _, cs => .error (.before .tooDeep cs)
  | fuel + 1, first, cs =>
      match skipBlanks cs with
      | [] => .error (.before .endInObject [])
      | c :: rest =>
          if c = '}' then .ok rest
          else if !first ∧ c ≠ ',' then .error (.within .expectedObjectEnd (c :: rest))
          else
            match skipBlanks (if first then c :: rest else rest) with
            | [] => .error (.before .endInObject [])
            | d :: after =>
                if d ≠ '"' then .error (.within .keyNotString (d :: after))
                else
                  match skipString after with
                  | .error fault => .error fault
                  | .ok rest =>
                      match afterColon rest with
                      | .error fault => .error fault
                      | .ok rest =>
                          match skipValue fuel rest with
                          | .error fault => .error fault
                          | .ok rest => skipFields fuel false rest
termination_by structural fuel => fuel

end

/-- Only blanks are left. -/
def expectEnd (cs : List Char) : Except Fault Unit :=
  match skipBlanks cs with
  | [] => .ok ()
  | c :: rest => .error (.within .trailingCharacters (c :: rest))

/-- The value that a whole text writes. -/
def ofChars (cs : List Char) : Except Fault Json :=
  match readValue (fuelFor cs) maxDepth cs with
  | .error fault => .error fault
  | .ok (j, rest) => (expectEnd rest).map fun _ => j.sort

/-- The value that a whole text writes, or the message of its first fault. -/
def ofText (text : String) : Except String Json :=
  (ofChars text.toList).mapError (Fault.message text.toList)

end Dialogue.Json
