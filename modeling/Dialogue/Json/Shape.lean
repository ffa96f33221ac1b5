import Dialogue.Json.Reader

/-!
# Reading text by shape

A shape says what a reader wants to find at a place. Reading by shape goes through the text once and
stops at the first fault, whether the text is malformed there or the value has the wrong shape. The
fields that a record does not know are passed over.

What is read is a value whose fields are in order, of a record only the fields that it knows. A
record may also be written as the list of its fields, and a choice as an object with one null field.
-/
namespace Dialogue.Json

inductive Shape where
  | any
  | text
  | optional (inner : Shape)
  | listOf (inner : Shape)
  | object
  /-- One of fixed names. -/
  | choice (names : List String)
  /-- Fields, each with its name, whether it has to be there, and its shape. -/
  | record (name : String) (fields : List (String × Bool × Shape))
  /-- A value that `verify` accepts once its kind, the field `tag`, is found to be a known one. -/
  | tagged (label tag : String) (kinds : List String) (verify : Json → Except Mismatch Unit)

/-- The name of a record in messages. -/
def structName (name : String) : String := "struct " ++ name

/-- The length of a record in messages. -/
def structLength (name : String) (n : Nat) : String :=
  structName name ++ s!" with {n} element" ++ (if n = 1 then "" else "s")

/-- The fault of a value that is not `wanted`: short values are read to their end, to be shown. -/
def unwantedAt (wanted : String) (cs : List Char) : Fault :=
  let showing (found : Found) (rest : List Char) := Fault.wanted (.wrongType found wanted) rest
  let word (expected : String) (found : Found) (rest : List Char) :=
    match expectWord expected.toList rest with
    | .ok after => showing found after
    | .error fault => fault
  let number (r : Scan Number) :=
    match r with
    | .ok (n, after) => showing (.num n) after
    | .error fault => fault
  match cs with
  | [] => .within .expectedValue []
  | c :: rest =>
      if c = 'n' then word "ull" .null rest
      else if c = 't' then word "rue" (.bool true) rest
      else if c = 'f' then word "alse" (.bool false) rest
      else if c = '-' then number (numberAt true rest)
      else if c.isDigit then number (numberAt false cs)
      else if c = '"' then
        match stringAt rest with
        | .ok (s, after) => showing (.str s) after
        | .error fault => fault
      else if c = '[' then showing .sequence cs
      else if c = '{' then showing .map cs
      else .within .expectedValue cs

/-- A string and nothing else. -/
def readString (wanted : String) (cs : List Char) : Scan String :=
  match skipBlanks cs with
  | [] => .error (.before .endInValue [])
  | c :: rest => if c = '"' then stringAt rest else .error (unwantedAt wanted (c :: rest))

/-- One of fixed names. -/
def readVariant (wanted : String) (known : List String) (cs : List Char) : Scan String :=
  match readString wanted cs with
  | .error fault => .error fault
  | .ok (name, rest) =>
      if name ∈ known then .ok (name, rest)
      else .error (.wanted (.unknownVariant name known) rest)

/-- One of fixed names, as the key of a field. -/
def readVariantKey (names : List String) (cs : List Char) : Scan String :=
  match skipBlanks cs with
  | [] => .error (.before .endInObject [])
  | c :: rest =>
      if c = '"' then readVariant "variant identifier" names (c :: rest)
      else .error (.within (if c = '}' then .expectedValue else .keyNotString) (c :: rest))

/-- What a record's fault in the middle of an object leaves unread: blanks and a closing brace that
stand next are still taken. -/
def settled (close : Char) (cs : List Char) : List Char :=
  match skipBlanks cs with
  | c :: rest => if c = close then rest else c :: rest
  | [] => []

/-- One of fixed names, alone or as the key of the only field of an object, whose value is null. -/
def readChoice (depth : Nat) (names : List String) (cs : List Char) :
    Except Fault (String × List Char) :=
  match skipBlanks cs with
  | [] => .error (.before .endInValue [])
  | c :: rest =>
      if c = '"' then readVariant "variant identifier" names (c :: rest)
      else if c ≠ '{' then .error (.within .expectedValue (c :: rest))
      else if depth = 0 then .error (.within .tooDeep (c :: rest))
      else do
        let (name, rest) ← readVariantKey names rest
        let rest ← afterColon rest
        match skipBlanks rest with
        | [] => .error (.before .endInValue [])
        | d :: after =>
            if d ≠ 'n' then .error (unwantedAt "unit" (d :: after))
            else
              let rest ← expectWord "ull".toList after
              match skipBlanks rest with
              | [] => .error (.before .endInObject [])
              | e :: after =>
                  if e = '}' then .ok (name, after)
                  else .error (.before .expectedValue (e :: after))

/-- A tagged value in object form: its fields as written. The tag is looked at where it stands. -/
def readTaggedFields (tag : String) (kinds : List String) (depth : Nat) :
    (fuel : Nat) → (first seen : Bool) → List Char →
      Except Fault (List (String × Json) × List Char)
  | 0, _, _, cs => .error (.before .tooDeep cs)
  | fuel + 1, first, seen, cs => do
      match ← nextKey first cs with
      | .close rest =>
          if seen then .ok ([], rest) else .error (.wanted (.missingField tag) rest)
      | .part key rest =>
          if key = tag ∧ seen then .error (.wanted (.duplicateField tag) (settled '}' rest))
          else
            let rest ← afterColon rest
            let (value, rest) ←
              if key = tag then
                (readVariant "variant identifier" kinds rest).map fun r => (Json.str r.1, r.2)
              else readValue (fuelFor rest) depth rest
            let (fields, rest) ←
              readTaggedFields tag kinds depth fuel false (seen || key = tag) rest
            .ok ((key, value) :: fields, rest)

/-- A tagged value in list form: the tag comes first. -/
def readTaggedItems (tag : String) (kinds : List String) (depth : Nat) (cs : List Char) :
    Except Fault (List Json × List Char) := do
  match ← nextItem true cs with
  | .close rest => .error (.wanted (.missingField tag) rest)
  | .part _ rest =>
      let (kind, rest) ← readVariant "variant identifier" kinds rest
      let (items, rest) ← readItems (fuelFor rest) depth false rest
      .ok (.str kind :: items, rest)

/-- A tagged value, as written. -/
def readTagged (label tag : String) (kinds : List String) (depth : Nat) (cs : List Char) :
    Scan Json :=
  match skipBlanks cs with
  | [] => .error (.before .endInValue [])
  | c :: rest =>
      if c ≠ '{' ∧ c ≠ '[' then .error (unwantedAt label (c :: rest))
      else if depth = 0 then .error (.within .tooDeep (c :: rest))
      else if c = '{' then
        (readTaggedFields tag kinds (depth - 1) (fuelFor rest) true false rest).map
          fun r => (.obj r.1, r.2)
      else (readTaggedItems tag kinds (depth - 1) rest).map fun r => (.arr r.1, r.2)

/-- The closing bracket of a list whose items have all been read. -/
def closeList (cs : List Char) : Except Fault (List Char) :=
  match skipBlanks cs with
  | [] => .error (.before .endInList [])
  | c :: rest =>
      if c = ']' then .ok rest
      else if c = ',' then
        let after := skipBlanks rest
        .error (.within (if after.head? = some ']' then .trailingComma else .trailingCharacters)
          after)
      else .error (.within .trailingCharacters (c :: rest))

/-- The number of the first field that has to be there, when the fields begin with number `index`.
-/
def requiredFrom? (index : Nat) : List (String × Bool × Shape) → Option Nat
  | [] => none
  | (_, required, _) :: fields =>
      if required then some index else requiredFrom? (index + 1) fields

mutual

/-- A value of the given shape, with `depth` levels of nesting to spare. -/
def readShape : (fuel depth : Nat) → Shape → List Char → Except Fault (Json × List Char)
  | 0, _, _, cs => .error (.before .tooDeep cs)
  | fuel + 1, depth, shape, cs =>
      match shape with
      | .any => (readValue (fuelFor cs) depth cs).map fun r => (r.1.sort, r.2)
      | .text => (readString "a string" cs).map fun r => (.str r.1, r.2)
      | .optional inner =>
          match skipBlanks cs with
          | 'n' :: rest => (expectWord "ull".toList rest).map fun after => (.null, after)
          | cs => readShape fuel depth inner cs
      | .choice names => (readChoice depth names cs).map fun r => (.str r.1, r.2)
      | .tagged label tag kinds verify => do
          let (j, rest) ← readTagged label tag kinds depth cs
          (verify j).mapError (Fault.wanted · rest)
          .ok (j.sort, rest)
      | .listOf inner =>
          match skipBlanks cs with
          | [] => .error (.before .endInValue [])
          | c :: rest =>
              if c ≠ '[' then .error (unwantedAt "a sequence" (c :: rest))
              else
                match depth with
                | 0 => .error (.within .tooDeep (c :: rest))
                | depth + 1 =>
                    (readListOf fuel depth inner true rest).map fun r => (.arr r.1, r.2)
      | .object =>
          match skipBlanks cs with
          | [] => .error (.before .endInValue [])
          | c :: rest =>
              if c ≠ '{' then .error (unwantedAt "a map" (c :: rest))
              else (readValue (fuelFor cs) depth (c :: rest)).map fun r => (r.1.sort, r.2)
      | .record name fields =>
          match skipBlanks cs with
          | [] => .error (.before .endInValue [])
          | c :: rest =>
              if c ≠ '{' ∧ c ≠ '[' then .error (unwantedAt (structName name) (c :: rest))
              else
                match depth with
                | 0 => .error (.within .tooDeep (c :: rest))
                | depth + 1 =>
                    if c = '{' then
                      (readRecord fuel depth fields true [] rest).map
                        fun r => (.obj (Entries.ofList r.1), r.2)
                    else
                      (readRow fuel depth (structLength name fields.length) 0 fields rest).map
                        fun r => (.arr r.1, r.2)
termination_by structural fuel => fuel

/-- The items of a list up to its closing bracket. -/
def readListOf : (fuel depth : Nat) → Shape → (first : Bool) → List Char →
      Except Fault (List Json × List Char)
  | 0, _, _, _, cs => .error (.before .tooDeep cs)
  | fuel + 1, depth, inner, first, cs => do
      match ← nextItem first cs with
      | .close rest => .ok ([], rest)
      | .part _ rest =>
          let (item, rest) ← readShape fuel depth inner rest
          let (items, rest) ← readListOf fuel depth inner false rest
          .ok (item :: items, rest)
termination_by structural fuel => fuel

/-- The fields of a record up to its closing brace, after those in `seen`. -/
def readRecord : (fuel depth : Nat) → List (String × Bool × Shape) → (first : Bool) →
    (seen : List String) → List Char →
      Except Fault (List (String × Json) × List Char)
  | 0, _, _, _, _, cs => .error (.before .tooDeep cs)
  | fuel + 1, depth, fields, first, seen, cs => do
      match ← nextKey first cs with
      | .close rest =>
          match fields.find? fun f => f.2.1 && !seen.contains f.1 with
          | some (name, _) => .error (.wanted (.missingField name) rest)
          | none => .ok ([], rest)
      | .part key rest =>
          match fields.find? fun f => f.1 = key with
          | none =>
              let rest ← afterColon rest
              let rest ← skipValue (fuelFor rest) rest
              readRecord fuel depth fields false seen rest
          | some (_, _, shape) =>
              if seen.contains key then
                .error (.wanted (.duplicateField key) (settled '}' rest))
              else
                let rest ← afterColon rest
                let (value, rest) ← readShape fuel depth shape rest
                let (others, rest) ← readRecord fuel depth fields false (key :: seen) rest
                .ok ((key, value) :: others, rest)
termination_by structural fuel => fuel

/-- A record written as a list, from its field number `index` on; `wanted` names its length. -/
def readRow : (fuel depth : Nat) → (wanted : String) → (index : Nat) →
    List (String × Bool × Shape) → List Char → Except Fault (List Json × List Char)
  | 0, _, _, _, _, cs => .error (.before .tooDeep cs)
  | _ + 1, _, _, _, [], cs => (closeList cs).map fun rest => ([], rest)
  | fuel + 1, depth, wanted, index, field :: fields, cs => do
      match ← nextItem (index = 0) cs with
      | .close rest =>
          match requiredFrom? index (field :: fields) with
          | some i => .error (.wanted (.wrongLength i wanted) rest)
          | none => .ok ([], rest)
      | .part _ rest =>
          let (item, rest) ← readShape fuel depth field.2.2 rest
          let (items, rest) ← readRow fuel depth wanted (index + 1) fields rest
          .ok (item :: items, rest)
termination_by structural fuel => fuel

end

end Dialogue.Json
