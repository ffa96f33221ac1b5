import Dialogue.Text.Address

/-!
# References to documents

A reference names a document, or a part of one, by up to five parts: scheme, authority, path, query
and fragment. One without a scheme is relative; it is resolved against a base, which gives the parts
that it leaves out. Dots in a path, the case of the scheme and needless percent escapes make no
difference to what a resolved reference names.

The grammar is that of RFC 3986, so a character outside ASCII stands only as a percent escape. In a
wide reference most of these characters stand for themselves.
-/
namespace Dialogue

/-- The five parts of a reference, without the marks between them. -/
structure Uri where
  scheme : Option (List Char) := none
  authority : Option (List Char) := none
  path : List Char := []
  query : Option (List Char) := none
  fragment : Option (List Char) := none
  deriving Repr, DecidableEq

namespace Uri

def hexValue (c : Char) : Nat :=
  if c.isDigit then c.toNat - '0'.toNat else c.toLower.toNat - 'a'.toNat + 10

def isUnreserved (c : Char) : Bool := c.isAlphanum || ['-', '.', '_', '~'].contains c

def isSubDelimiter (c : Char) : Bool :=
  ['!', '$', '&', '\'', '(', ')', '*', '+', ',', ';', '='].contains c

/-- Only characters of a kind, percent escapes apart. -/
def consistsOf (allowed : Char → Bool) : List Char → Bool
  | '%' :: a :: b :: cs => Text.isHexDigit a && Text.isHexDigit b && consistsOf allowed cs
  | c :: cs => c != '%' && allowed c && consistsOf allowed cs
  | [] => true

/-- Characters outside ASCII that stand for themselves in a wide reference. -/
def isWideChar (c : Char) : Bool :=
  let n := c.toNat
  (0xA0 ≤ n && n ≤ 0xD7FF) || (0xF900 ≤ n && n ≤ 0xFDCF) || (0xFDF0 ≤ n && n ≤ 0xFFEF) ||
    (((0x10000 ≤ n && n ≤ 0xDFFFF) || (0xE1000 ≤ n && n ≤ 0xEFFFF)) && n % 0x10000 < 0xFFFE)

/-- Characters for private use, which may stand in the query of a wide reference. -/
def isPrivateChar (c : Char) : Bool :=
  let n := c.toNat
  (0xE000 ≤ n && n ≤ 0xF8FF) || (0xF0000 ≤ n && n % 0x10000 < 0xFFFE)

def isNameChar (wide : Bool) (c : Char) : Bool :=
  isUnreserved c || isSubDelimiter c || (wide && isWideChar c)

def isPathChar (wide : Bool) (c : Char) : Bool :=
  isNameChar wide c || c = ':' || c = '@' || c = '/'

def isFragmentChar (wide : Bool) (c : Char) : Bool := isPathChar wide c || c = '?'

def isQueryChar (wide : Bool) (c : Char) : Bool :=
  isFragmentChar wide c || (wide && isPrivateChar c)

def isScheme : List Char → Bool
  | [] => false
  | c :: cs => c.isAlpha && cs.all fun d => d.isAlphanum || d = '+' || d = '-' || d = '.'

/-- A numeric address in brackets, of the known kind or of one to come. -/
def isLiteral (cs : List Char) : Bool :=
  Text.isIpv6 cs ||
    match cs with
    | v :: rest =>
        (v = 'v' || v = 'V') &&
          match rest.takeWhile Text.isHexDigit, rest.dropWhile Text.isHexDigit with
          | _ :: _, '.' :: c :: address =>
              (c :: address).all fun c => isUnreserved c || isSubDelimiter c || c = ':'
          | _, _ => false
    | [] => false

/-- A host is a name, or an address in brackets. -/
def isHost (wide : Bool) (cs : List Char) : Bool :=
  match cs with
  | '[' :: rest => rest.getLast? == some ']' && isLiteral rest.dropLast
  | cs => consistsOf (isNameChar wide) cs

/-- The pieces before and after the first occurrence of a character. -/
def cut (mark : Char) (cs : List Char) : List Char × Option (List Char) :=
  match cs.dropWhile (· ≠ mark) with
  | [] => (cs, none)
  | _ :: rest => (cs.takeWhile (· ≠ mark), some rest)

/-- A host without the number that may follow it after a colon. -/
def withoutNumber (cs : List Char) : List Char :=
  let back := cs.reverse
  let digits := back.takeWhile Char.isDigit
  match back.drop digits.length with
  | ':' :: host => host.reverse
  | _ => cs

def isAuthority (wide : Bool) (cs : List Char) : Bool :=
  match cut '@' cs with
  | (user, some host) =>
      consistsOf (fun c => isNameChar wide c || c = ':') user && isHost wide (withoutNumber host)
  | (host, none) => isHost wide (withoutNumber host)

def isValid (wide : Bool) (u : Uri) : Bool :=
  u.scheme.all isScheme && u.authority.all (isAuthority wide) &&
    consistsOf (isPathChar wide) u.path && u.query.all (consistsOf (isQueryChar wide)) &&
    u.fragment.all (consistsOf (isFragmentChar wide))

/-- The parts of a text; a colon ends a scheme where no path, query or fragment has begun. -/
def parts (cs : List Char) : Uri :=
  let (cs, fragment) := cut '#' cs
  let (cs, query) := cut '?' cs
  let (scheme, cs) :=
    match cut ':' cs with
    | (first, some rest) => if first.contains '/' then (none, cs) else (some first, rest)
    | (_, none) => (none, cs)
  match cs with
  | '/' :: '/' :: cs =>
      let path := cs.dropWhile (· ≠ '/')
      { scheme, authority := some (cs.takeWhile (· ≠ '/')), path, query, fragment }
  | path => { scheme, path, query, fragment }

/-- The reference that a text writes. -/
def ofText? (s : String) : Option Uri :=
  let u := parts s.toList
  if u.isValid false then some u else none

/-- The wide reference that a text writes. -/
def ofWideText? (s : String) : Option Uri :=
  let u := parts s.toList
  if u.isValid true then some u else none

def toText (u : Uri) : String :=
  String.ofList <|
    u.scheme.elim [] (· ++ [':']) ++ u.authority.elim [] (['/', '/'] ++ ·) ++ u.path ++
      u.query.elim [] ('?' :: ·) ++ u.fragment.elim [] ('#' :: ·)

def withoutFragment (u : Uri) : Uri := { u with fragment := none }

/-- The segments of a path without dots; `done` holds those before, the last one first. -/
def withoutDots : (done : List (List Char)) → List (List Char) → List (List Char)
  | done, [] => done.reverse
  | done, segment :: rest =>
      if segment = ['.'] then withoutDots (if rest.isEmpty then [] :: done else done) rest
      else if segment = ['.', '.'] then
        let done := done.drop 1
        withoutDots (if rest.isEmpty then [] :: done else done) rest
      else withoutDots (segment :: done) rest

/-- A path without dots. -/
def plainPath (path : List Char) : List Char :=
  match path with
  | '/' :: rest => '/' :: ['/'].intercalate (withoutDots [] (Text.splitAt '/' rest))
  | path => ['/'].intercalate (withoutDots [] (Text.splitAt '/' path))

/-- A relative path in place of the last segment of the path of a base. -/
def mergedPath (base : Uri) (path : List Char) : List Char :=
  if base.authority.isSome ∧ base.path = [] then '/' :: path
  else (base.path.reverse.dropWhile (· ≠ '/')).reverse ++ path

/-- What a reference names when it stands in a document of that base. -/
def resolvedAgainst (base u : Uri) : Uri :=
  if u.scheme.isSome then { u with path := plainPath u.path }
  else if u.authority.isSome then { u with scheme := base.scheme, path := plainPath u.path }
  else
    let u := { u with scheme := base.scheme, authority := base.authority }
    match u.path with
    | [] => { u with path := base.path, query := u.query <|> base.query }
    | '/' :: _ => { u with path := plainPath u.path }
    | path => { u with path := plainPath (mergedPath base path) }

/-- The same text with hexadecimal digits of escapes in capitals and without needless escapes. -/
def plainEscapes : List Char → List Char
  | '%' :: a :: b :: cs =>
      let c := Char.ofNat (16 * hexValue a + hexValue b)
      if isUnreserved c then c :: plainEscapes cs
      else '%' :: a.toUpper :: b.toUpper :: plainEscapes cs
  | c :: cs => c :: plainEscapes cs
  | [] => []

/-- Of the references that name the same, one. -/
def normal (u : Uri) : Uri where
  scheme := u.scheme.map (·.map Char.toLower)
  authority := u.authority.map fun a => (plainEscapes a).map Char.toLower
  path := plainEscapes u.path
  query := u.query.map plainEscapes
  fragment := u.fragment.map plainEscapes

/-- The normal form of what a text names in a document of that base. -/
def resolve? (base : Uri) (s : String) : Option Uri :=
  (ofText? s).map fun u => (resolvedAgainst base u).normal

/-- The bytes that a text of ASCII characters and percent escapes stands for. -/
def bytes : List Char → List UInt8
  | '%' :: a :: b :: cs =>
      if Text.isHexDigit a && Text.isHexDigit b then
        UInt8.ofNat (16 * hexValue a + hexValue b) :: bytes cs
      else (String.singleton '%').toUTF8.toList ++ bytes (a :: b :: cs)
  | c :: cs => (String.singleton c).toUTF8.toList ++ bytes cs
  | [] => []

/-- The text with its percent escapes undone, if they encode one. -/
def unescaped? (cs : List Char) : Option String := String.fromUTF8? ⟨(bytes cs).toArray⟩

end Uri

end Dialogue
