import Dialogue.Text.Address
import Dialogue.Text.Blank
import Dialogue.Text.Host
import Dialogue.Text.Utf8

/-!
# Addresses of letters

An address is a local part and a domain with the last at sign between them; it may stand in angle
brackets after a name. The local part is a row of atoms with points between them, or a text in
quotes. The domain is a name of a host, or a numeric address in brackets.
-/
namespace Dialogue.Text.Email

def isAscii (c : Char) : Bool := c.toNat < 128

def isAtomChar (c : Char) : Bool :=
  c.isAlphanum || !isAscii c || "!#$%&'*+-/=?^_`\x7b|\x7d~".toList.contains c

def isAtom (cs : List Char) : Bool := !cs.isEmpty && cs.all isAtomChar

/-- The inside of a text in quotes: a backslash stands before any visible character. -/
def isQuotedContent : List Char → Bool
  | [] => true
  | '\\' :: c :: cs => '!' ≤ c && c ≤ '~' && isQuotedContent cs
  | c :: cs =>
      c != '\\' && c != '"' && (c = ' ' || c = '\t' || ('!' ≤ c && c ≤ '~') || !isAscii c) &&
        isQuotedContent cs

/-- A text between two marks. -/
def inside? (first last : Char) (cs : List Char) : Option (List Char) :=
  match cs with
  | c :: rest =>
      if c = first && 2 ≤ cs.length && cs.getLast? == some last then some rest.dropLast else none
  | [] => none

def isLocalPart (cs : List Char) : Bool :=
  !cs.isEmpty && byteLength cs ≤ 64 &&
    match inside? '"' '"' cs with
    | some content => !content.isEmpty && isQuotedContent content
    | none => (splitAt '.' cs).all isAtom

def isLiteralChar (c : Char) : Bool :=
  ('!' ≤ c && c ≤ 'Z') || ('^' ≤ c && c ≤ '~') || !isAscii c

/-- A label of a domain begins and ends with a letter or a digit. -/
def isDomainLabel (label : List Char) : Bool :=
  isAtom label && byteLength label ≤ 63 && label.head?.any isAlphanumeric &&
    label.getLast?.any isAlphanumeric

/-- A domain, whose name is one of a host by the rule that is given. -/
def isDomain (isHost : List Char → Bool) (cs : List Char) : Bool :=
  !cs.isEmpty && byteLength cs ≤ 254 &&
    match inside? '[' ']' cs with
    | some literal =>
        literal.all isLiteralChar &&
          match dropLeading? "IPv6:".toList literal with
          | some address => isIpv6 address
          | none => isIpv4 literal
    | none => (splitAt '.' cs).all isDomainLabel && isHost cs

/-- The pieces before and after the last occurrence of a character. -/
def cutAtLast? (mark : Char) (cs : List Char) : Option (List Char × List Char) :=
  let back := cs.reverse
  match back.dropWhile (· ≠ mark) with
  | [] => none
  | _ :: before => some (before.reverse, (back.takeWhile (· ≠ mark)).reverse)

/-- The text after the last opening angle bracket that a space stands before, and what is before
them. -/
def cutAtName? : List Char → Option (List Char × List Char)
  | [] => none
  | c :: cs =>
      match cutAtName? cs with
      | some (before, after) => some (c :: before, after)
      | none =>
          match c, cs with
          | ' ', '<' :: after => some ([], after)
          | _, _ => none

/-- The address alone, if a name may stand before it. -/
def withoutName? (cs : List Char) : Option (List Char) :=
  match cutAtName? cs with
  | none => some cs
  | some (name, rest) =>
      let rest := trim rest
      if rest.getLast? == some '>' && !(trim name).isEmpty then some rest.dropLast else none

/-- An address, whose domain is named by the rule that is given. -/
def isAddress (isHost : List Char → Bool) (cs : List Char) : Bool :=
  match (withoutName? cs).bind (cutAtLast? '@') with
  | some (localPart, domain) => isLocalPart localPart && isDomain isHost domain
  | none => false

end Dialogue.Text.Email
