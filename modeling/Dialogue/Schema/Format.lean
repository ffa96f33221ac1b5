import Dialogue.Pattern.Parser
import Dialogue.Schema.Draft
import Dialogue.Schema.Pointer
import Dialogue.Text.Clock
import Dialogue.Text.Email
import Dialogue.Uri
import Dialogue.Uri.Template

/-!
# Formats of texts

A format is what a text is asked to write: a moment, an address, a name, a reference, a pointer or a
pattern. `TextFormat.admits` says which texts do. Each format has a name, and is known from some
draft on.
-/
namespace Dialogue

inductive TextFormat where
  | date
  | dateTime
  | time
  | email
  | wideEmail
  | hostname
  | wideHostname
  | ipv4
  | ipv6
  | uri
  | uriReference
  | wideUri
  | wideUriReference
  | uriTemplate
  | jsonPointer
  | relativeJsonPointer
  | regex
  deriving Repr, DecidableEq

namespace TextFormat

/-- All formats with their names and the drafts that they are known from. -/
def names : List (TextFormat × String × Draft) :=
  [(date, "date", .draft4), (dateTime, "date-time", .draft4), (time, "time", .draft4),
    (email, "email", .draft4), (wideEmail, "idn-email", .draft4),
    (hostname, "hostname", .draft4), (wideHostname, "idn-hostname", .draft7),
    (ipv4, "ipv4", .draft4), (ipv6, "ipv6", .draft4), (uri, "uri", .draft4),
    (uriReference, "uri-reference", .draft6), (wideUri, "iri", .draft7),
    (wideUriReference, "iri-reference", .draft7), (uriTemplate, "uri-template", .draft6),
    (jsonPointer, "json-pointer", .draft6), (relativeJsonPointer, "relative-json-pointer", .draft7),
    (regex, "regex", .draft4)]

/-- The format of that name, if the draft knows it. -/
def ofName? (d : Draft) (name : String) : Option TextFormat :=
  (names.find? fun (_, known, since) => known == name && since.rank ≤ d.rank).map (·.1)

/-- The name of a format. -/
def name (f : TextFormat) : String := (names.lookup f).elim "" (·.1)

/-- A text writes what the format asks for. -/
def admits (f : TextFormat) (s : String) : Bool :=
  match f with
  | date => Text.Clock.isDate s.toList
  | dateTime => Text.Clock.isMoment s.toList
  | time => Text.Clock.isTime s.toList
  | email => Text.Email.isAddress Text.isHostname s.toList
  | wideEmail => Text.Email.isAddress Text.isWideHostname s.toList
  | hostname => Text.isHostname s.toList
  | wideHostname => Text.isWideHostname s.toList
  | ipv4 => Text.isIpv4 s.toList
  | ipv6 => Text.isIpv6 s.toList
  | uri => (Uri.ofText? s).any (·.scheme.isSome)
  | uriReference => (Uri.ofText? s).isSome
  | wideUri => (Uri.ofWideText? s).any (·.scheme.isSome)
  | wideUriReference => (Uri.ofWideText? s).isSome
  | uriTemplate => Uri.Template.isTemplate s.toList
  | jsonPointer => Pointer.isPointer s.toList
  | relativeJsonPointer => Pointer.isRelative s.toList
  | regex => (Pattern.ofText? s).isSome

end TextFormat

end Dialogue
