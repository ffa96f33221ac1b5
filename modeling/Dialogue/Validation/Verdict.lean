import Dialogue.Validation.Rules

/-!
# Validation

An envelope is first checked against its schema; if it passes, all rules are checked and every
violation is collected. It is valid when no violation counts.
-/
namespace Dialogue

structure ValidationOptions where
  /-- Whether a warning is enough to make an envelope invalid. -/
  warningsFail : Bool := true
  deriving Repr, DecidableEq

/-- Whether a violation makes an envelope invalid. -/
def Violation.counts (options : ValidationOptions) (v : Violation) : Bool :=
  v.severity == .error || options.warningsFail

namespace Envelope

/-- The violations of all rules, rule by rule. -/
def violations (checks : StructureChecks) (e : Envelope) : List Violation :=
  Rule.all.flatMap (Rule.violations checks e)

/-- The failure that tells violations. -/
def failureOf (violations : List Violation) : Failure :=
  .ofLines .semantic
    ("envelope failed semantic validation with " ++ toString violations.length ++ " violation(s)")
    (violations.map Violation.display)

/-- The failure of an envelope that is not valid. -/
def failure? (checks : StructureChecks) (options : ValidationOptions) (e : Envelope) :
    Option Failure :=
  match checks.envelope e.toJson with
  | some failure => some { failure with code := .schemaEnvelope }
  | none =>
      let violations := e.violations checks
      if violations.any (Violation.counts options) then some (failureOf violations) else none

end Envelope

end Dialogue
