/-!
# ASCII letter case

Names that the formats fix in advance are compared without regard to the case of the letters from
`A` to `Z`; every other character has to agree.
-/
namespace Dialogue.Text

/-- Equal up to the case of ASCII letters. -/
def sameIgnoringAsciiCase (s t : String) : Bool := s.toLower == t.toLower

theorem sameIgnoringAsciiCase_refl (s : String) : sameIgnoringAsciiCase s s = true := by
  simp [sameIgnoringAsciiCase]

end Dialogue.Text
