import Dialogue.Text.AlphanumericTable
import Dialogue.Text.Ranges

/-!
# Letters and digits of any script
-/
namespace Dialogue.Text

def isAlphanumeric (c : Char) : Bool := inRanges alphanumericRanges c

end Dialogue.Text
