import Envelope.Text.Alphabetic
import Envelope.Text.Numeric

/-!
Letters and numbers of all scripts.
-/

namespace Envelope.Text

/-- The character is alphabetic or stands for a number. -/
def IsAlphanumeric (c : Char) : Prop := IsAlphabetic c ∨ IsNumeric c

instance (c : Char) : Decidable (IsAlphanumeric c) := inferInstanceAs (Decidable (_ ∨ _))

end Envelope.Text
