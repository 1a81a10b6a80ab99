/-!
Classes of numbers given by bounds, for classes of characters that no formula describes.
-/

namespace Envelope.Text

/-- The number is in a class of ranges: each odd place of the bounds begins a range, and the next
even place is the first number after it. -/
def InRanges (bounds : List Nat) (n : Nat) : Prop :=
  (bounds.takeWhile (· ≤ n)).length % 2 = 1

instance (bounds : List Nat) (n : Nat) : Decidable (InRanges bounds n) :=
  inferInstanceAs (Decidable (_ = _))

end Envelope.Text
