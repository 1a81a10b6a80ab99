import Mathlib.Data.Finset.Card
import Envelope.Timeline

/-!
Timelines as finite maps from instants.
-/

namespace Envelope

namespace Timeline

variable {α : Type}

lemma nodup_times (l : Timeline α) : (l.entries.map Prod.fst).Nodup := by
  refine (List.pairwise_map.2 l.sorted).imp fun {a b} hab => ?_
  rintro rfl
  exact absurd hab (Int.lt_irrefl _)

/-- **A timeline has** as many values as there are instants with a value. -/
lemma size_eq_card {l : Timeline α} {times : Finset Time}
    (h : ∀ t, (l.get? t).isSome ↔ t ∈ times) : l.size = times.card := by
  have htimes : (l.entries.map Prod.fst).toFinset = times := by
    ext t
    rw [List.mem_toFinset, ← h, Option.isSome_iff_exists]
    simp [get?_eq_some_iff]
  rw [← htimes, List.toFinset_card_of_nodup l.nodup_times, List.length_map]
  rfl

end Timeline

end Envelope
