import Mathlib.Tactic.Common
import Envelope.SessionCache

/-!
Which engine a session cache answers with, and which sessions it lists afterwards.
-/

namespace Envelope

namespace SessionCache

variable (c : SessionCache) (now : Nat) (partition : String) (fresh : Nat)

/-- A request is met by the fresh engine or by the engine of a cached session of the partition. -/
lemma request_engine :
    ((c.request now partition fresh).isNew = true ∧
      (c.request now partition fresh).engine = fresh) ∨
    ((c.request now partition fresh).isNew = false ∧ ∃ y ∈ c.sessions,
      y.partition = partition ∧ (c.request now partition fresh).engine = y.engine) := by
  unfold request
  split
  · exact Or.inl ⟨rfl, rfl⟩
  · dsimp only
    split
    · next s hs =>
      refine Or.inr ⟨rfl, s, (List.mem_filter.1 (List.mem_of_find?_eq_some hs)).1, ?_, rfl⟩
      simpa using List.find?_some hs
    · exact Or.inl ⟨rfl, rfl⟩

/-- The cache lists sessions it did before and the one that is new. -/
lemma mem_request (x : CachedSession)
    (hx : x ∈ (c.request now partition fresh).cache.sessions) :
    (∃ y ∈ c.sessions, x.partition = y.partition ∧ x.engine = y.engine) ∨
      (c.request now partition fresh).isNew = true ∧ x.partition = partition ∧
        x.engine = fresh := by
  unfold request at hx ⊢
  split at hx
  · exact Or.inl ⟨x, hx, rfl, rfl⟩
  · next hlimit =>
    rw [if_neg hlimit]
    dsimp only at hx ⊢
    split at hx
    · next s hs =>
      rcases List.mem_cons.1 hx with rfl | hx
      · exact Or.inl ⟨s, (List.mem_filter.1 (List.mem_of_find?_eq_some hs)).1, rfl, rfl⟩
      · exact Or.inl ⟨x, (List.mem_filter.1 (List.mem_filter.1 hx).1).1, rfl, rfl⟩
    · rcases List.mem_cons.1 hx with rfl | hx
      · exact Or.inr ⟨rfl, rfl, rfl⟩
      · refine Or.inl ⟨x, ?_, rfl, rfl⟩
        split at hx
        · exact (List.mem_filter.1 (List.dropLast_subset _ hx)).1
        · exact (List.mem_filter.1 hx).1

end SessionCache

end Envelope
