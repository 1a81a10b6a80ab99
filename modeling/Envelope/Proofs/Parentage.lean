import Envelope.Proofs.Run

/-!
Which records are under a system key.

A record points to the same key for ever. The only step that puts a record under a system key is a
write that has used that key for a new intermediate key.
-/

namespace Envelope

namespace Store

/-- The record of the key id and time points there. -/
def IsUnder (s : Store) (p : KeyMeta) (id : String) (t : Time) : Prop :=
  ∃ r, s.load? id t = some r ∧ r.parent = some p

variable {s s' : Store} {p : KeyMeta} {id : String} {t : Time}

lemma Extends.isUnder (h : s.Extends s') (hu : s.IsUnder p id t) : s'.IsUnder p id t := by
  obtain ⟨r, hl, hp⟩ := hu
  exact ⟨r, h.load hl, hp⟩

lemma IsUnder.of_revoke {id' : String} {u : Time} (h : (s.revoke id' u).2.IsUnder p id t) :
    s.IsUnder p id t := by
  obtain ⟨r', hl', hp⟩ := h
  obtain ⟨r, hl, hr⟩ := load?_of_revoke hl'
  exact ⟨r, hl, hr.parent.symm.trans hp⟩

/-- What a record points to stays. -/
lemma Grows.isUnder_of_load? (h : s.Grows s') {r : KeyRecord} (hl : s.load? id t = some r)
    (hu : s'.IsUnder p id t) : s.IsUnder p id t := by
  obtain ⟨r₁, hl₁, hp⟩ := hu
  obtain ⟨r₂, hl₂, hr⟩ := h.load hl
  rw [hl₁] at hl₂
  cases hl₂
  exact ⟨r, hl, hr.parent.symm.trans hp⟩

/-- A system record points nowhere. -/
lemma AddsSystem.of_isUnder {system : String} {created : Stamp}
    (h : s.AddsSystem system created s') (hu : s'.IsUnder p id t) : s.IsUnder p id t := by
  rcases h with rfl | ⟨-, wrapped, rfl⟩
  · exact hu
  · obtain ⟨r, hl, hp⟩ := hu
    rcases load?_of_insert hl with hl | ⟨-, -, rfl, -⟩
    · exact ⟨r, hl, hp⟩
    · cases hp

end Store

namespace Engine

variable {e : Engine} {m : Key} {w w' : Workspace} {k : Key} {p : KeyMeta}

/-- An intermediate record that a write has added is under the system key that it used. -/
lemma IntermediateKeyUsed.of_isUnder {s' : Store} {c' : KeyCache}
    (h : e.IntermediateKeyUsed w s' c' k) {id : String} {t : Time} (hu : s'.IsUnder p id t) :
    w.environment.store.IsUnder p id t ∨ ∃ s systemKey, e.SystemKeyUsed w s systemKey ∧
      p = ⟨e.partition.systemKeyId, systemKey.created⟩ ∧
      t = (e.policy.intermediateStamp w.environment.clock.wall).time := by
  cases h with
  | cached t caches latest permits same => exact Or.inl (same ▸ hu)
  | newest misses newest =>
    cases newest with
    | latest r q latest permits parent parentPermits created same => exact Or.inl (same ▸ hu)
    | added s systemKey wrapped refuses free used created adds =>
      subst adds
      obtain ⟨r, hl, hp⟩ := hu
      rcases Store.load?_of_insert hl with hl | ⟨-, rfl, rfl, -⟩
      · exact Or.inl (used.addsSystem.of_isUnder ⟨r, hl, hp⟩)
      · cases hp
        exact Or.inr ⟨s, systemKey, used, rfl, congrArg Stamp.time created⟩
    | reloaded r systemKey refuses taken used => exact Or.inl (used.addsSystem.of_isUnder hu)

end Engine

namespace World

variable {m : Key} {w w' : World} {p : KeyMeta}

/-- Sealing adds an intermediate record only under the system key that it used. -/
lemma Sealed.of_isUnder {s : EngineState} {c : KeyCache} {payload : Bytes}
    {r : Except Error Bytes} {v : Engine.Workspace} (h : Sealed m w s c payload r v) {id : String}
    {t : Time} (hu : v.environment.store.IsUnder p id t) :
    w.environment.store.IsUnder p id t ∨
      ∃ (s' : Store) (k : Key), (s.engine m).SystemKeyUsed (w.workspace s c) s' k ∧
        p = ⟨s.partition.systemKeyId, k.created⟩ ∧
        t = (s.policy.intermediateStamp w.environment.clock.wall).time := by
  rcases h.writes_or_prepares with ⟨k, writes⟩ | prepares
  · exact writes.used.of_isUnder hu
  · exact Or.inl (prepares.store.of_isUnder hu)

/-- A request adds an intermediate record only where a write seals, and under the system key that
the write used. -/
lemma Step.of_isUnder {q : Request} (h : Step m w q w') {id : String} {t : Time}
    (hu : w'.environment.store.IsUnder p id t) :
    w.environment.store.IsUnder p id t ∨
      ∃ (n : Nat) (s : EngineState) (f : Factory) (c : KeyCache) (s' : Store) (k : Key),
        Seat m w n s f c ∧ (s.engine m).SystemKeyUsed (w.workspace s c) s' k ∧
        p = ⟨s.partition.systemKeyId, k.created⟩ ∧
        t = (s.policy.intermediateStamp w.environment.clock.wall).time := by
  cases h with
  | tidied q w' tidy tidies => exact Or.inl (tidies.environment.store ▸ hu)
  | added product service policy w' adds =>
    obtain ⟨sessions, rfl, -⟩ := addFactory_eq_ok adds
    exact Or.inl hu
  | sealed i payload s f c r v seat answer result =>
    refine (result.of_isUnder hu).imp_right fun ⟨s', k, hused⟩ => ?_
    exact ⟨i, s, f, c, s', k, seat, hused⟩
  | opened i text s f c r v seat result =>
    exact Or.inl (result.keeps.store ▸ hu)
  | advanced d => exact Or.inl hu
  | set now => exact Or.inl hu
  | revoked keyId created log => exact Or.inl hu.of_revoke

end World

end Envelope
