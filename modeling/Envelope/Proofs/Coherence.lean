import Envelope.Proofs.FirstWrite
import Envelope.Proofs.Turns

/-!
Caches and store stay coherent, whatever is asked and whichever calls fail.

Every chain of records opens, and what a cache has at a time is the key of the record that stands
there under the id of the cache's owner. A cache tells keys apart by time alone, so this is what
keeps a key of another id out of it.
-/

namespace Envelope

/-- The key is that of the record which stands at the time under the id, as the store has it. It is
known to be revoked only if the record is. -/
structure Store.Backs (s : Store) (look : KeyMeta → Except Error Key) (id : String) (t : Time)
    (k : Key) : Prop where
  created : k.created.time = t
  record : ∃ r k', s.load? id t = some r ∧ look ⟨id, k.created⟩ = .ok k' ∧
    k.secret = k'.secret ∧ (k.revoked = true → r.isRevoked = true)

namespace Store

variable {s : Store} {m : Key} {c : KeyCache} {id : String} {t : Time} {e : CachedKey}

lemma backs_of_mirrors_systemKey (h : c.Mirrors fun t => s.systemKey m ⟨id, t⟩)
    (he : c.entries.get? t = some e) : s.Backs (s.systemKey m) id t e.key := by
  obtain ⟨ht, k, hk, hp⟩ := h t e he
  obtain ⟨r, hl, -⟩ := systemKey_eq_ok hk
  have hr := revoked_of_systemKey hk hl
  exact ⟨ht, r, k, ht ▸ hl, hk, hp.1.symm, fun hrev => hr ▸ hp.2.2 hrev⟩

lemma backs_of_mirrors_intermediateKey (h : c.Mirrors fun t => s.intermediateKey m ⟨id, t⟩)
    (he : c.entries.get? t = some e) : s.Backs (s.intermediateKey m) id t e.key := by
  obtain ⟨ht, k, hk, hp⟩ := h t e he
  obtain ⟨r, -, -, hl, -⟩ := intermediateKey_eq_ok hk
  have hr := revoked_of_intermediateKey hk hl
  exact ⟨ht, r, k, ht ▸ hl, hk, hp.1.symm, fun hrev => hr ▸ hp.2.2 hrev⟩

end Store

namespace World

/-- Every key that the session has cached is that of a record under the own ids of the partition. -/
def CachesOwn (m : Key) (w : World) (n : Nat) (p : Partition) : Prop :=
  ∀ (s : EngineState) (c : KeyCache), w.engines[n]? = some s →
    w.systemKeys[s.systemKeys]? = some c →
    (∀ t e, s.intermediateKeys.entries.get? t = some e →
      w.environment.store.Backs (w.environment.store.intermediateKey m) p.intermediateKeyId t
        e.key) ∧
    ∀ t e, c.entries.get? t = some e →
      w.environment.store.Backs (w.environment.store.systemKey m) p.systemKeyId t e.key

/-- Records open along their chains, and cached keys are those of their records. That an opened key
has 32 bytes is part of what a key is. -/
structure Coherent (m : Key) (w : World) : Prop where
  dated : ∀ {id t r}, w.environment.store.load? id t = some r → r.created.time = t
  system : ∀ {id t r}, IsSystemId id → w.environment.store.load? id t = some r →
    r.parent = none ∧ ∃ k, r.openWith m = .ok k
  intermediate : ∀ {id t r}, IsIntermediateId id → w.environment.store.load? id t = some r →
    ∃ p r' outer k, r.parent = some p ∧ IsSystemId p.keyId ∧
      w.environment.store.load? p.keyId p.created.time = some r' ∧
      r'.openWith m = .ok outer ∧ r.openWith outer = .ok k
  systemKeys : ∀ {i : Nat} {f : Factory} {c : KeyCache} {t e}, w.factories[i]? = some f →
    w.systemKeys[f.systemKeys]? = some c → c.entries.get? t = some e →
      w.environment.store.Backs (w.environment.store.systemKey m)
        (f.systemKeyId w.environment.store.suffix) t e.key
  intermediateKeys : ∀ {i : Nat} {s : EngineState} {t e}, w.engines[i]? = some s →
    s.intermediateKeys.entries.get? t = some e →
      w.environment.store.Backs (w.environment.store.intermediateKey m)
        s.partition.intermediateKeyId t e.key

lemma Sound.coherent {m : Key} {w : World} (h : w.Sound m) : w.Coherent m where
  dated hl := h.store.dated _ _ _ hl
  system hid hl := h.store.system hid hl
  intermediate hid hl := by
    obtain ⟨p, outer, k, hp, hpid, ho, hk⟩ := h.store.intermediate hid hl
    obtain ⟨r', hl', hopen⟩ := Store.systemKey_eq_ok ho
    exact ⟨p, r', outer, k, hp, hpid, hl', hopen, hk⟩
  systemKeys hf hc he := by
    obtain ⟨c', hc', -, hm⟩ := h.systemKeys hf
    rw [(h.factory hf).2] at hc
    cases hc.symm.trans hc'
    exact Store.backs_of_mirrors_systemKey hm he
  intermediateKeys hs he := Store.backs_of_mirrors_intermediateKey (h.intermediateKeys hs) he

/-- **Caches and store stay coherent** through every run from an empty store: requests of any kind,
calls that fail without effect, and well-formed records that come from elsewhere. -/
theorem caches_coherent (m : Key) (suffix : Option String) (clock : Clock) (random : Random)
    {turns : List Turn} (hfair : Fair m (start m suffix clock random) turns) :
    ((start m suffix clock random).play turns).Coherent m :=
  ((sound_start m suffix clock random).play hfair).coherent

end World

/-- Every kind of call fails once. -/
def Faults.once (err : Error) : Faults :=
  ⟨[some (.fail err)], [some (.fail err)], [some (.fail err)], [some err], [some err]⟩

lemma Faults.failing_once (err : Error) : (once err).Failing := by
  constructor <;> intro x hx
  all_goals
    obtain rfl : x = .fail err := by simpa [once] using hx
    first
      | exact ⟨err, rfl⟩
      | exact ⟨err, Or.inl rfl⟩

/-- A first write, its system key revoked, and two writes an hour later of which calls fail. -/
theorem World.coherent_after_failed_writes :
    let turns : List Turn := (beginning (.expiring 90)).map .request ++
      [.request (.revoke Partition.given.systemKeyId
          ((Policy.expiring 90).systemStamp Clock.epoch.wall).time),
        .request (.advance (.ofMinutes 60)),
        .plan (.once (.application .malformedKeyRecord)), .request (.encrypt 0 []),
        .request (.encrypt 0 [])]
    ((start .zeros none .epoch (.ofSeed 0)).play turns).Coherent .zeros := by
  intro turns
  refine caches_coherent .zeros none .epoch (.ofSeed 0) (fair_append.2 ⟨fair_map_request .., ?_⟩)
  exact ⟨trivial, trivial, Faults.failing_once _, trivial, trivial, trivial⟩

end Envelope
