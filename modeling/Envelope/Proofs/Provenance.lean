import Envelope.Proofs.FirstWrite
import Envelope.Proofs.Steady

/-!
Where cached intermediate keys come from, and which of them is used.

A session puts an intermediate key into its cache when a write resolves it as the newest one, and
when it opens a record that names it. Nothing else puts one there, and nothing else renews it. What
the cache offers to a write is the greatest key in it, however that key got there.
-/

namespace Envelope.World

variable {m : Key} {w w' : World} {n : Nat} {s : EngineState} {f : Factory} {c : KeyCache}

/-! ### How a key gets into the cache -/

/-- A write caches no other intermediate key anew than the newest one. -/
lemma Sealed.intermediate_entry {payload : Bytes} {r : Except Error Bytes} {v : Engine.Workspace}
    (result : Sealed m w s c payload r v) {t : Time} {e : CachedKey}
    (hentry : v.intermediateKeys.entries.get? t = some e) :
    s.intermediateKeys.entries.get? t = some e ∨ e.since = w.environment.clock.elapsed ∧
      ∃ k : Key, (s.engine m).NewestIntermediateKey (w.workspace s c) v.environment.store k ∧
        k.created.time = t := by
  rcases result.writes_or_prepares with ⟨k, writes⟩ | prepares
  · cases writes.used with
    | cached u caches latest permits same cache =>
      rw [cache] at hentry
      exact Or.inl hentry
    | newest misses newest cache =>
      rw [cache] at hentry
      unfold Engine.retained at hentry
      split at hentry
      · exact (KeyCache.get?_put hentry).imp_right fun ⟨ht, hsince⟩ => ⟨hsince, k, newest, ht.symm⟩
      · exact Or.inl hentry
  · rw [prepares.intermediateKeys] at hentry
    exact Or.inl hentry

/-- A read caches no other intermediate key anew than the one that the record names. -/
lemma Seat.intermediate_opened (hs : Seat m w n s f c) {text : Bytes} {r : Except Error Bytes}
    {v : Engine.Workspace} (result : (s.engine m).Opened m (w.workspace s c) text r v) {t : Time}
    {e : CachedKey} (hentry : v.intermediateKeys.entries.get? t = some e) :
    s.intermediateKeys.entries.get? t = some e ∨ e.since = w.environment.clock.elapsed ∧
      ∃ q, DataRow.named? text = some q ∧ q.keyId = s.partition.intermediateKeyId ∧
        q.created.time = t := by
  rcases result with ⟨q, k, named, reads⟩ | ⟨reads, -⟩
  · rw [reads.intermediateKeys] at hentry
    unfold Engine.renewed at hentry
    split at hentry
    · next hc =>
      refine (KeyCache.get?_put hentry).imp_right fun ⟨ht, hsince⟩ => ?_
      have hcreated := hs.sound.dated.created_of_intermediateKey reads.key
      exact ⟨hsince, q, named, Engine.keyId_of_cachesIntermediateKey hc.1, hcreated ▸ ht.symm⟩
    · exact Or.inl hentry
  · rw [reads.intermediateKeys] at hentry
    exact Or.inl hentry

/-- **A cached intermediate key** was cached before the request, or it has just been resolved as the
newest one, or read because the session has opened a record that names it. -/
theorem Step.intermediate {q : Request} (h : Step m w q w') {i : Nat} {id : String} {t : Time}
    {e : CachedKey} (he : w'.HoldsIntermediate i id t e) :
    w.HoldsIntermediate i id t e ∨ w'.environment.clock = w.environment.clock ∧
      e.since = w.environment.clock.elapsed ∧
      ((∃ s f c k, Seat m w i s f c ∧ s.partition.intermediateKeyId = id ∧
          (s.engine m).NewestIntermediateKey (w.workspace s c) w'.environment.store k ∧
          k.created.time = t) ∨
        ∃ text p, q = .decrypt i text ∧ DataRow.named? text = some p ∧ p.keyId = id ∧
          p.created.time = t) := by
  cases h with
  | tidied q w' tidy tidies => exact Or.inl (tidies.intermediate he)
  | added product service policy w' adds =>
    obtain ⟨sessions, rfl, -⟩ := addFactory_eq_ok adds
    exact Or.inl he
  | sealed n payload s f c r v seat answer result =>
    rcases seat.intermediate_settle he with he | ⟨rfl, hid, hentry⟩
    · exact Or.inl he
    · rcases result.intermediate_entry hentry with hentry | ⟨hsince, k, newest, ht⟩
      · exact Or.inl ⟨s, seat.engine, hid, hentry⟩
      · exact Or.inr ⟨result.evolves.clock, hsince, Or.inl ⟨s, f, c, k, seat, hid, newest, ht⟩⟩
  | opened n text s f c r v seat result =>
    rcases seat.intermediate_settle he with he | ⟨rfl, hid, hentry⟩
    · exact Or.inl he
    · rcases seat.intermediate_opened result hentry with hentry | ⟨hsince, p, named, hp, ht⟩
      · exact Or.inl ⟨s, seat.engine, hid, hentry⟩
      · exact Or.inr ⟨(seat.sound.evolves_of_opened result).clock, hsince,
          Or.inr ⟨text, p, rfl, named, hp.trans hid, ht⟩⟩
  | advanced d => exact Or.inl he
  | set now => exact Or.inl he
  | revoked keyId created log => exact Or.inl he

/-! ### The key that the cache offers -/

/-- The cache of the session has the intermediate key as its latest, fresh and permitted. -/
def Offers (m : Key) (w : World) (n : Nat) (q : KeyMeta) : Prop :=
  ∃ (s : EngineState) (t : Time) (k : Key), w.engines[n]? = some s ∧
    s.policy.cachesIntermediateKeys = true ∧
    s.intermediateKeys.latest? w.environment.clock.elapsed = some (t, k) ∧
    (s.engine m).Permits w.environment.clock.wall k.created k.revoked ∧
    q = ⟨s.partition.intermediateKeyId, k.created⟩

lemma Offers.unique {q q' : KeyMeta} (h : w.Offers m n q) (h' : w.Offers m n q') : q = q' := by
  obtain ⟨s, t, k, hs, -, latest, -, rfl⟩ := h
  obtain ⟨s', t', k', hs', -, latest', -, rfl⟩ := h'
  cases hs.symm.trans hs'
  cases latest.symm.trans latest'
  rfl

/-- **A session seals** under the key that its cache offers, or under the newest one where the cache
offers none. -/
theorem Sealed.named {payload text : Bytes} {v : Engine.Workspace} (hs : Seat m w n s f c)
    (h : Sealed m w s c payload (.ok text) v) : ∃ q, DataRow.named? text = some q ∧
      (w.Offers m n q ∨ (∀ q', ¬ w.Offers m n q') ∧ ∃ k : Key,
        (s.engine m).NewestIntermediateKey (w.workspace s c) v.environment.store k ∧
        q = ⟨s.partition.intermediateKeyId, k.created⟩) := by
  cases h with
  | record _ k _ writes named opens =>
    refine ⟨_, named, ?_⟩
    cases writes.used with
    | cached t caches latest permits same cache =>
      exact Or.inl ⟨s, t, k, hs.engine, caches, latest, permits, rfl⟩
    | newest misses newest cache =>
      refine Or.inr ⟨fun q ho => ?_, k, newest, rfl⟩
      obtain ⟨s', t, k', hs', caches, latest, permits, -⟩ := ho
      cases hs.engine.symm.trans hs'
      exact misses caches t k' latest permits

/-! ### A read that puts a key back -/

/-- The record opens and names an intermediate key that the session caches, that is no longer fresh
and that no cached key is newer than. -/
structure Rereads (m : Key) (w : World) (s : EngineState) (created : Stamp) (row : Bytes) :
    Prop where
  caches : s.policy.cachesIntermediateKeys = true
  held : s.intermediateKeys.held.isSome
  faults : w.environment.faults = .none
  opens : ∃ payload, w.environment.store.openRow m s.partition row = .ok payload
  named : DataRow.named? row = some ⟨s.partition.intermediateKeyId, created⟩
  greatest : ∀ {t e}, s.intermediateKeys.entries.get? t = some e → t ≤ created.time
  stale : s.intermediateKeys.get? w.environment.clock.elapsed created.time = none

/-- **A read puts an intermediate key back** that is no longer fresh, whatever has become of its
system key. -/
lemma Rereads.renews {created : Stamp} {row : Bytes} (hr : Rereads m w s created row)
    (hs : Seat m w n s f c) (h : w.Sound m) :
    ∃ v k, w.apply (.decrypt n row) = w.settle n s v ∧ w.environment.Keeps v.environment ∧
      w.environment.store.intermediateKey m ⟨s.partition.intermediateKeyId, created⟩ = .ok k ∧
      v.intermediateKeys.revokeCheck = s.intermediateKeys.revokeCheck ∧
      v.intermediateKeys.entries.latest? =
        some (created.time, ⟨k, w.environment.clock.elapsed⟩) := by
  obtain ⟨payload, hrow⟩ := hr.opens
  obtain ⟨a, v, ha, hopened, hanswer⟩ := h.decrypt hs row
  have hok : a = .ok payload := by
    rcases hanswer with rfl | ⟨err, -, hplan⟩
    · exact hrow
    · exact absurd hplan (hr.faults ▸ Faults.not_plans_none err)
  rcases hopened with ⟨q, k, named, reads⟩ | ⟨-, err, rfl⟩
  · cases hr.named.symm.trans named
    have hcreated : k.created = created := hs.sound.dated.created_of_intermediateKey reads.key
    have hcache : v.intermediateKeys =
        (s.intermediateKeys.put w.environment.clock.elapsed k.created.time k).2 := by
      have hown : (s.engine m).cachesIntermediateKey ⟨s.partition.intermediateKeyId, created⟩ =
          true := by
        simp [Engine.cachesIntermediateKey, EngineState.engine, hr.caches]
      have hc := reads.intermediateKeys
      unfold Engine.renewed at hc
      rw [if_pos ⟨hown, hr.stale⟩] at hc
      exact hc
    have hput : ∀ u, (s.intermediateKeys.put w.environment.clock.elapsed k.created.time
        k).2.entries.get? u = if s.intermediateKeys.held.isSome ∧ u = k.created.time then
          some ⟨k, w.environment.clock.elapsed⟩ else s.intermediateKeys.entries.get? u :=
      ((h.intermediateKeys hs.engine).put (hcreated.symm ▸ reads.key)).2
    refine ⟨v, k, apply_decrypt ha, reads.environment, reads.key, ?_, ?_⟩
    · rw [hcache, KeyCache.revokeCheck_put]
    · rw [hcache, Timeline.latest?_eq_some_iff]
      refine ⟨?_, fun u e he => ?_⟩
      · rw [hput, if_pos ⟨hr.held, by rw [hcreated]⟩]
      · rw [hput] at he
        split at he
        · next hu => exact Int.le_of_eq (congrArg Time.nanos (hu.2.trans (by rw [hcreated])))
        · exact hr.greatest he
  · cases hok

/-- The cache offers the key that a read has put back until a period has gone by. -/
lemma Rereads.offers {created : Stamp} {row : Bytes} (hr : Rereads m w s created row)
    (hs : Seat m w n s f c) (h : w.Sound m) {r : KeyRecord}
    (hl : w.environment.store.load? s.partition.intermediateKeyId created.time = some r)
    (hrevoked : r.isRevoked = false) (d : Duration)
    (hd : d.nanos < s.intermediateKeys.revokeCheck.nanos)
    (hlives : ¬ s.policy.IsExpired (w.environment.clock.advance d).wall created.time) :
    (w.run [.decrypt n row, .advance d]).Offers m n
        ⟨s.partition.intermediateKeyId, created⟩ ∧
      (w.run [.decrypt n row, .advance d]).environment.store = w.environment.store := by
  obtain ⟨v, k, hread, hkeeps, hkey, hcheck, hlatest⟩ := hr.renews hs h
  have hcreated : k.created = created := hs.sound.dated.created_of_intermediateKey hkey
  have hknown := Store.revoked_of_intermediateKey hkey hl
  rw [run_cons, run_cons, run_nil, hread]
  refine ⟨⟨{ s with intermediateKeys := v.intermediateKeys }, _, k,
    List.getElem?_set_self (List.getElem?_eq_some_iff.1 hs.engine).1, hr.caches,
    KeyCache.latest?_eq_some.2 ⟨_, hlatest, ?_, rfl⟩,
    ⟨hknown.trans hrevoked, fun hexpired => absurd hexpired ?_⟩, by rw [hcreated]⟩, hkeeps.store⟩
  · show v.environment.clock.elapsed + d.nanos - w.environment.clock.elapsed < _
    rw [hkeeps.clock, hcheck]
    omega
  · show ¬ s.policy.IsExpired (v.environment.clock.advance d).wall k.created.time
    rw [hkeeps.clock, hcreated]
    exact hlives

/-- A period after the first write of a session, a read of what it sealed puts the key back,
whatever other records there are by then. -/
lemma Begun.rereads {policy : Policy} {partition : Partition} {now : Clock}
    (hw : Begun m partition policy now w) (hpast : w.Past)
    (hcaches : policy.cachesIntermediateKeys = true) {row payload : Bytes}
    (hrow : w.environment.store.openRow m partition row = .ok payload)
    (hnamed : DataRow.named? row =
      some ⟨partition.intermediateKeyId, policy.intermediateStamp now.wall⟩) :
    ∃ s : EngineState, w.engines[0]? = some s ∧ s.partition = partition ∧ s.policy = policy ∧
      s.intermediateKeys.revokeCheck = policy.revokeCheck ∧
      ∀ later : World, w.environment.store.Grows later.environment.store →
        later.environment.faults = .none →
        now.elapsed + policy.revokeCheck.nanos ≤ later.environment.clock.elapsed →
        Rereads m later s (policy.intermediateStamp now.wall) row := by
  obtain ⟨s, hs, rfl, rfl, hheld⟩ := hw.session
  obtain rfl := hw.clock
  obtain ⟨f, hf, hof⟩ := hw.sound.engine hs
  have hcheck : s.intermediateKeys.revokeCheck = s.policy.revokeCheck := by
    rw [hof.revokeCheck, hof.policy]
  refine ⟨s, hs, rfl, rfl, hcheck, fun later hgrows hfaults hlate => ?_⟩
  refine ⟨hcaches, hheld, hfaults, ⟨payload, hgrows.openRow hrow⟩, hnamed, fun he => ?_, ?_⟩
  · exact Int.le_of_eq (congrArg Time.nanos (hw.single.cached (hw.sound.intermediateKeys hs) he))
  · exact hpast.get?_eq_none hs (hcheck ▸ hlate) _

end Envelope.World
