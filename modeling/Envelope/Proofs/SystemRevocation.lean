import Envelope.Proofs.FirstWrite
import Envelope.Proofs.Withdrawal

/-!
How long a revoked system key goes on protecting new data.

Two periods after the revocation a write is under the revoked key just where the session hands out
an intermediate key under it. A read in the last period is enough for that, since it puts the key
back whose record it opens.
-/

namespace Envelope.World

variable {m : Key} {policy : Policy} {minutes : UInt32} {w w' : World} {p : KeyMeta}
  {since : Nat} {n : Nat} {s : EngineState} {f : Factory} {c : KeyCache}

/-- The session would seal under a key that it has cached and that is under the pointer. -/
def HandsOut (m : Key) (w : World) (n : Nat) (p : KeyMeta) : Prop :=
  ∃ (s : EngineState) (t : Time) (k : Key), w.engines[n]? = some s ∧
    s.policy.cachesIntermediateKeys = true ∧
    s.intermediateKeys.latest? w.environment.clock.elapsed = some (t, k) ∧
    (s.engine m).Permits w.environment.clock.wall k.created k.revoked ∧
    w.environment.store.IsUnder p s.partition.intermediateKeyId k.created.time

/-- What a session hands out is what its cache offers. -/
lemma handsOut_iff : w.HandsOut m n p ↔
    ∃ q, w.Offers m n q ∧ w.environment.store.IsUnder p q.keyId q.created.time := by
  constructor
  · rintro ⟨s, t, k, hs, caches, latest, permits, hu⟩
    exact ⟨_, ⟨s, t, k, hs, caches, latest, permits, rfl⟩, hu⟩
  · rintro ⟨q, ⟨s, t, k, hs, caches, latest, permits, rfl⟩, hu⟩
    exact ⟨s, t, k, hs, caches, latest, permits, hu⟩

/-- What a session seals is under the key that it hands out. -/
lemma Sealed.isUnder_of_handsOut {payload text : Bytes} {v : Engine.Workspace}
    (hs : Seat m w n s f c) (h : Sealed m w s c payload (.ok text) v) (ho : w.HandsOut m n p) :
    ∃ q, DataRow.named? text = some q ∧ v.environment.store.IsUnder p q.keyId q.created.time := by
  obtain ⟨q, hoffers, hu⟩ := handsOut_iff.1 ho
  obtain ⟨q', named, hoffers' | ⟨hnone, -⟩⟩ := h.named hs
  · cases hoffers.unique hoffers'
    exact ⟨q, named, h.evolves.store.isUnder hu⟩
  · exact absurd hoffers (hnone q)

/-- **A withdrawn system key** protects what is sealed two periods later just if the session hands
out an intermediate key under it. -/
lemma Sealed.isUnder_iff_handsOut {payload text : Bytes} {v : Engine.Workspace}
    (hs : Seat m w n s f c) (h : Sealed m w s c payload (.ok text) v)
    (hr : w.Withdrawn p since minutes) (ht : OnTime m policy w) (hp : policy.ChecksEvery minutes)
    (hm : 1 ≤ minutes.toNat)
    (hlate : since + 2 * (minutes.toNat * 60000000000) ≤ w.environment.clock.elapsed) :
    (∃ q, DataRow.named? text = some q ∧
      v.environment.store.IsUnder p q.keyId q.created.time) ↔ w.HandsOut m n p := by
  refine ⟨?_, h.isUnder_of_handsOut hs⟩
  cases h with
  | record _ k _ writes named opens =>
    rintro ⟨q, hq, hu⟩
    cases named.symm.trans hq
    cases writes.used with
    | cached t caches latest permits same cache =>
      exact ⟨s, t, k, hs.engine, caches, latest, permits, same ▸ hu⟩
    | newest misses newest cache =>
      have := hr.elapsed_of_newest ht hp hm hs newest hu
      omega

/-- **A revoked system key goes on protecting new data** two periods after its revocation just
where a session has an intermediate key under it cached. The session has then put that key back
within the last period, when it opened a record that names it, or else it is no more than a minute
later. -/
theorem revoked_system_key_used_iff (m : Key) (suffix : Option String) (clock : Clock)
    (random : Random) {policy : Policy} {minutes : UInt32} (hp : policy.ChecksEvery minutes)
    (hm : 1 ≤ minutes) {before after : List Request} {p : KeyMeta}
    (hsteady : Steady policy clock (before ++ .revoke p.keyId p.created.time :: after))
    (hfound : (((start m suffix clock random).run before).revokeRecord p.keyId
      p.created.time).1 = true)
    (hlate : ((start m suffix clock random).run before).environment.clock.elapsed +
        2 * (minutes.toNat * 60000000000) ≤
      ((start m suffix clock random).run
        (before ++ .revoke p.keyId p.created.time :: after)).environment.clock.elapsed)
    {n : Nat} {payload text : Bytes} {w' : World}
    (hsealed : ((start m suffix clock random).run
      (before ++ .revoke p.keyId p.created.time :: after)).encrypt n payload =
        some (.ok text, w')) :
    let w := (start m suffix clock random).run
      (before ++ .revoke p.keyId p.created.time :: after)
    ((∃ q, DataRow.named? text = some q ∧ w'.environment.store.IsUnder p q.keyId q.created.time) ↔
      w.HandsOut m n p) ∧
    (w.HandsOut m n p →
      w.environment.clock.elapsed <
        ((start m suffix clock random).run before).environment.clock.elapsed +
          2 * (minutes.toNat * 60000000000) + 60000000000 ∨
      ∃ earlier row later q, after = earlier ++ .decrypt n row :: later ∧
        DataRow.named? row = some q ∧ w.environment.store.IsUnder p q.keyId q.created.time ∧
        w.environment.clock.elapsed < ((start m suffix clock random).run
          (before ++ .revoke p.keyId p.created.time :: earlier)).environment.clock.elapsed +
            minutes.toNat * 60000000000) := by
  replace hm : 1 ≤ minutes.toNat := by
    simpa using UInt32.le_iff_toNat_le.1 hm
  obtain ⟨hbefore, hrest⟩ := onTime_of_append m suffix random hsteady
  rw [revokeRecord_fst] at hfound
  simp only [run_append, run_cons] at hlate hsealed ⊢
  generalize (start m suffix clock random).run before = w₁ at *
  have hrevoked := (hbefore.apply hrest.1).1
  have hsteady := hbefore.steady_rest hrest
  have hwithdrawn := hbefore.withdrawn hm hfound
  have hclock : (w₁.apply (.revoke p.keyId p.created.time)).environment.clock =
      w₁.environment.clock := (hbefore.sound.apply _).2.clock
  generalize w₁.apply (.revoke p.keyId p.created.time) = w₂ at *
  obtain ⟨hafter, -⟩ := hrevoked.run hsteady
  have hwithdrawn' := hwithdrawn.run hrevoked hp hm hsteady
  refine ⟨?_, fun ho => ?_⟩
  · obtain ⟨s, f, c, v, hseat, rfl, hresult⟩ := hafter.sound.sealed_of_encrypt hsealed
    exact hresult.isUnder_iff_handsOut hseat hwithdrawn' hafter hp hm hlate
  · obtain ⟨s, t, k, hs, caches, latest, permits, hu⟩ := ho
    obtain ⟨f, c, hseat⟩ := hafter.sound.seat hs
    obtain ⟨e, he, hfresh, rfl⟩ := hseat.sound.intermediateKeys.exists_entry latest
    replace hfresh : (w₂.run after).environment.clock.elapsed - e.since <
      s.intermediateKeys.revokeCheck.nanos := hfresh
    rw [(hafter.revokeCheck hp hseat).2] at hfresh
    rcases hwithdrawn.intermediate_run hrevoked hp hm hsteady ⟨s, hs, rfl, he⟩ hu with
      hold | hsince | ⟨earlier, row, later, q, rfl, named, hid, hcreated, hsince⟩
    · have hpast := hrevoked.past.intermediate hold
      rw [hclock] at hpast
      omega
    · exact Or.inl (by omega)
    · rw [← hid, ← hcreated] at hu
      exact Or.inr ⟨earlier, row, later, q, rfl, named, hu, by omega⟩

/-- Without a read, the revoked key is out of use after two periods and a minute. -/
theorem revoked_system_key_unused_without_reads :
    let p : KeyMeta := ⟨Partition.given.systemKeyId,
      (Policy.expiring 90).systemStamp Clock.epoch.wall⟩
    let w := (start .zeros none .epoch (.ofSeed 0)).run (beginning (.expiring 90) ++
      .revoke p.keyId p.created.time :: [.advance (.ofMinutes 121)])
    ∃ text w', w.encrypt 0 [] = some (.ok text, w') ∧
      ¬ ∃ q, DataRow.named? text = some q ∧
        w'.environment.store.IsUnder p q.keyId q.created.time := by
  intro p w
  obtain ⟨hw, -⟩ := begun_beginning (.expiring 90) rfl
  obtain ⟨s, hs, -⟩ := hw.session
  obtain ⟨r, hr, -⟩ := hw.single.outer
  obtain ⟨text, htext⟩ := hw.sound.encrypt_later hw.faults hs
    (.revoke p.keyId p.created.time :: [.advance (.ofMinutes 121)]) [] (by decide)
  rw [← run_append] at htext
  obtain ⟨⟨_, w'⟩, htext, rfl⟩ := Option.map_eq_some_iff.1 htext
  have hstart := sound_start .zeros none .epoch (.ofSeed 0)
  have hsteady : Steady (.expiring 90) .epoch (beginning (.expiring 90) ++
      .revoke p.keyId p.created.time :: [.advance (.ofMinutes 121)]) := by
    simp [beginning, opening, Steady, Request.IsSteady]
    decide
  obtain ⟨hiff, honly⟩ := revoked_system_key_used_iff .zeros none .epoch (.ofSeed 0)
    (.expiring 90) (by decide) hsteady
    (by
      rw [revokeRecord_fst, hr]
      rfl)
    (by
      rw [hw.clock, hstart.clock_run]
      decide)
    htext
  refine ⟨text, w', htext, fun hu => ?_⟩
  rcases honly (hiff.1 hu) with hsoon | ⟨earlier, row, later, q, hread, -⟩
  · rw [hw.clock, hstart.clock_run] at hsoon
    exact absurd hsoon (by decide)
  · cases earlier with
    | nil => cases hread
    | cons q rest => simp at hread

/-! ### A read in between -/

/-- The session hands out the key that it has put back until a period has gone by. -/
lemma Rereads.handsOut {created : Stamp} {row : Bytes} (hr : Rereads m w s created row)
    (hs : Seat m w n s f c) (h : w.Sound m) {r : KeyRecord}
    (hl : w.environment.store.load? s.partition.intermediateKeyId created.time = some r)
    (hrevoked : r.isRevoked = false) (hparent : r.parent = some p) (d : Duration)
    (hd : d.nanos < s.intermediateKeys.revokeCheck.nanos)
    (hlives : ¬ s.policy.IsExpired (w.environment.clock.advance d).wall created.time) :
    (w.run [.decrypt n row, .advance d]).HandsOut m n p := by
  obtain ⟨hoffers, hstore⟩ := hr.offers hs h hl hrevoked d hd hlives
  exact handsOut_iff.2 ⟨_, hoffers, hstore ▸ ⟨r, hl, hparent⟩⟩

/-- Where the system key of a partition is revoked after its first write and a record is read a
period later, the session goes on handing out a key under it. -/
lemma Begun.handsOut {partition : Partition} {now : Clock} (hw : Begun m partition policy now w)
    (h : OnTime m policy w) (hp : policy.ChecksEvery minutes)
    (hcaches : policy.cachesIntermediateKeys = true) {row payload : Bytes}
    (hrow : w.environment.store.openRow m partition row = .ok payload)
    (hnamed : DataRow.named? row =
      some ⟨partition.intermediateKeyId, policy.intermediateStamp now.wall⟩) (d d' : Duration)
    (hd : minutes.toNat * 60000000000 ≤ d.nanos) (hd' : d'.nanos < minutes.toNat * 60000000000)
    (hlives : ¬ policy.IsExpired ((now.advance d).advance d').wall
      (policy.intermediateStamp now.wall).time) :
    (w.run [.revoke partition.systemKeyId (policy.systemStamp now.wall).time, .advance d,
      .decrypt 0 row, .advance d']).HandsOut m 0
        ⟨partition.systemKeyId, policy.systemStamp now.wall⟩ := by
  obtain ⟨s, hs, rfl, rfl, hcheck, hrereads⟩ := hw.rereads h.past hcaches hrow hnamed
  obtain rfl := hw.clock
  obtain ⟨r, hr, hrev, hparent⟩ := hw.single.record
  obtain ⟨log, hlog⟩ := w.apply_revoke s.partition.systemKeyId
    (s.policy.systemStamp w.environment.clock.wall).time
  let w₁ : World := { w with environment := { w.environment with
    store := (w.environment.store.revoke s.partition.systemKeyId
      (s.policy.systemStamp w.environment.clock.wall).time).2
    clock := w.environment.clock.advance d
    log } }
  have hrun : (w.apply (.revoke s.partition.systemKeyId
      (s.policy.systemStamp w.environment.clock.wall).time)).apply (.advance d) = w₁ := by
    rw [hlog]
    rfl
  have hsound : w₁.Sound m := hrun ▸ ((hw.sound.apply _).1.apply _).1
  rw [hp.revokeCheck, Duration.nanos_ofMinutes] at hrereads
  have hrereads := hrereads w₁ (w.environment.store.grows_revoke _ _) hw.faults
    (Nat.add_le_add_left hd _)
  obtain ⟨f, c, hseat⟩ := hsound.seat (i := 0) hs
  rw [run_cons, run_cons, hrun]
  refine hrereads.handsOut hseat hsound ?_ hrev hparent d' ?_ hlives
  · have hl := w.environment.store.load?_revoke s.partition.systemKeyId
      (s.policy.systemStamp w.environment.clock.wall).time s.partition.intermediateKeyId
      (s.policy.intermediateStamp w.environment.clock.wall).time
    rw [if_neg fun h => (s.engine m).intermediateKeyId_ne h.1, hr] at hl
    exact hl
  · rw [hcheck, hp.revokeCheck, Duration.nanos_ofMinutes]
    exact hd'

/-- A session that hands out a key under the pointer seals under it. -/
lemma HandsOut.encrypt (ho : w.HandsOut m n p) (h : w.Sound m)
    (hfaults : w.environment.faults = .none) (payload : Bytes)
    (hlength : payload.length ≤ Cipher.Siv.maxLength) :
    ∃ text w', w.encrypt n payload = some (.ok text, w') ∧ ∃ q, DataRow.named? text = some q ∧
      w'.environment.store.IsUnder p q.keyId q.created.time := by
  obtain ⟨s, _, _, hs, -⟩ := id ho
  obtain ⟨f, c, hseat⟩ := h.seat hs
  obtain ⟨text, v, htext, hsealed⟩ := h.encrypt_ok hfaults hseat payload hlength
  exact ⟨text, _, htext, hsealed.isUnder_of_handsOut hseat ho⟩

/-- Two hours and 29 minutes after the revocation a session still seals under the revoked system
key, for it read a record an hour before. -/
theorem revoked_system_key_lingers :
    let policy := Policy.expiring 90
    let created := policy.systemStamp Clock.epoch.wall
    ∃ row, (((start .zeros none .epoch (.ofSeed 0)).run
        (opening "product" "service" "partition" policy)).encrypt 0 [104, 105]).map Prod.fst =
          some (.ok row) ∧
      let requests := beginning policy ++ [.revoke Partition.given.systemKeyId created.time,
        .advance (.ofMinutes 90), .decrypt 0 row, .advance (.ofMinutes 59)]
      let w := (start .zeros none .epoch (.ofSeed 0)).run requests
      Steady policy .epoch requests ∧ w.environment.clock.elapsed = 149 * 60000000000 ∧
        ∃ text w', w.encrypt 0 [] = some (.ok text, w') ∧ ∃ q, DataRow.named? text = some q ∧
          w'.environment.store.IsUnder ⟨Partition.given.systemKeyId, created⟩ q.keyId
            q.created.time := by
  intro policy created
  obtain ⟨hbegun, row, hrow, hopen, hnamed⟩ := begun_beginning policy rfl
  have hstart := onTime_start .zeros none .epoch (.ofSeed 0) policy
  have hsteady : Steady policy .epoch (beginning policy) := by
    simp [beginning, opening, Steady, Request.IsSteady]
  have hands := hbegun.handsOut (hstart.run hsteady).1 (.expiring 90) rfl hopen hnamed
    (.ofMinutes 90) (.ofMinutes 59) (by decide) (by decide) (by decide)
  rw [← run_append] at hands
  refine ⟨row, hrow, ?_, ?_, hands.encrypt (hstart.sound.run _).1 (faults_run ..) []
    (by decide)⟩
  · simp [beginning, opening, Steady, Request.IsSteady, Request.tick]
    decide
  · rw [hstart.sound.clock_run]
    simp [beginning, opening, Request.tick]
    decide

end Envelope.World
