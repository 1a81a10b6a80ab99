import Envelope.Proofs.FirstWrite
import Envelope.Proofs.Steady

/-!
A revoked intermediate key stops protecting new data within the revoke-check period.

A cached key is either too old to be used without another look at its record, or it was put after
the revocation and is known to be revoked. A write that goes to the store sees the revocation, and
the step of a new record has by then moved past the revoked one.
-/

namespace Envelope.World

variable {m : Key} {p : Policy} {w w' : World} {id : String} {created : Stamp} {since : Nat}

/-- The intermediate key of the record is revoked, and what the caches have of it was put before
or is known to be revoked. -/
structure Retired (w : World) (id : String) (created : Stamp) (since : Nat) : Prop where
  record : ∃ r, w.environment.store.load? id created.time = some r ∧ r.isRevoked = true
  cached : ∀ {i e}, w.HoldsIntermediate i id created.time e →
    e.since ≤ since ∨ e.key.revoked = true

lemma Follows.retired (h : Follows m w w') (hr : w.Retired id created since) :
    w'.Retired id created since := by
  obtain ⟨r, hl, hrev⟩ := hr.record
  obtain ⟨r', hl', hp⟩ := h.store.load hl
  refine ⟨⟨r', hl', hp.isRevoked hrev⟩, fun {i e} he => ?_⟩
  rcases h.intermediate he with he | ⟨-, ht, hk⟩
  · exact hr.cached he
  · rw [← ht] at hl'
    exact Or.inr ((Store.revoked_of_intermediateKey hk hl').trans (hp.isRevoked hrev))

lemma OnTime.retired_run (h : OnTime m p w) {requests : List Request}
    (hs : Steady p w.environment.clock requests) (hr : w.Retired id created since) :
    (w.run requests).Retired id created since := by
  induction requests generalizing w with
  | nil => exact hr
  | cons q rest ih =>
    obtain ⟨-, hstep⟩ := h.sound.apply q
    exact ih (h.apply hs.1).1 (h.steady_rest hs) ((hstep.follows h.sound).retired hr)

/-- Revoking a record that is there retires its key from now on. -/
lemma Past.retired (h : w.Past)
    (hfound : (w.environment.store.load? id created.time).isSome) :
    (w.apply (.revoke id created.time)).Retired id created w.environment.clock.elapsed := by
  obtain ⟨log, hlog⟩ := w.apply_revoke id created.time
  obtain ⟨r, hr⟩ := Option.isSome_iff_exists.1 hfound
  rw [hlog]
  refine ⟨⟨r.withRevoked true, ?_, rfl⟩, fun he => Or.inl (h.intermediate he)⟩
  show (w.environment.store.revoke id created.time).2.load? id created.time = _
  rw [Store.load?_revoke, if_pos ⟨rfl, rfl⟩, hr]
  rfl

/-- A write does not use a retired key once the period is over. -/
lemma OnTime.not_used_of_retired (h : OnTime m p w) {minutes : UInt32}
    (hp : p.ChecksEvery minutes) {n : Nat} {s : EngineState} {f : Factory} {c : KeyCache}
    (hs : Seat m w n s f c) (hr : w.Retired s.partition.intermediateKeyId created since)
    (hlate : since + minutes.toNat * 60000000000 ≤ w.environment.clock.elapsed)
    (hdate : created.time.nanos + 60000000000 ≤ w.environment.clock.wall.nanos)
    {s' : Store} {c' : KeyCache} {k : Key}
    (hu : (s.engine m).IntermediateKeyUsed (w.workspace s c) s' c' k) : k.created ≠ created := by
  rintro rfl
  obtain ⟨r, hl, hrev⟩ := hr.record
  cases hu with
  | cached t caches latest permits same cache =>
    obtain ⟨e, he, hfresh, rfl⟩ := hs.sound.intermediateKeys.exists_entry latest
    rcases hr.cached ⟨s, hs.engine, rfl, he⟩ with hsince | hknown
    · have hcheck := (h.revokeCheck hp hs).2
      replace hfresh : w.environment.clock.elapsed - e.since <
        s.intermediateKeys.revokeCheck.nanos := hfresh
      omega
    · exact absurd hknown permits.ne_true
  | newest misses newest cache =>
    -- the place of a new record is at a later step than the retired key
    have hstamp : k.created.time <
        ((s.engine m).policy.intermediateStamp w.environment.clock.wall).time := by
      have hfloor := h.lt_intermediateStamp hp hs
      rw [Time.lt_iff]
      show _ < (s.policy.intermediateStamp w.environment.clock.wall).time.nanos
      omega
    cases newest with
    | latest r' parent latest permits hparent parentPermits hcreated same =>
      have hl' := (hs.sound.dated.latest? latest).1
      rw [← hcreated] at hl'
      replace hl' : w.environment.store.load? s.partition.intermediateKeyId k.created.time =
        some r' := hl'
      rw [hl] at hl'
      cases hl'
      exact absurd hrev permits.ne_true
    | added s₁ systemKey wrapped refuses free used hcreated adds =>
      rw [Time.lt_iff, hcreated] at hstamp
      exact absurd hstamp (Int.lt_irrefl _)
    | reloaded r' systemKey refuses taken used latest hcreated =>
      have hle := hs.sound.dated.le_of_taken latest taken
      rw [← hcreated, Time.le_iff] at hle
      rw [Time.lt_iff] at hstamp
      exact absurd hstamp (Int.not_lt.2 hle)

/-- **A revoked intermediate key retires**: in a steady run, no session seals under it once the
revoke-check period has gone by since the revocation. -/
theorem revoked_intermediate_key_retires (m : Key) (suffix : Option String) (clock : Clock)
    (random : Random) {p : Policy} {minutes : UInt32} (hp : p.ChecksEvery minutes)
    (hm : 1 ≤ minutes) {before after : List Request} {id : String} {created : Stamp}
    (hsteady : Steady p clock (before ++ .revoke id created.time :: after))
    (hfound : (((start m suffix clock random).run before).revokeRecord id created.time).1 = true)
    (hlate : ((start m suffix clock random).run before).environment.clock.elapsed +
        minutes.toNat * 60000000000 ≤
      ((start m suffix clock random).run
        (before ++ .revoke id created.time :: after)).environment.clock.elapsed)
    {n : Nat} {payload text : Bytes}
    (hsealed : (((start m suffix clock random).run
      (before ++ .revoke id created.time :: after)).encrypt n payload).map Prod.fst =
        some (.ok text)) :
    DataRow.named? text ≠ some ⟨id, created⟩ := by
  rw [run_append] at hlate hsealed
  obtain ⟨hbefore, hrest⟩ := onTime_of_append m suffix random hsteady
  generalize (start m suffix clock random).run before = w₁ at *
  obtain ⟨hafter, hin⟩ := hbefore.run hrest
  rw [revokeRecord_fst] at hfound
  have hretired := (hbefore.apply hrest.1).1.retired_run (hbefore.steady_rest hrest)
    (hbefore.past.retired hfound)
  rw [run_cons] at hlate hsealed hafter hin
  generalize (w₁.apply (.revoke id created.time)).run after = w at *
  have hdate : created.time.nanos + 60000000000 ≤ w.environment.clock.wall.nanos := by
    obtain ⟨r, hr⟩ := Option.isSome_iff_exists.1 hfound
    have hpast := hbefore.past.record hr
    have hmin : 1 ≤ minutes.toNat := by
      simpa using UInt32.le_iff_toNat_le.1 hm
    rw [Time.le_iff] at hpast
    unfold InStep at hin
    omega
  intro hnamed
  obtain ⟨⟨_, w'⟩, hsealed, rfl⟩ := Option.map_eq_some_iff.1 hsealed
  obtain ⟨s, f, c, v, hseat, -, hresult⟩ := hafter.sound.sealed_of_encrypt hsealed
  cases hresult with
  | record _ k _ writes named opens =>
    rw [named] at hnamed
    cases hnamed
    exact hafter.not_used_of_retired hp hseat hretired hlate hdate writes.used rfl

/-- An hour after its only key has been revoked, a partition has another one. -/
theorem revoked_intermediate_key_replaced_in_an_hour :
    let created := (Policy.expiring 90).intermediateStamp Clock.epoch.wall
    let w := (start .zeros none .epoch (.ofSeed 0)).run (beginning (.expiring 90) ++
      .revoke Partition.given.intermediateKeyId created.time :: [.advance (.ofMinutes 60)])
    ∃ text, (w.encrypt 0 []).map Prod.fst = some (.ok text) ∧
      DataRow.named? text ≠ some ⟨Partition.given.intermediateKeyId, created⟩ := by
  intro created w
  obtain ⟨hw, -⟩ := begun_beginning (.expiring 90) rfl
  obtain ⟨s, hs, -⟩ := hw.session
  obtain ⟨r, hr, -⟩ := hw.single.record
  obtain ⟨text, htext⟩ := hw.sound.encrypt_later hw.faults hs (.revoke
    Partition.given.intermediateKeyId created.time :: [.advance (.ofMinutes 60)]) []
    (by decide)
  rw [← run_append] at htext
  refine ⟨text, htext, revoked_intermediate_key_retires .zeros none .epoch (.ofSeed 0)
    (.expiring 90) (by decide) ?_ ?_ ?_ htext⟩
  · simp [beginning, opening, Steady, Request.IsSteady]
    decide
  · rw [revokeRecord_fst, hr]
    rfl
  · rw [hw.clock, (sound_start .zeros none .epoch (.ofSeed 0)).clock_run]
    decide

end Envelope.World
