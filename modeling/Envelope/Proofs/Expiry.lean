import Envelope.Proofs.FirstWrite
import Envelope.Proofs.Parentage

/-!
Where an expired key is replaced by the write that meets it, nothing is sealed under an expired key.

A key is asked for its expiry wherever a write finds it, but for a key that is loaded because the
place of a new one is taken. Then some record stands at the present minute, the latest one is no
older, and no key expires within a minute.
-/

namespace Envelope

/-- Keys live for so many days, their creation times are whole minutes, and an expired one is
replaced by the write that meets it. -/
structure Policy.ExpiresInline (p : Policy) (days : UInt32) : Prop where
  lifetime : p.lifetime = some (.ofDays days)
  systemPrecision : p.systemPrecision = .ofMinutes 1
  intermediatePrecision : p.intermediatePrecision = .ofMinutes 1
  rotation : p.rotation = .inline

lemma Policy.ExpiresInline.expiring (days : UInt32) : (Policy.expiring days).ExpiresInline days :=
  ⟨rfl, rfl, rfl, rfl⟩

lemma Policy.ExpiresInline.systemStamp {p : Policy} {days : UInt32} (h : p.ExpiresInline days)
    (now : Time) : p.systemStamp now = now.floorTo (.ofMinutes 1) := by
  rw [Policy.systemStamp, h.systemPrecision]

lemma Policy.ExpiresInline.intermediateStamp {p : Policy} {days : UInt32}
    (h : p.ExpiresInline days) (now : Time) :
    p.intermediateStamp now = now.floorTo (.ofMinutes 1) := by
  rw [Policy.intermediateStamp, h.intermediatePrecision]

/-- A key that was made in the present minute or later has not expired. -/
lemma Policy.ExpiresInline.not_isExpired {p : Policy} {days : UInt32} (h : p.ExpiresInline days)
    (hdays : 1 ≤ days) {now created : Time} (hle : (now.floorTo (.ofMinutes 1)).time ≤ created) :
    ¬ p.IsExpired now created := by
  rintro ⟨lifetime, hlifetime, expiry, hexpiry, hlt⟩
  rw [h.lifetime] at hlifetime
  cases hlifetime
  have hexpiry : expiry.nanos = created.nanos + days.toNat * 86400000000000 := by
    unfold Time.add? Time.ofNanos? at hexpiry
    split at hexpiry
    · cases hexpiry
      simp only [Duration.ofDays]
      omega
    · cases hexpiry
  have hday : 1 ≤ days.toNat := UInt32.le_iff_toNat_le.1 hdays
  have hminute := now.lt_floorTo_minute
  rw [Time.le_iff] at hle
  rw [Time.lt_iff] at hlt
  omega

namespace Engine

variable {e : Engine} {w : Workspace} {k : Key} {days : UInt32}

lemma Permits.not_isExpired {now : Time} {created : Stamp} {revoked : Bool}
    (h : e.Permits now created revoked) (hp : e.policy.rotation = .inline) :
    ¬ e.policy.IsExpired now created.time := by
  intro hexpired
  cases hp.symm.trans (h.2 hexpired)

/-- The system key of a write has not expired. -/
lemma SystemKeyUsed.not_isExpired {s' : Store} (h : e.SystemKeyUsed w s' k)
    (hdated : w.environment.store.Dated) (hp : e.policy.ExpiresInline days) (hdays : 1 ≤ days) :
    ¬ e.policy.IsExpired w.environment.clock.wall k.created.time := by
  cases h with
  | cached t caches latest permits => exact permits.not_isExpired hp.rotation
  | newest misses newest =>
    cases newest with
    | latest r latest permits created => exact created ▸ permits.not_isExpired hp.rotation
    | added wrapped refuses free created =>
      refine hp.not_isExpired hdays ?_
      rw [created, hp.systemStamp]
      exact Int.le_refl _
    | reloaded r latest refuses taken created =>
      rw [hp.systemStamp] at taken
      rw [created]
      exact hp.not_isExpired hdays (hdated.le_of_taken latest taken)

/-- The intermediate key of a write has not expired. -/
lemma IntermediateKeyUsed.not_isExpired {s' : Store} {c' : KeyCache}
    (h : e.IntermediateKeyUsed w s' c' k) (hdated : w.environment.store.Dated)
    (hp : e.policy.ExpiresInline days) (hdays : 1 ≤ days) :
    ¬ e.policy.IsExpired w.environment.clock.wall k.created.time := by
  cases h with
  | cached t caches latest permits => exact permits.not_isExpired hp.rotation
  | newest misses newest =>
    cases newest with
    | latest r p latest permits parent parentPermits created =>
      exact created ▸ permits.not_isExpired hp.rotation
    | added s systemKey wrapped refuses free used created =>
      refine hp.not_isExpired hdays ?_
      rw [created, hp.intermediateStamp]
      exact Int.le_refl _
    | reloaded r systemKey refuses taken used latest created =>
      rw [hp.intermediateStamp] at taken
      rw [created]
      exact hp.not_isExpired hdays (hdated.le_of_taken latest taken)

end Engine

namespace World

/-- **Nothing is sealed under an expired key** where expired keys are replaced by writes, whatever
run has filled the store and wherever the clocks were set: a record names an intermediate key that
has not expired, and an intermediate record is added under a system key that has not. -/
theorem seals_under_unexpired (m : Key) (suffix : Option String) (clock : Clock) (random : Random)
    (requests : List Request) {n : Nat} {s : EngineState} {days : UInt32} {payload : Bytes}
    {r : Except Error Bytes} {w' : World}
    (hs : ((start m suffix clock random).run requests).engines[n]? = some s)
    (hp : s.policy.ExpiresInline days) (hdays : 1 ≤ days)
    (hsealed : ((start m suffix clock random).run requests).encrypt n payload = some (r, w')) :
    let w := (start m suffix clock random).run requests
    (∀ text, r = .ok text → ∃ q, DataRow.named? text = some q ∧
      q.keyId = s.partition.intermediateKeyId ∧
      ¬ s.policy.IsExpired w.environment.clock.wall q.created.time) ∧
    ∀ id t record, IsIntermediateId id → w.environment.store.load? id t = none →
      w'.environment.store.load? id t = some record → ∃ p, record.parent = some p ∧
        IsSystemId p.keyId ∧ (w'.environment.store.load? p.keyId p.created.time).isSome ∧
        ¬ s.policy.IsExpired w.environment.clock.wall p.created.time := by
  intro w
  obtain ⟨hw, -⟩ := (sound_start m suffix clock random).run requests
  obtain ⟨s', f, c, v, hseat, rfl, hresult⟩ := hw.sealed_of_encrypt hsealed
  cases hs.symm.trans hseat.engine
  have hdated : w.environment.store.Dated := hw.store.dated
  refine ⟨?_, fun id t record hid hnone hload => ?_⟩
  · rintro text rfl
    cases hresult with
    | record _ k _ writes named =>
      exact ⟨_, named, rfl, writes.used.not_isExpired hdated hp hdays⟩
  · have hv : v.environment.store.Sound m := hresult.evolves.sound
    obtain ⟨p, outer, k, hparent, hpid, houter, -⟩ := hv.intermediate hid hload
    obtain ⟨r', hl', -⟩ := Store.systemKey_eq_ok houter
    refine ⟨p, hparent, hpid, Option.isSome_iff_exists.2 ⟨r', hl'⟩, ?_⟩
    rcases hresult.of_isUnder ⟨record, hload, hparent⟩ with ⟨r₀, hl₀, -⟩ | ⟨_, k', used, rfl, -⟩
    · cases hnone.symm.trans hl₀
    · exact used.not_isExpired hdated hp hdays

/-- A hundred days after its only key was made, a partition has another one. -/
theorem expired_key_replaced_in_a_hundred_days :
    let w := (start .zeros none .epoch (.ofSeed 0)).run
      (beginning (.expiring 90) ++ [.advance (.ofDays 100)])
    ∃ text w' q, w.encrypt 0 [] = some (.ok text, w') ∧ DataRow.named? text = some q ∧
      ¬ (Policy.expiring 90).IsExpired w.environment.clock.wall q.created.time ∧
      q.created ≠ (Policy.expiring 90).intermediateStamp Clock.epoch.wall := by
  intro w
  obtain ⟨hbegun, -⟩ := begun_beginning (.expiring 90) rfl
  obtain ⟨s, hs, -, hpolicy, -⟩ := hbegun.session
  obtain ⟨hw, hprecedes⟩ := hbegun.sound.run [.advance (.ofDays 100)]
  rw [← run_append] at hw hprecedes
  obtain ⟨s', hs', hseat⟩ := hprecedes.engine hs
  have hpolicy' : s'.policy = .expiring 90 := hseat.policy.trans hpolicy
  have hwall : w.environment.clock.wall = (Clock.epoch.advance (.ofDays 100)).wall := by
    show ((start .zeros none .epoch (.ofSeed 0)).run _).environment.clock.wall = _
    rw [(sound_start .zeros none .epoch (.ofSeed 0)).clock_run]
    rfl
  obtain ⟨f, c, hseat'⟩ := hw.seat hs'
  obtain ⟨text, v, htext, -⟩ := hw.encrypt_ok (hbegun.faults ▸ hprecedes.faults).eq_none hseat' []
    (by decide)
  obtain ⟨q, hq, -, hunexpired⟩ := (seals_under_unexpired .zeros none .epoch (.ofSeed 0) _ hs'
    (hpolicy' ▸ Policy.ExpiresInline.expiring 90) (by decide) htext).1 text rfl
  rw [hpolicy'] at hunexpired
  refine ⟨text, _, q, htext, hq, hunexpired, fun hold => hunexpired ?_⟩
  rw [hold]
  show (Policy.expiring 90).IsExpired w.environment.clock.wall _
  rw [hwall]
  decide

end World

end Envelope
