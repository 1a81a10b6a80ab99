import Envelope.Proofs.Parentage
import Envelope.Proofs.Provenance
import Envelope.Proofs.Steady

/-!
What a revoked system key can still do.

Within a period since the revocation every cache has noticed it, and from then on no intermediate
key is made under the revoked key. An intermediate key made before is used while it stays cached,
and nothing but a put renews it. A write puts such a key back at most a minute later, since by then
the step of a new record has moved on; a read puts it back whenever its record is opened, and asks
nothing of the system key.
-/

namespace Envelope.World

variable {m : Key} {policy : Policy} {minutes : UInt32} {w w' : World} {p : KeyMeta}
  {since : Nat}

/-- The system key of the pointer is revoked. What the caches have of it was put before or is known
to be revoked, and the intermediate keys under it were made within a period since. -/
structure Withdrawn (w : World) (p : KeyMeta) (since : Nat) (minutes : UInt32) : Prop where
  record : ∃ r, w.environment.store.load? p.keyId p.created.time = some r ∧ r.isRevoked = true
  cached : ∀ {e}, w.HoldsSystem p.keyId p.created.time e →
    e.since ≤ since ∨ e.key.revoked = true
  dated : w.elapsedAt p.created.time ≤ since
  under : ∀ {id t}, w.environment.store.IsUnder p id t →
    w.elapsedAt t < since + minutes.toNat * 60000000000

/-! ### Writes after the revocation -/

variable {n : Nat} {s : EngineState} {f : Factory} {c : KeyCache}

/-- A cached system key that is withdrawn and not known to be is handed out for a period. -/
lemma Withdrawn.fresh (hr : w.Withdrawn p since minutes) (hs : Seat m w n s f c)
    (hcheck : c.revokeCheck.nanos = minutes.toNat * 60000000000)
    (hid : p.keyId = s.partition.systemKeyId) {e : CachedKey}
    (he : c.entries.get? p.created.time = some e)
    (hfresh : c.IsFresh w.environment.clock.elapsed e) :
    w.environment.clock.elapsed < since + minutes.toNat * 60000000000 ∨ e.key.revoked = true := by
  refine (hr.cached ⟨s.systemKeys, f, c, hs.factory, ?_, hs.systemKeys, he⟩).imp_left
    fun hsince => ?_
  · rw [hid, hs.isOf.systemKeyId]
  · unfold KeyCache.IsFresh at hfresh
    omega

/-- A withdrawn system key is not used for long. -/
lemma Withdrawn.elapsed_of_used (hr : w.Withdrawn p since minutes) (h : OnTime m policy w)
    (hp : policy.ChecksEvery minutes) (hm : 1 ≤ minutes.toNat)
    (hs : Seat m w n s f c) {s' : Store} {k : Key}
    (hu : (s.engine m).SystemKeyUsed (w.workspace s c) s' k)
    (hk : p = ⟨s.partition.systemKeyId, k.created⟩) :
    w.environment.clock.elapsed < since + minutes.toNat * 60000000000 := by
  subst hk
  obtain ⟨r, hl, hrev⟩ := hr.record
  cases hu with
  | cached t caches latest permits same =>
    obtain ⟨e, he, hfresh, rfl⟩ := hs.sound.systemKeys.exists_entry latest
    exact (hr.fresh hs (h.revokeCheck hp hs).1 rfl he hfresh).resolve_right permits.ne_true
  | newest misses newest =>
    have hdated : w.elapsedAt k.created.time ≤ since := hr.dated
    have hfloor := h.lt_systemStamp hp hs
    unfold elapsedAt at hdated
    cases newest with
    | latest r' latest permits created same =>
      have hl' := (hs.sound.dated.latest? latest).1
      rw [← created] at hl'
      cases hl.symm.trans hl'
      exact absurd hrev permits.ne_true
    | added wrapped refuses free created adds =>
      replace created : k.created = s.policy.systemStamp w.environment.clock.wall := created
      rw [← created] at hfloor
      omega
    | reloaded r' latest refuses taken created same =>
      have hle := hs.sound.dated.le_of_taken latest taken
      rw [← created, Time.le_iff] at hle
      replace hle : (s.policy.systemStamp w.environment.clock.wall).time.nanos ≤
        k.created.time.nanos := hle
      omega

/-- A withdrawn system key is not permitted for long. -/
lemma Withdrawn.elapsed_of_permits (hr : w.Withdrawn p since minutes) (h : OnTime m policy w)
    (hp : policy.ChecksEvery minutes)
    (hs : Seat m w n s f c)
    (hpermits : (s.engine m).ParentPermits c w.environment.clock w.environment.store p) :
    w.environment.clock.elapsed < since + minutes.toNat * 60000000000 := by
  unfold Engine.ParentPermits at hpermits
  split at hpermits
  · next k hk =>
    unfold Engine.cachedParent? at hk
    split at hk
    · next hcaches =>
      obtain ⟨e, he, hfresh, rfl⟩ := KeyCache.get?_eq_some.1 hk
      exact (hr.fresh hs (h.revokeCheck hp hs).1 (Engine.keyId_of_cachesSystemKey hcaches) he
        hfresh).resolve_right hpermits.ne_true
    · cases hk
  · obtain ⟨r, hl, hrev⟩ := hr.record
    obtain ⟨r', hl', hpermits'⟩ := hpermits
    cases hl.symm.trans hl'
    exact absurd hrev hpermits'.ne_true

/-- **A write resolves an intermediate key under a withdrawn system key** for a period at most, or
a minute longer if the step of the key is not over yet. -/
lemma Withdrawn.elapsed_of_newest (hr : w.Withdrawn p since minutes) (h : OnTime m policy w)
    (hp : policy.ChecksEvery minutes) (hm : 1 ≤ minutes.toNat)
    (hs : Seat m w n s f c) {s' : Store} {k : Key}
    (hn : (s.engine m).NewestIntermediateKey (w.workspace s c) s' k)
    (hu : s'.IsUnder p s.partition.intermediateKeyId k.created.time) :
    w.environment.clock.elapsed < since + minutes.toNat * 60000000000 + 60000000000 := by
  cases hn with
  | latest r q latest permits parent parentPermits created same =>
    subst same
    obtain ⟨r', hl', hp'⟩ := hu
    have hl := (hs.sound.dated.latest? latest).1
    rw [← created] at hl
    cases hl'.symm.trans hl
    cases hp'.symm.trans parent
    have := hr.elapsed_of_permits h hp hs parentPermits
    omega
  | added s₁ systemKey wrapped refuses free used created adds =>
    obtain ⟨r', hl', hp'⟩ := hu
    have hself := used.load?_insert (created ▸ free) (.intermediate k.created wrapped (some false)
      ⟨s.partition.systemKeyId, systemKey.created⟩)
    subst adds
    cases hl'.symm.trans hself
    cases hp'
    have := hr.elapsed_of_used h hp hm hs used rfl
    omega
  | reloaded r systemKey refuses taken used latest created =>
    have hunder := hr.under (used.addsSystem.of_isUnder hu)
    have hle := hs.sound.dated.le_of_taken latest taken
    rw [← created, Time.le_iff] at hle
    replace hle : (s.policy.intermediateStamp w.environment.clock.wall).time.nanos ≤
      k.created.time.nanos := hle
    have hfloor := h.lt_intermediateStamp hp hs
    unfold elapsedAt at hunder
    omega

/-! ### Any request after the revocation -/

/-- **One request** leaves a withdrawn system key withdrawn. -/
lemma Withdrawn.apply (hr : w.Withdrawn p since minutes) (h : OnTime m policy w)
    (hp : policy.ChecksEvery minutes) (hm : 1 ≤ minutes.toNat) {q : Request}
    (hq : q.IsSteady policy w.environment.clock) : (w.apply q).Withdrawn p since minutes := by
  obtain ⟨-, hstep⟩ := h.sound.apply q
  obtain ⟨-, hin⟩ := h.apply hq
  have hf := hstep.follows h.sound
  obtain ⟨r, hl, hrev⟩ := hr.record
  obtain ⟨r', hl', hpersists⟩ := hf.store.load hl
  refine ⟨⟨r', hl', hpersists.isRevoked hrev⟩, fun {e} he => ?_, ?_, fun {id t} hu => ?_⟩
  · rcases hf.system he with he | ⟨-, ht, hk⟩
    · exact hr.cached he
    · rw [← ht] at hl'
      exact Or.inr ((Store.revoked_of_systemKey hk hl').trans (hpersists.isRevoked hrev))
  · rw [hin.elapsedAt]
    exact hr.dated
  · rw [hin.elapsedAt]
    rcases hstep.of_isUnder hu with hu | ⟨n, s, f, c, s', k, hs, hused, hk, rfl⟩
    · exact hr.under hu
    · have helapsed := hr.elapsed_of_used h hp hm hs hused hk
      have hstamp := s.policy.intermediateStamp_le w.environment.clock.wall
      unfold elapsedAt
      omega

/-- Where a cached intermediate key under a withdrawn system key comes from. -/
lemma Withdrawn.intermediate_apply (hr : w.Withdrawn p since minutes) (h : OnTime m policy w)
    (hp : policy.ChecksEvery minutes) (hm : 1 ≤ minutes.toNat) {q : Request} {i : Nat}
    {id : String} {t : Time} {e : CachedKey} (he : (w.apply q).HoldsIntermediate i id t e)
    (hu : (w.apply q).environment.store.IsUnder p id t) :
    w.HoldsIntermediate i id t e ∨
      e.since < since + minutes.toNat * 60000000000 + 60000000000 ∨
      ∃ text p', q = .decrypt i text ∧ DataRow.named? text = some p' ∧ p'.keyId = id ∧
        p'.created.time = t ∧ e.since = w.environment.clock.elapsed := by
  obtain ⟨-, hstep⟩ := h.sound.apply q
  rcases hstep.intermediate he with he | ⟨-, hsince, hwritten | hread⟩
  · exact Or.inl he
  · obtain ⟨s, f, c, k, seat, rfl, newest, rfl⟩ := hwritten
    have := hr.elapsed_of_newest h hp hm seat newest hu
    exact Or.inr (Or.inl (by omega))
  · obtain ⟨text, p', hq, named, hid, hcreated⟩ := hread
    exact Or.inr (Or.inr ⟨text, p', hq, named, hid, hcreated, hsince⟩)

/-! ### Runs after the revocation -/

/-- **A cached intermediate key under a withdrawn system key** was cached at the revocation, was
resolved for a write not long after it, or was read when the session opened a record that names
it. -/
theorem Withdrawn.intermediate_run (hr : w.Withdrawn p since minutes) (h : OnTime m policy w)
    (hp : policy.ChecksEvery minutes) (hm : 1 ≤ minutes.toNat) {requests : List Request}
    (hs : Steady policy w.environment.clock requests) {i : Nat} {id : String} {t : Time}
    {e : CachedKey} (he : (w.run requests).HoldsIntermediate i id t e)
    (hu : (w.run requests).environment.store.IsUnder p id t) :
    w.HoldsIntermediate i id t e ∨
      e.since < since + minutes.toNat * 60000000000 + 60000000000 ∨
      ∃ before text after p', requests = before ++ .decrypt i text :: after ∧
        DataRow.named? text = some p' ∧ p'.keyId = id ∧ p'.created.time = t ∧
        e.since = (w.run before).environment.clock.elapsed := by
  induction requests generalizing w with
  | nil => exact Or.inl he
  | cons q rest ih =>
    have hq := (h.apply hs.1).1
    rcases ih (hr.apply h hp hm hs.1) hq (h.steady_rest hs) he hu with he' | hlate | hread
    · -- the entry was there after the request, so its record was there, under the same key
      obtain ⟨s, hengine, rfl, hentry⟩ := he'
      obtain ⟨ht, k, hk, -⟩ := hq.sound.intermediateKeys hengine t e hentry
      obtain ⟨r, _, _, hl, -⟩ := Store.intermediateKey_eq_ok hk
      rw [← ht] at hu
      have hu' := (hq.sound.run rest).2.store.isUnder_of_load? hl hu
      rcases hr.intermediate_apply h hp hm ⟨s, hengine, rfl, hentry⟩ (ht ▸ hu') with
        he | hlate | ⟨text, p', rfl, named, hid, hcreated, hsince⟩
      · exact Or.inl he
      · exact Or.inr (Or.inl hlate)
      · exact Or.inr (Or.inr ⟨[], text, rest, p', rfl, named, hid, hcreated, hsince⟩)
    · exact Or.inr (Or.inl hlate)
    · obtain ⟨before, text, after, p', rfl, hread⟩ := hread
      exact Or.inr (Or.inr ⟨q :: before, text, after, p', rfl, hread⟩)

lemma Withdrawn.run (hr : w.Withdrawn p since minutes) (h : OnTime m policy w)
    (hp : policy.ChecksEvery minutes) (hm : 1 ≤ minutes.toNat) {requests : List Request}
    (hs : Steady policy w.environment.clock requests) :
    (w.run requests).Withdrawn p since minutes := by
  induction requests generalizing w with
  | nil => exact hr
  | cons q rest ih => exact ih (hr.apply h hp hm hs.1) (h.apply hs.1).1 (h.steady_rest hs)

/-- Nothing lies ahead in elapsed time. -/
lemma Past.elapsedAt_le (h : w.Past) {id : String} {t : Time} {r : KeyRecord}
    (hl : w.environment.store.load? id t = some r) :
    w.elapsedAt t ≤ w.environment.clock.elapsed := by
  have hle := h.record hl
  rw [Time.le_iff] at hle
  unfold elapsedAt
  omega

/-- Revoking a record that is there withdraws its key from now on. -/
lemma OnTime.withdrawn (h : OnTime m policy w) (hm : 1 ≤ minutes.toNat)
    (hfound : (w.environment.store.load? p.keyId p.created.time).isSome) :
    (w.apply (.revoke p.keyId p.created.time)).Withdrawn p w.environment.clock.elapsed
      minutes := by
  obtain ⟨r, hr⟩ := Option.isSome_iff_exists.1 hfound
  have hf := (h.sound.apply (.revoke p.keyId p.created.time)).2.follows h.sound
  have hcached : ∀ {e}, (w.apply (.revoke p.keyId p.created.time)).HoldsSystem p.keyId
      p.created.time e → e.since ≤ w.environment.clock.elapsed := by
    intro e he
    rcases hf.system he with he | ⟨hsince, -⟩
    · exact h.past.system he
    · exact Nat.le_of_eq hsince
  obtain ⟨log, hlog⟩ := w.apply_revoke p.keyId p.created.time
  rw [hlog] at hcached ⊢
  refine ⟨⟨r.withRevoked true, ?_, rfl⟩, fun he => Or.inl (hcached he), h.past.elapsedAt_le hr,
    fun {id t} hu => ?_⟩
  · show (w.environment.store.revoke p.keyId p.created.time).2.load? p.keyId p.created.time = _
    rw [Store.load?_revoke, if_pos ⟨rfl, rfl⟩, hr]
    rfl
  · obtain ⟨r', hr', -⟩ := hu.of_revoke
    have hle := h.past.elapsedAt_le hr'
    show w.elapsedAt t < _
    omega

end Envelope.World
