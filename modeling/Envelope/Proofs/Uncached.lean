import Envelope.Proofs.FirstWrite

/-!
Writing without caches, and when a revoked key is used all the same.

A look-up asks whether the latest key and its parent may be used, so it never hands out a revoked
one. The look-up after a lost insert does not ask: it hands out the latest key whenever the place
of a new one is taken.
-/

namespace Envelope

namespace Store

/-- The record is revoked, or the record it points to is. -/
def UnderRevoked (s : Store) (r : KeyRecord) : Prop :=
  r.isRevoked = true ∨ ∃ p r', r.parent = some p ∧ s.load? p.keyId p.created.time = some r' ∧
    r'.isRevoked = true

/-- The pointer names a record that is revoked or points to a revoked one. -/
def NamesRevoked (s : Store) (p : KeyMeta) : Prop :=
  ∃ r, s.load? p.keyId p.created.time = some r ∧ s.UnderRevoked r

variable {s s' : Store} {m : Key}

lemma namesRevoked_iff {id : String} {created : Stamp} {r : KeyRecord}
    (h : s.load? id created.time = some r) : s.NamesRevoked ⟨id, created⟩ ↔ s.UnderRevoked r := by
  unfold NamesRevoked
  simp [h]

lemma underRevoked_iff {r r' : KeyRecord} {p : KeyMeta} (hp : r.parent = some p)
    (h : s.load? p.keyId p.created.time = some r') :
    s.UnderRevoked r ↔ r.isRevoked = true ∨ r'.isRevoked = true := by
  unfold UnderRevoked
  simp [hp, h]

end Store

namespace Engine

variable {e : Engine} {m : Key} {w w' : Workspace} {k : Key}

/-- The latest intermediate key of the store may not be used, or its parent may not. -/
def Refuses (e : Engine) (s : Store) (now : Time) : Prop :=
  ∀ r p r', s.latest? e.partition.intermediateKeyId = some r →
    e.Permits now r.created r.isRevoked → r.parent = some p →
      s.load? p.keyId p.created.time = some r' → ¬ e.Permits now r'.created r'.isRevoked

/-- A look-up after a lost insert hands out a revoked key. Either the place of a new intermediate
key is taken and the latest one is revoked or its parent is; or a new intermediate key is made
while the place of a new system key is taken and the latest one is revoked. -/
def ReloadsRevoked (e : Engine) (s : Store) (now : Time) : Prop :=
  ((s.load? e.partition.intermediateKeyId (e.policy.intermediateStamp now).time).isSome ∧
    ∃ r, s.latest? e.partition.intermediateKeyId = some r ∧ s.UnderRevoked r) ∨
  s.load? e.partition.intermediateKeyId (e.policy.intermediateStamp now).time = none ∧
    e.Refuses s now ∧
    (s.load? e.partition.systemKeyId (e.policy.systemStamp now).time).isSome ∧
    ∃ r, s.latest? e.partition.systemKeyId = some r ∧ r.isRevoked = true

lemma cachedParent?_of_uncached (h : e.policy.cachesSystemKeys = false) (c : KeyCache)
    (elapsed : Nat) (p : KeyMeta) : e.cachedParent? c elapsed p = none := by
  unfold cachedParent? cachesSystemKey
  rw [h]
  rfl

lemma parentPermits_of_uncached (h : e.policy.cachesSystemKeys = false) {c : KeyCache}
    {clock : Clock} {s : Store} {p : KeyMeta} : e.ParentPermits c clock s p ↔
      ∃ r, s.load? p.keyId p.created.time = some r ∧
        e.Permits clock.wall r.created r.isRevoked :=
  parentPermits_of_none (cachedParent?_of_uncached h _ _ _)

lemma refusesLatest_of_uncached (h : e.policy.cachesSystemKeys = false) :
    e.RefusesLatest w ↔ e.Refuses w.environment.store w.environment.clock.wall := by
  unfold RefusesLatest Refuses
  simp only [parentPermits_of_uncached h, not_exists, not_and]
  constructor
  · intro hr r p r' hl hp hpar hl'
    exact hr r p hl hp hpar r' hl'
  · intro hr r p hl hp hpar r' hl'
    exact hr r p r' hl hp hpar hl'

/-- Without a cache, a revoked system key is used exactly when the place of a new one is taken and
the latest one is revoked. -/
lemma SystemKeyUsed.revoked_iff (hw : e.Sound m w) (hsys : e.policy.cachesSystemKeys = false)
    {s' : Store} (h : e.SystemKeyUsed w s' k) :
    ∃ r, s'.load? e.partition.systemKeyId k.created.time = some r ∧ (r.isRevoked = true ↔
      (w.environment.store.load? e.partition.systemKeyId
        (e.policy.systemStamp w.environment.clock.wall).time).isSome ∧
      ∃ r, w.environment.store.latest? e.partition.systemKeyId = some r ∧
        r.isRevoked = true) := by
  cases h with
  | cached t caches => exact absurd (hsys.symm.trans caches) Bool.false_ne_true
  | newest misses newest =>
    cases newest with
    | latest r latest permits created same =>
      refine ⟨r, ?_, ?_⟩
      · rw [same, created]
        exact (hw.store.dated.latest? latest).1
      · simp [latest, permits.not_revoked]
    | added wrapped refuses free created adds =>
      refine ⟨.system k.created wrapped (some false), ?_, ?_⟩
      · rw [adds]
        exact Store.load?_insert_self (created ▸ free) _
      · simp [free, KeyRecord.isRevoked, KeyRecord.system]
    | reloaded r latest refuses taken created same =>
      refine ⟨r, ?_, ?_⟩
      · rw [same, created]
        exact (hw.store.dated.latest? latest).1
      · simp [latest, taken]

/-- **Without caches, a revoked key protects new data** exactly when a look-up after a lost insert
hands it out. -/
lemma Writes.namesRevoked_iff (hw : e.Sound m w) (hsys : e.policy.cachesSystemKeys = false)
    (hint : e.policy.cachesIntermediateKeys = false) (h : e.Writes m w k w') :
    w'.environment.store.NamesRevoked ⟨e.partition.intermediateKeyId, k.created⟩ ↔
      e.ReloadsRevoked w.environment.store w.environment.clock.wall := by
  have hid := e.partition.isIntermediateId_intermediateKeyId
  cases h.used with
  | cached t caches => exact absurd (hint.symm.trans caches) Bool.false_ne_true
  | newest misses newest cache =>
    cases newest with
    | latest r p latest permits parent parentPermits created same =>
      obtain ⟨r', hr', hpermits'⟩ := (parentPermits_of_uncached hsys).1 parentPermits
      have hl := (hw.store.dated.latest? latest).1
      rw [← created] at hl
      have hno : ¬ w.environment.store.UnderRevoked r := by
        rw [Store.underRevoked_iff parent hr', permits.not_revoked, hpermits'.not_revoked]
        simp
      replace same : w'.environment.store = w.environment.store := same
      rw [same, Store.namesRevoked_iff hl]
      refine iff_of_false hno ?_
      rintro (⟨-, r₀, hr₀, hrev⟩ | ⟨-, hrefuses, -⟩)
      · rw [latest] at hr₀
        cases hr₀
        exact hno hrev
      · exact hrefuses r p r' latest permits parent hr' hpermits'
    | added s systemKey wrapped refuses free used created adds =>
      obtain ⟨rs, hrs, hrev⟩ := used.revoked_iff hw hsys
      have hself := used.load?_insert (created ▸ free) (.intermediate k.created wrapped (some false)
        ⟨e.partition.systemKeyId, systemKey.created⟩)
      have hparent := (Store.extends_insert s e.partition.intermediateKeyId k.created.time
        (.intermediate k.created wrapped (some false)
          ⟨e.partition.systemKeyId, systemKey.created⟩)).load hrs
      rw [adds, Store.namesRevoked_iff hself,
        Store.underRevoked_iff rfl hparent, hrev]
      have hrefuses := (refusesLatest_of_uncached hsys).1 refuses
      unfold ReloadsRevoked
      simp [free, hrefuses, KeyRecord.isRevoked, KeyRecord.intermediate]
    | reloaded r systemKey refuses taken used latest created =>
      have hl := (hw.store.dated.latest? latest).1
      obtain ⟨p, outer, k', hp, -, ho, -⟩ := hw.store.intermediate hid hl
      obtain ⟨r', hr', -⟩ := Store.systemKey_eq_ok ho
      rw [← created] at hl
      rw [Store.namesRevoked_iff (h.store.load hl),
        Store.underRevoked_iff hp (h.store.load hr'), ← Store.underRevoked_iff hp hr']
      unfold ReloadsRevoked
      obtain ⟨r₀, hr₀⟩ := Option.isSome_iff_exists.1 taken
      simp [latest, hr₀]

/-- Where the only key of a partition was made in the present step, no revoked key is handed
out. -/
lemma not_reloadsRevoked_of_single {s : Store} (hs : s.Sound m) {now : Time} {id : String}
    {created : Stamp} (h : s.Single e.partition.intermediateKeyId (e.policy.intermediateStamp now)
      id created) :
    ¬ e.ReloadsRevoked s now := by
  obtain ⟨r, hr, hrev, hp⟩ := h.record
  obtain ⟨r', hr', hrev'⟩ := h.outer
  rintro (⟨-, r₀, hlatest, hunder⟩ | ⟨hfree, -⟩)
  · have hr₀ := (hs.dated.latest? hlatest).1
    rw [h.only hr₀, hr] at hr₀
    cases hr₀
    rw [Store.underRevoked_iff hp hr', hrev, hrev'] at hunder
    simp at hunder
  · rw [hr] at hfree
    cases hfree

/-- A key made in the present step is handed out again when it has been revoked. -/
lemma reloadsRevoked_of_single {s : Store} (hs : s.Sound m) {now : Time} {id : String}
    {created : Stamp} (h : s.Single e.partition.intermediateKeyId (e.policy.intermediateStamp now)
      id created) :
    e.ReloadsRevoked (s.revoke e.partition.intermediateKeyId
      (e.policy.intermediateStamp now).time).2 now := by
  obtain ⟨r, hr, -⟩ := h.record
  have hl := s.load?_revoke e.partition.intermediateKeyId
    (e.policy.intermediateStamp now).time e.partition.intermediateKeyId
    (e.policy.intermediateStamp now).time
  rw [if_pos ⟨rfl, rfl⟩, hr] at hl
  obtain ⟨r', hlatest⟩ := Store.exists_latest? hl
  have hr' := ((hs.revoke _ _).dated.latest? hlatest).1
  obtain ⟨r₀, hr₀, -⟩ := Store.load?_of_revoke hr'
  rw [h.only hr₀] at hr'
  cases hl.symm.trans hr'
  refine Or.inl ⟨?_, r.withRevoked true, hlatest, Or.inl rfl⟩
  rw [hl]
  rfl

end Engine

/-- The policy without key caches. -/
def Policy.uncached (p : Policy) : Policy :=
  { p with cachesSystemKeys := false, cachesIntermediateKeys := false }

namespace World

variable {m : Key} {w : World}

lemma Sealed.namesRevoked_iff {i : Nat} {s : EngineState} {f : Factory} {c : KeyCache}
    (hs : Seat m w i s f c) (hsystem : s.policy.cachesSystemKeys = false)
    (hintermediate : s.policy.cachesIntermediateKeys = false) {payload text : Bytes}
    {v : Engine.Workspace} (h : Sealed m w s c payload (.ok text) v) :
    (∃ p, DataRow.named? text = some p ∧ v.environment.store.NamesRevoked p) ↔
      (s.engine m).ReloadsRevoked w.environment.store w.environment.clock.wall := by
  cases h with
  | record _ k _ writes named opens =>
    rw [named]
    simp only [Option.some.injEq, exists_eq_left']
    exact writes.namesRevoked_iff hs.sound hsystem hintermediate

/-- **Without caches, new data is protected by a revoked key** exactly when a look-up after a lost
insert hands one out, whatever run has filled the store. -/
theorem uncached_names_revoked_iff (m : Key) (suffix : Option String) (clock : Clock)
    (random : Random) (requests : List Request) {n : Nat} {s : EngineState} {payload text : Bytes}
    {w' : World} (hs : ((start m suffix clock random).run requests).engines[n]? = some s)
    (hsystem : s.policy.cachesSystemKeys = false)
    (hintermediate : s.policy.cachesIntermediateKeys = false)
    (hsealed : ((start m suffix clock random).run requests).encrypt n payload =
      some (.ok text, w')) :
    (∃ p, DataRow.named? text = some p ∧ w'.environment.store.NamesRevoked p) ↔
      (s.engine m).ReloadsRevoked ((start m suffix clock random).run requests).environment.store
        ((start m suffix clock random).run requests).environment.clock.wall := by
  obtain ⟨hw, -⟩ := (sound_start m suffix clock random).run requests
  obtain ⟨s', f, c, v, hseat, rfl, hresult⟩ := hw.sealed_of_encrypt hsealed
  cases hs.symm.trans hseat.engine
  exact hresult.namesRevoked_iff hseat hsystem hintermediate

/-- The second write of a partition names its one key, which is not revoked. -/
theorem uncached_second_write_names_unrevoked :
    let w := (start .zeros none .epoch (.ofSeed 0)).run (beginning (Policy.expiring 90).uncached)
    ∃ text w', w.encrypt 0 [] = some (.ok text, w') ∧
      ¬ ∃ p, DataRow.named? text = some p ∧ w'.environment.store.NamesRevoked p := by
  intro w
  obtain ⟨hw, -⟩ := begun_beginning (Policy.expiring 90).uncached rfl
  obtain ⟨s, hs, hpartition, hpolicy, -⟩ := hw.session
  obtain ⟨f, c, hseat⟩ := hw.sound.seat hs
  obtain ⟨text, v, htext, -⟩ := hw.sound.encrypt_ok hw.faults hseat [] (by decide)
  refine ⟨text, _, htext, ?_⟩
  rw [uncached_names_revoked_iff .zeros none .epoch (.ofSeed 0) _ hs (hpolicy ▸ rfl)
    (hpolicy ▸ rfl) htext]
  exact Engine.not_reloadsRevoked_of_single hw.sound.store (hw.single_session hpartition hpolicy)

/-- Once the first key of a partition has been revoked in the step it was made in, a write names
it. -/
lemma Begun.encrypt_revoked {p : Partition} {policy : Policy} {now : Clock}
    (h : Begun m p policy now w) (hsystem : policy.cachesSystemKeys = false)
    (hintermediate : policy.cachesIntermediateKeys = false) :
    ∃ text w', (w.apply (.revoke p.intermediateKeyId
        (policy.intermediateStamp now.wall).time)).encrypt 0 [] = some (.ok text, w') ∧
      ∃ q, DataRow.named? text = some q ∧ w'.environment.store.NamesRevoked q := by
  obtain ⟨s, hs, rfl, rfl, -⟩ := h.session
  obtain rfl := h.clock
  have hrevoked := (h.sound.apply (.revoke s.partition.intermediateKeyId
    (s.policy.intermediateStamp w.environment.clock.wall).time)).1
  obtain ⟨log, hlog⟩ := w.apply_revoke s.partition.intermediateKeyId
    (s.policy.intermediateStamp w.environment.clock.wall).time
  rw [hlog] at hrevoked ⊢
  obtain ⟨f, c, hseat⟩ := hrevoked.seat hs
  obtain ⟨text, v, htext, hsealed⟩ := hrevoked.encrypt_ok h.faults hseat []
    (by decide)
  refine ⟨text, _, htext, (hsealed.namesRevoked_iff hseat hsystem hintermediate).2 ?_⟩
  exact Engine.reloadsRevoked_of_single h.sound.store h.single

/-- Two writes in one minute with a revocation in between: the second names the revoked key. -/
theorem uncached_write_names_revoked :
    let created := (Policy.expiring 90).uncached.intermediateStamp Clock.epoch.wall
    let w := (start .zeros none .epoch (.ofSeed 0)).run
      (beginning (Policy.expiring 90).uncached ++
        [.revoke Partition.given.intermediateKeyId created.time])
    ∃ text w', w.encrypt 0 [] = some (.ok text, w') ∧
      ∃ p, DataRow.named? text = some p ∧ w'.environment.store.NamesRevoked p := by
  intro created w
  have hrun : w = _ := run_append _ _ _
  rw [hrun]
  exact (begun_beginning (Policy.expiring 90).uncached rfl).1.encrypt_revoked rfl rfl

end World

end Envelope
