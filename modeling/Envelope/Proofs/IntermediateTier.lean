import Envelope.Proofs.Reading
import Envelope.Proofs.SystemTier

/-!
The newest intermediate key, for a write that does not find one in the cache.

It comes from the latest record, from a record the write adds or, where the place of the new record
is taken, from the latest record as it is. The last way asks nothing of the key nor of its parent.
-/

namespace Envelope.Engine

open Envelope.Action

variable {e : Engine} {m : Key} {w w' : Workspace}

/-! ### The newest intermediate key -/

/-- The latest intermediate key may not be used, or its parent may not. -/
def RefusesLatest (e : Engine) (w : Workspace) : Prop :=
  ∀ r p, w.environment.store.latest? e.partition.intermediateKeyId = some r →
    e.Permits w.environment.clock.wall r.created r.isRevoked → r.parent = some p →
      ¬ e.ParentPermits w.systemKeys w.environment.clock w.environment.store p

/-- Where an intermediate key comes from that is not in the cache. -/
inductive NewestIntermediateKey (e : Engine) (w : Workspace) (s' : Store) (k : Key) : Prop where
  /-- The latest record, which is permitted as its parent is. -/
  | latest (r : KeyRecord) (p : KeyMeta)
      (latest : w.environment.store.latest? e.partition.intermediateKeyId = some r)
      (permits : e.Permits w.environment.clock.wall r.created r.isRevoked)
      (parent : r.parent = some p)
      (parentPermits : e.ParentPermits w.systemKeys w.environment.clock w.environment.store p)
      (created : k.created = r.created) (same : s' = w.environment.store)
  /-- A new record at a free place. -/
  | added (s : Store) (systemKey : Key) (wrapped : Bytes) (refuses : e.RefusesLatest w)
      (free : w.environment.store.load? e.partition.intermediateKeyId
        (e.policy.intermediateStamp w.environment.clock.wall).time = none)
      (used : e.SystemKeyUsed w s systemKey)
      (created : k.created = e.policy.intermediateStamp w.environment.clock.wall)
      (adds : s' = (s.insert e.partition.intermediateKeyId k.created.time
        (.intermediate k.created wrapped (some false)
          ⟨e.partition.systemKeyId, systemKey.created⟩)).2)
  /-- The latest record, whatever it is, because the place of a new one is taken. -/
  | reloaded (r : KeyRecord) (systemKey : Key) (refuses : e.RefusesLatest w)
      (taken : (w.environment.store.load? e.partition.intermediateKeyId
        (e.policy.intermediateStamp w.environment.clock.wall).time).isSome)
      (used : e.SystemKeyUsed w s' systemKey)
      (latest : w.environment.store.latest? e.partition.intermediateKeyId = some r)
      (created : k.created = r.created)

/-- What a computation that resolves an intermediate key comes to. -/
structure IntermediateResult (e : Engine) (m : Key) (w : Workspace) (k : Key) (w' : Workspace) :
    Prop where
  newest : e.NewestIntermediateKey w w'.environment.store k
  key : w'.environment.store.intermediateKey m ⟨e.partition.intermediateKeyId, k.created⟩ = .ok k
  sound : w'.environment.store.Sound m
  clock : w'.environment.clock = w.environment.clock
  faults : w.environment.faults.Leaves w'.environment.faults
  store : w.environment.store.Extends w'.environment.store
  systemKeys : w.systemKeys.Refreshes
    (fun t => w'.environment.store.systemKey m ⟨e.partition.systemKeyId, t⟩)
    w.environment.clock.elapsed w'.systemKeys
  intermediateKeys : w'.intermediateKeys = w.intermediateKeys

lemma IntermediateResult.of_prepares {k : Key} (h : e.Prepares m w w')
    (hn : e.NewestIntermediateKey w w'.environment.store k)
    (hk : w'.environment.store.intermediateKey m ⟨e.partition.intermediateKeyId, k.created⟩ =
      .ok k) : e.IntermediateResult m w k w' :=
  ⟨hn, hk, h.sound, h.clock, h.faults, h.store.extends, h.systemKeys, h.intermediateKeys⟩

lemma intermediateKeyId_ne (e : Engine) :
    e.partition.intermediateKeyId ≠ e.partition.systemKeyId :=
  (e.partition.isSystemId_systemKeyId.ne e.partition.isIntermediateId_intermediateKeyId).symm

/-- The record that a write has added at a free place is there. -/
lemma SystemKeyUsed.load?_insert {s : Store} {systemKey : Key}
    (used : e.SystemKeyUsed w s systemKey) {t : Time}
    (free : w.environment.store.load? e.partition.intermediateKeyId t = none)
    (r : KeyRecord) :
    (s.insert e.partition.intermediateKeyId t r).2.load? e.partition.intermediateKeyId t =
      some r := by
  refine Store.load?_insert_self ?_ r
  rw [used.addsSystem.load? e.intermediateKeyId_ne]
  exact free

/-- The latest record of a sound store opens through its parent. -/
lemma yields_openLatestThrough (hw : e.Grounded m w) {r : KeyRecord} {p : KeyMeta}
    (hlatest : w.environment.store.latest? e.partition.intermediateKeyId = some r)
    (hp : r.parent = some p) :
    (do
      let systemKey ← e.systemKeyForRead p
      liftM (openIntermediateRecord r systemKey.key) : Work Key).Yields w
      (fun k w' => e.Reads m w w' ∧ k.created = r.created ∧
        w.environment.store.intermediateKey m ⟨e.partition.intermediateKeyId, k.created⟩ = .ok k)
      (fun err w' => w.environment.faults.Plans err ∧ e.Reads m w w') := by
  obtain ⟨p', outer, k, hp', -, ho, hopen, hkey⟩ := hw.store.intermediateKey
    e.partition.isIntermediateId_intermediateKeyId (hw.store.dated.latest? hlatest).1
  rw [hp] at hp'
  cases hp'
  refine (yields_openThrough hw.toCoherent r p).mono (fun k' w' h => ?_) fun err w' h => ?_
  · obtain ⟨hreads, outer', ho', hk'⟩ := h
    rw [ho] at ho'
    cases ho'
    rw [hopen] at hk'
    cases hk'
    obtain ⟨-, -, -, hc, -⟩ := KeyRecord.openWith_eq_ok hopen
    exact ⟨hreads, hc, hc ▸ hkey⟩
  · obtain ⟨hreads, hplan | herr⟩ := h
    · exact ⟨hplan, hreads⟩
    · rw [ho] at herr
      replace herr : r.openWith outer = .error err := herr
      rw [hopen] at herr
      cases herr

lemma yields_reloadIntermediateKey (hw : e.Grounded m w) {r : KeyRecord}
    (hlatest : w.environment.store.latest? e.partition.intermediateKeyId = some r) :
    e.reloadIntermediateKey.Yields w
      (fun k w' => e.Reads m w w' ∧ k.created = r.created ∧
        w.environment.store.intermediateKey m ⟨e.partition.intermediateKeyId, k.created⟩ = .ok k)
      (fun err w' => w.environment.faults.Plans err ∧ e.Reads m w w') := by
  unfold reloadIntermediateKey
  refine yields_lift_bind (Effect.yields_latestRecord hw.faults _) (fun found env h => ?_)
    fun err env h => ⟨h.1, .of_keeps h.2⟩
  obtain ⟨hfound, hk⟩ := h
  rw [hlatest] at hfound
  subst hfound
  obtain ⟨p, -, -, hp, -⟩ := hw.store.intermediate
    e.partition.isIntermediateId_intermediateKeyId (hw.store.dated.latest? hlatest).1
  dsimp only
  rw [hp]
  have hreads : e.Reads m w { w with environment := env } := .of_keeps hk
  refine (yields_openLatestThrough (hw.reads hreads) (hk.store ▸ hlatest) hp).mono
    (fun k w' h => ?_) fun err w' h => ⟨hk.faults.plans h.1, hreads.trans h.2⟩
  exact ⟨hreads.trans h.1, h.2.1, hk.store ▸ h.2.2⟩

/-- A new key comes to the record it was wrapped for, at a free place. -/
lemma IntermediateResult.of_added (hrefuses : e.RefusesLatest w)
    (hprep : e.Prepares m w w') {key systemKey outer : Key} {wrapped : Bytes}
    (hcreated : key.created = e.policy.intermediateStamp w.environment.clock.wall)
    (hrevoked : key.revoked = false)
    (hused : e.SystemKeyUsed w w'.environment.store systemKey)
    (houter : w'.environment.store.systemKey m ⟨e.partition.systemKeyId, systemKey.created⟩ =
      .ok outer) (hdec : outer.decrypt wrapped = .ok key.secret)
    (hfree : w.environment.store.load? e.partition.intermediateKeyId key.created.time = none)
    {env : Environment} (hproceeds : w'.environment.Proceeds env)
    (hstore : env.store = (w'.environment.store.insert e.partition.intermediateKeyId
      key.created.time (.intermediate key.created wrapped (some false)
        ⟨e.partition.systemKeyId, systemKey.created⟩)).2) :
    e.IntermediateResult m w key { w' with environment := env } := by
  let r : KeyRecord := .intermediate key.created wrapped (some false)
    ⟨e.partition.systemKeyId, systemKey.created⟩
  have hopen : r.openWith outer = .ok key :=
    KeyRecord.openWith_of_decrypt (KeyRecord.keyBytes_intermediate _ _ _ _) hdec rfl hrevoked.symm
  have hself : env.store.load? e.partition.intermediateKeyId key.created.time = some r := by
    rw [hstore]
    exact hused.load?_insert hfree r
  have hsound : env.store.Sound m := by
    rw [hstore]
    exact hprep.sound.insert_intermediate e.partition.isIntermediateId_intermediateKeyId rfl
      e.partition.isSystemId_systemKeyId houter hopen
  have hsystem : w.systemKeys.Refreshes
      (fun t => env.store.systemKey m ⟨e.partition.systemKeyId, t⟩)
      w.environment.clock.elapsed w'.systemKeys :=
    hprep.systemKeys.trans (.refl _) fun hk => hproceeds.store.systemKey hk
  refine ⟨.added w'.environment.store systemKey wrapped hrefuses (hcreated ▸ hfree) hused hcreated
    hstore, ?_, hsound, hproceeds.clock.trans hprep.clock, hprep.faults.trans hproceeds.faults,
    hprep.store.extends.trans hproceeds.store, hsystem, hprep.intermediateKeys⟩
  exact (Store.intermediateKey_of_load? hself rfl (hproceeds.store.systemKey houter)).trans hopen

/-- The end of a creation: the new record is inserted, or the latest one is taken. -/
lemma yields_insertOrReload (hw : e.Sound m w) (hrefuses : e.RefusesLatest w)
    (hprep : e.Prepares m w w') {key systemKey outer : Key} {wrapped : Bytes}
    (hcreated : key.created = e.policy.intermediateStamp w.environment.clock.wall)
    (hrevoked : key.revoked = false)
    (hused : e.SystemKeyUsed w w'.environment.store systemKey)
    (houter : w'.environment.store.systemKey m ⟨e.partition.systemKeyId, systemKey.created⟩ =
      .ok outer) (hdec : outer.decrypt wrapped = .ok key.secret) :
    (do
      if ← liftM (Effect.insertRecord e.partition.intermediateKeyId
          (.intermediate key.created wrapped (some false)
            ⟨e.partition.systemKeyId, systemKey.created⟩)) then
        liftM (Effect.emit (.keyCreated .intermediate e.partition.intermediateKeyId key.created))
        return key
      else
        liftM (Effect.emit (.raceLost .intermediate e.partition.intermediateKeyId))
        e.reloadIntermediateKey : Work Key).Yields w'
      (fun k w' => e.IntermediateResult m w k w')
      (fun err w' => w.environment.faults.Plans err ∧ e.Prepares m w w') := by
  let r : KeyRecord := .intermediate key.created wrapped (some false)
    ⟨e.partition.systemKeyId, systemKey.created⟩
  refine yields_lift_bind (Effect.yields_insertRecord (hprep.faults.failing hw.failing) _ r)
    (fun added env h => ?_) fun err env h => ⟨hprep.faults.plans h.1, hprep.keeps h.2⟩
  obtain ⟨hadded, hstore, hproceeds⟩ := h
  have hold : w'.environment.store.load? e.partition.intermediateKeyId key.created.time =
      w.environment.store.load? e.partition.intermediateKeyId key.created.time :=
    hprep.store.load? e.intermediateKeyId_ne _
  replace hadded : added = (w.environment.store.load? e.partition.intermediateKeyId
      key.created.time).isNone := by
    rw [← hold]
    exact hadded
  cases hl : w.environment.store.load? e.partition.intermediateKeyId key.created.time with
  | none =>
    rw [hl] at hadded hold
    subst hadded
    exact .of_added hrefuses hprep hcreated hrevoked hused houter hdec hl
      ⟨hproceeds.clock, hproceeds.store, hproceeds.faults⟩ hstore
  | some r₀ =>
    rw [hl] at hadded hold
    subst hadded
    have hsame : env.store = w'.environment.store := by
      rw [hstore]
      exact Store.insert_of_load? hold
    have hk : w'.environment.Keeps { env with log := env.log ++
        [.raceLost .intermediate e.partition.intermediateKeyId] } :=
      ⟨hproceeds.clock, hsame, hproceeds.faults⟩
    have hprep' := hprep.keeps hk
    obtain ⟨r', hlatest⟩ := Store.exists_latest? hl
    have htaken : (w.environment.store.load? e.partition.intermediateKeyId
        (e.policy.intermediateStamp w.environment.clock.wall).time).isSome := by
      rw [← hcreated, hl]
      rfl
    have hlatest' : env.store.latest? e.partition.intermediateKeyId = some r' := by
      rw [hsame, hprep.store.latest? e.intermediateKeyId_ne, hlatest]
    refine (yields_reloadIntermediateKey (hw.prepares hprep').toGrounded hlatest').mono
      (fun k w'' h => ?_) fun err w'' h => ⟨hprep'.faults.plans h.1, hprep'.reads h.2⟩
    obtain ⟨hreads, hk', hkey⟩ := h
    have hsame' : w''.environment.store = w'.environment.store :=
      hreads.environment.store.trans hsame
    refine .of_prepares (hprep'.reads hreads) (.reloaded r' systemKey hrefuses htaken ?_ hlatest
      hk') ?_
    · rw [hsame']
      exact hused
    · rw [hreads.environment.store]
      exact hkey

lemma yields_createIntermediateKey (hw : e.Sound m w) (hrefuses : e.RefusesLatest w)
    {env : Environment} (hk : w.environment.Keeps env) :
    e.createIntermediateKey.Yields { w with environment := env }
      (fun k w' => e.IntermediateResult m w k w')
      (fun err w' => w.environment.faults.Plans err ∧ e.Prepares m w w') := by
  unfold createIntermediateKey
  refine yields_bind.2 (yields_lift.2 ?_)
  rw [Effect.yields_now]
  refine yields_lift_bind (Effect.yields_generateKey _) (fun key env₁ h => ?_)
    fun _ _ h => h.elim
  obtain ⟨⟨hcreated, hrevoked⟩, hk₁⟩ := h
  rw [hk.clock] at hcreated
  replace hk₁ : w.environment.Keeps env₁ := hk.trans hk₁
  have hr₁ : e.Reads m w { w with environment := env₁ } := .of_keeps hk₁
  refine (yields_systemKeyForWrite (hw.reads hr₁)).bind (fun handle w₂ h => ?_)
    fun err w₂ h => ⟨hk₁.faults.plans h.1, h.2.of_keeps hk₁⟩
  obtain ⟨hprep, hused, outer, houter, hpersists⟩ := h
  have hwrap := Effect.yields_sealing (e := w₂.environment)
    (Key.wrap_yields handle.key key w₂.environment.random)
  refine yields_lift_bind hwrap (fun wrapped env₃ h => ?_) fun err env₃ h => ?_
  · obtain ⟨hdec, hk₃⟩ := h
    rw [Key.decrypt_congr hpersists.1.symm] at hdec
    refine yields_insertOrReload hw hrefuses ((hprep.of_keeps hk₁).keeps hk₃) hcreated hrevoked
      ?_ ?_ hdec
    · exact hk₃.store ▸ hused.of_keeps hk₁
    · exact hk₃.store ▸ houter
  · obtain ⟨⟨_, _, h⟩, _⟩ := h
    exact h.elim

/-- A parent that may not be used is reported, and a new key is made. -/
lemma yields_emit_createIntermediateKey (hw : e.Sound m w) (hrefuses : e.RefusesLatest w)
    (hk : w.environment.Keeps w'.environment)
    (hcaches : w'.systemKeys = w.systemKeys ∧ w'.intermediateKeys = w.intermediateKeys)
    (event : Event) :
    (do
      liftM (Effect.emit event)
      e.createIntermediateKey : Work Key).Yields w'
      (fun k w' => e.IntermediateResult m w k w')
      (fun err w' => w.environment.faults.Plans err ∧ e.Prepares m w w') := by
  obtain ⟨env, systemKeys, intermediateKeys⟩ := w'
  obtain ⟨rfl, rfl⟩ := hcaches
  refine yields_bind.2 (yields_lift.2 ?_)
  rw [Effect.yields_emit]
  exact yields_createIntermediateKey hw hrefuses (hk.trans (Effect.keeps_log _ event))

/-- The latest record, if permitted, is opened with the key handed out for its parent. -/
lemma yields_openLatestWith (hw : e.Sound m w) (hreads : e.Reads m w w') {r : KeyRecord}
    {p : KeyMeta} {outer handle k : Key}
    (hlatest : w.environment.store.latest? e.partition.intermediateKeyId = some r)
    (hpermits : e.Permits w.environment.clock.wall r.created r.isRevoked) (hp : r.parent = some p)
    (hparent : e.ParentPermits w.systemKeys w.environment.clock w.environment.store p)
    (hopen : r.openWith outer = .ok k) (hhandle : handle.Persists outer)
    (hkey : w.environment.store.intermediateKey m ⟨e.partition.intermediateKeyId, r.created⟩ =
      .ok k) :
    (liftM (openIntermediateRecord r handle) : Work Key).Yields w'
      (fun k w' => e.IntermediateResult m w k w')
      (fun err w' => w.environment.faults.Plans err ∧ e.Prepares m w w') := by
  rw [← KeyRecord.openWith_congr hhandle.1.symm] at hopen
  refine yields_lift.2 ((yields_openIntermediateRecord r handle).mono (fun k' env h => ?_)
    fun err env h => ?_)
  · obtain ⟨hk', rfl⟩ := h
    cases hopen.symm.trans hk'
    obtain ⟨-, -, -, hc, -⟩ := KeyRecord.openWith_eq_ok hopen
    refine .of_prepares (hw.prepares_of_reads hreads) (.latest r p hlatest hpermits hp hparent hc
      hreads.environment.store) ?_
    rw [hreads.environment.store, hc, hkey]
  · cases hopen.symm.trans h.1

/-- **The newest intermediate key** is found or made, unless a planned failure is met. -/
theorem yields_latestOrNewIntermediateKey (hw : e.Sound m w) {env : Environment}
    (hk : w.environment.Keeps env) :
    e.latestOrNewIntermediateKey.Yields { w with environment := env }
      (fun k w' => e.IntermediateResult m w k w')
      (fun err w' => w.environment.faults.Plans err ∧ e.Prepares m w w') := by
  unfold latestOrNewIntermediateKey
  refine yields_lift_bind (Effect.yields_latestRecord (hk.faults.truthful hw.faults) _)
    (fun found env₁ h => ?_)
    fun err env₁ h => ⟨hk.faults.plans h.1, hw.prepares_of_reads (.of_keeps (hk.trans h.2))⟩
  obtain ⟨hfound, hk₁⟩ := h
  rw [hk.store] at hfound
  subst hfound
  replace hk₁ : w.environment.Keeps env₁ := hk.trans hk₁
  cases hlatest : w.environment.store.latest? e.partition.intermediateKeyId with
  | none =>
    refine yields_createIntermediateKey hw (fun r p h => ?_) hk₁
    rw [hlatest] at h
    cases h
  | some r =>
    obtain ⟨p, outer, k, hp, -, houter, hopen, hkey⟩ := hw.store.intermediateKey
      e.partition.isIntermediateId_intermediateKeyId (hw.store.dated.latest? hlatest).1
    refine yields_lift_bind (e.yields_isUsable _ _ _ _) (fun b env₂ h => ?_)
      fun _ _ h => h.elim
    obtain ⟨hb, hk₂⟩ := h
    rw [hk₁.clock] at hb
    replace hk₂ : w.environment.Keeps env₂ := hk₁.trans hk₂
    have refuses : (e.Permits w.environment.clock.wall r.created r.isRevoked →
        ¬ e.ParentPermits w.systemKeys w.environment.clock w.environment.store p) →
        e.RefusesLatest w := by
      intro h r' p' hr' hpermits hp'
      rw [hlatest] at hr'
      cases hr'
      rw [hp] at hp'
      cases hp'
      exact h hpermits
    cases b with
    | false =>
      refine yields_createIntermediateKey hw (refuses fun h => ?_) hk₂
      exact absurd (hb.2 h) Bool.false_ne_true
    | true =>
      rw [if_pos rfl, hp]
      have hr₂ : e.Reads m w { w with environment := env₂ } := .of_keeps hk₂
      refine (yields_systemKey (hw.reads hr₂).toCoherent p true).bind (fun l w' h => ?_)
        fun err w' h => ?_
      · cases h with
        | found handle outer' reads permits key persists =>
          have permits := permits rfl
          simp only [hk₂.clock, hk₂.store] at permits key
          cases houter.symm.trans key
          exact yields_openLatestWith hw (hr₂.trans reads) hlatest (hb.1 rfl) hp permits hopen
            persists hkey
        | unusable write keeps caches parent =>
          rw [hk₂.clock, hk₂.store] at parent
          exact yields_emit_createIntermediateKey hw (refuses fun _ => parent) (hk₂.trans keeps)
            caches _
        | notFound keeps caches parent missing =>
          rw [hk₂.clock, hk₂.store] at parent
          exact yields_emit_createIntermediateKey hw (refuses fun _ => parent) (hk₂.trans keeps)
            caches _
      · obtain ⟨hreads, hplan | herr⟩ := h
        · exact ⟨hk₂.faults.plans hplan, hw.prepares_of_reads (hr₂.trans hreads)⟩
        · rw [hk₂.store, houter] at herr
          cases herr

end Envelope.Engine
