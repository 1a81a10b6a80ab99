import Envelope.Proofs.Resolution

/-!
The system key that a write uses.

It comes from the cache, from the latest record, from a record the write adds or, where the place
of the new record is taken, from the latest record as it is. The last way asks nothing of the key.
-/

namespace Envelope

open Envelope.Action

namespace Store

/-- At most one record has been added: one of a system key, at a free place. -/
def AddsSystem (s : Store) (id : String) (created : Stamp) (s' : Store) : Prop :=
  s' = s ∨ s.load? id created.time = none ∧
    ∃ wrapped, s' = (s.insert id created.time (.system created wrapped (some false))).2

variable {s s' : Store} {id : String} {created : Stamp}

lemma AddsSystem.extends (h : s.AddsSystem id created s') : s.Extends s' := by
  rcases h with rfl | ⟨-, wrapped, rfl⟩
  · exact .refl _
  · exact extends_insert s id _ _

/-- A record is an old one or the new one, which is not revoked. -/
lemma AddsSystem.load?_eq_some (h : s.AddsSystem id created s') {id' : String} {t : Time}
    {r : KeyRecord} (hl : s'.load? id' t = some r) :
    s.load? id' t = some r ∨ id' = id ∧ t = created.time ∧ r.isRevoked = false := by
  rcases h with rfl | ⟨-, wrapped, rfl⟩
  · exact Or.inl hl
  · rcases load?_of_insert hl with hl | ⟨rfl, rfl, rfl, -⟩
    · exact Or.inl hl
    · exact Or.inr ⟨rfl, rfl, rfl⟩

lemma AddsSystem.timeline (h : s.AddsSystem id created s') {id' : String} (hne : id' ≠ id) :
    s'.timeline id' = s.timeline id' := by
  rcases h with rfl | ⟨-, wrapped, rfl⟩
  · rfl
  · unfold insert
    rw [timeline_setTimeline, if_neg hne]

/-- The records under other key ids are as they were. -/
lemma AddsSystem.load? (h : s.AddsSystem id created s') {id' : String} (hne : id' ≠ id)
    (t : Time) : s'.load? id' t = s.load? id' t := by
  unfold Store.load?
  rw [h.timeline hne]

lemma AddsSystem.latest? (h : s.AddsSystem id created s') {id' : String} (hne : id' ≠ id) :
    s'.latest? id' = s.latest? id' := by
  unfold Store.latest?
  rw [h.timeline hne]

end Store

namespace Engine

variable {e : Engine} {m : Key} {w w' : Workspace}

/-! ### Sound workspaces -/

/-- The caches mirror a store that is sound. -/
structure Grounded (e : Engine) (m : Key) (w : Workspace) : Prop extends e.Coherent m w where
  store : w.environment.store.Sound m

/-- The caches mirror a store that is sound, and calls only fail by errors without effect. -/
structure Sound (e : Engine) (m : Key) (w : Workspace) : Prop extends e.Grounded m w where
  failing : w.environment.faults.Failing

lemma Grounded.reads (hw : e.Grounded m w) (h : e.Reads m w w') : e.Grounded m w' :=
  ⟨hw.toCoherent.reads h, h.environment.store ▸ hw.store⟩

lemma Sound.reads (hw : e.Sound m w) (h : e.Reads m w w') : e.Sound m w' :=
  ⟨hw.toGrounded.reads h, h.environment.faults.failing hw.failing⟩

/-- Nothing changed but the system tier: records may be new and keys may be cached. -/
structure Prepares (e : Engine) (m : Key) (w w' : Workspace) : Prop where
  clock : w'.environment.clock = w.environment.clock
  faults : w.environment.faults.Leaves w'.environment.faults
  store : w.environment.store.AddsSystem e.partition.systemKeyId
    (e.policy.systemStamp w.environment.clock.wall) w'.environment.store
  sound : w'.environment.store.Sound m
  systemKeys : w.systemKeys.Refreshes
    (fun t => w'.environment.store.systemKey m ⟨e.partition.systemKeyId, t⟩)
    w.environment.clock.elapsed w'.systemKeys
  intermediateKeys : w'.intermediateKeys = w.intermediateKeys

lemma Sound.prepares_of_reads (hw : e.Sound m w) (h : e.Reads m w w') : e.Prepares m w w' :=
  ⟨h.environment.clock, h.environment.faults, Or.inl h.environment.store,
    h.environment.store ▸ hw.store, h.environment.store ▸ h.systemKeys, h.intermediateKeys⟩

lemma Sound.prepares (hw : e.Sound m w) (h : e.Prepares m w w') : e.Sound m w' where
  service := hw.service
  faults := h.faults.truthful hw.faults
  failing := h.faults.failing hw.failing
  dated := h.sound.dated
  store := h.sound
  systemKeys := hw.systemKeys.of_refreshes h.systemKeys
    fun hk => ⟨_, h.store.extends.systemKey hk, .refl _⟩
  intermediateKeys := h.intermediateKeys ▸ hw.intermediateKeys.mono
    fun hk => ⟨_, h.store.extends.intermediateKey hk, .refl _⟩

/-- The same environment as after preparations, later on. -/
lemma Prepares.keeps (h : e.Prepares m w w') {env : Environment}
    (hk : w'.environment.Keeps env) : e.Prepares m w { w' with environment := env } :=
  ⟨hk.clock.trans h.clock, h.faults.trans hk.faults, hk.store ▸ h.store, hk.store ▸ h.sound,
    hk.store ▸ h.systemKeys, h.intermediateKeys⟩

/-- Reads may follow preparations. -/
lemma Prepares.reads {w'' : Workspace} (h : e.Prepares m w w') (h' : e.Reads m w' w'') :
    e.Prepares m w w'' := by
  have hs := h'.systemKeys
  rw [h.clock] at hs
  have h'' := h.keeps h'.environment
  exact ⟨h''.clock, h''.faults, h''.store, h''.sound,
    h'.environment.store ▸ h.systemKeys.trans hs id, h'.intermediateKeys.trans h.intermediateKeys⟩

/-! ### The newest system key -/

/-- Where a system key comes from that is not in the cache. -/
inductive NewestSystemKey (e : Engine) (now : Time) (s s' : Store) (k : Key) : Prop where
  /-- The latest record, which is permitted. -/
  | latest (r : KeyRecord) (latest : s.latest? e.partition.systemKeyId = some r)
      (permits : e.Permits now r.created r.isRevoked) (created : k.created = r.created)
      (same : s' = s)
  /-- A new record at a free place. -/
  | added (wrapped : Bytes)
      (refuses : ∀ r, s.latest? e.partition.systemKeyId = some r →
        ¬ e.Permits now r.created r.isRevoked)
      (free : s.load? e.partition.systemKeyId (e.policy.systemStamp now).time = none)
      (created : k.created = e.policy.systemStamp now)
      (adds : s' = (s.insert e.partition.systemKeyId k.created.time
        (.system k.created wrapped (some false))).2)
  /-- The latest record, whatever it is, because the place of a new one is taken. -/
  | reloaded (r : KeyRecord) (latest : s.latest? e.partition.systemKeyId = some r)
      (refuses : ¬ e.Permits now r.created r.isRevoked)
      (taken : (s.load? e.partition.systemKeyId (e.policy.systemStamp now).time).isSome)
      (created : k.created = r.created) (same : s' = s)

variable {env : Environment}

lemma NewestSystemKey.addsSystem {now : Time} {s s' : Store} {k : Key}
    (h : e.NewestSystemKey now s s' k) :
    s.AddsSystem e.partition.systemKeyId (e.policy.systemStamp now) s' := by
  cases h with
  | latest r _ _ _ same => exact Or.inl same
  | added wrapped _ free created adds => exact Or.inr ⟨free, wrapped, created ▸ adds⟩
  | reloaded r _ _ _ _ same => exact Or.inl same

/-- What a computation on the system tier comes to. -/
structure SystemResult (e : Engine) (m : Key) (env : Environment) (k : Key) (env' : Environment) :
    Prop where
  newest : e.NewestSystemKey env.clock.wall env.store env'.store k
  key : env'.store.systemKey m ⟨e.partition.systemKeyId, k.created⟩ = .ok k
  sound : env'.store.Sound m
  clock : env'.clock = env.clock
  faults : env.faults.Leaves env'.faults

lemma SystemResult.of_keeps (hsound : env.store.Sound m) {k : Key} {env' : Environment}
    (hk : env.Keeps env') (hn : e.NewestSystemKey env.clock.wall env.store env'.store k)
    (hkey : env.store.systemKey m ⟨e.partition.systemKeyId, k.created⟩ = .ok k) :
    e.SystemResult m env k env' :=
  ⟨hn, hk.store ▸ hkey, hk.store ▸ hsound, hk.clock, hk.faults⟩

/-- A new key comes to the record it was wrapped for, at a free place. -/
lemma SystemResult.of_added (hsound : env.store.Sound m)
    (hrefuses : ∀ r, env.store.latest? e.partition.systemKeyId = some r →
      ¬ e.Permits env.clock.wall r.created r.isRevoked)
    {key : Key} {wrapped : Bytes} (hcreated : key.created = e.policy.systemStamp env.clock.wall)
    (hrevoked : key.revoked = false) (hw : m.decrypt wrapped = .ok key.secret)
    (hfree : env.store.load? e.partition.systemKeyId key.created.time = none) {env' : Environment}
    (hstore : env'.store = (env.store.insert e.partition.systemKeyId key.created.time
      (.system key.created wrapped (some false))).2)
    (hclock : env'.clock = env.clock) (hfaults : env.faults.Leaves env'.faults) :
    e.SystemResult m env key env' := by
  have hopen := KeyRecord.openWith_of_decrypt (KeyRecord.keyBytes_system key.created wrapped
    (some false)) hw rfl hrevoked.symm
  refine ⟨.added wrapped hrefuses (hcreated ▸ hfree) hcreated hstore, ?_, ?_, hclock, hfaults⟩
  · rw [hstore]
    exact (Store.systemKey_of_load? (Store.load?_insert_self hfree _)).trans hopen
  · rw [hstore]
    exact hsound.insert_system e.partition.isSystemId_systemKeyId rfl hopen

/-- The latest record of a sound store opens. -/
lemma yields_openLatest (hs : e.service = .master m) (hsound : env.store.Sound m) {r : KeyRecord}
    (hlatest : env.store.latest? e.partition.systemKeyId = some r) {env₁ : Environment}
    (hk₁ : env.Keeps env₁) :
    (e.openSystemRecord r).Yields env₁
      (fun k env' => k.created = r.created ∧
        env.store.systemKey m ⟨e.partition.systemKeyId, k.created⟩ = .ok k ∧ env.Keeps env')
      (fun err env' => env.faults.Plans err ∧ env.Keeps env') := by
  obtain ⟨k, hopen, hkey⟩ := hsound.systemKey e.partition.isSystemId_systemKeyId
    (hsound.dated.latest? hlatest).1
  refine (yields_openSystemRecord hs r).mono (fun k' env' h => ?_) fun err env' h => ?_
  · obtain ⟨ho, hk⟩ := h
    rw [hopen] at ho
    cases ho
    obtain ⟨-, -, -, hc, -⟩ := KeyRecord.openWith_eq_ok hopen
    exact ⟨hc, hc ▸ hkey, hk₁.trans hk⟩
  · obtain ⟨hp | ho, hk⟩ := h
    · exact ⟨hk₁.faults.plans hp, hk₁.trans hk⟩
    · rw [hopen] at ho
      cases ho

lemma yields_createSystemKey (hs : e.service = .master m) (hf : env.faults.Failing)
    (hsound : env.store.Sound m)
    (hrefuses : ∀ r, env.store.latest? e.partition.systemKeyId = some r →
      ¬ e.Permits env.clock.wall r.created r.isRevoked) :
    e.createSystemKey.Yields env (fun k env' => e.SystemResult m env k env')
      (fun err env' => env.faults.Plans err ∧ env.Keeps env') := by
  unfold createSystemKey
  rw [hs]
  simp only [yields_bind, Effect.yields_now]
  refine (Effect.yields_generateKey _).mono (fun key env₁ h => ?_) fun _ _ h => h.elim
  obtain ⟨⟨hcreated, hrevoked⟩, hk₁⟩ := h
  refine (Effect.yields_callWrap m key).mono (fun wrapped env₂ h => ?_) fun err env₂ h =>
    ⟨hk₁.faults.plans h.1, hk₁.trans h.2⟩
  obtain ⟨hw, hk₂⟩ := h
  have hk₂ := hk₁.trans hk₂
  let r : KeyRecord := .system key.created wrapped (some false)
  refine (Effect.yields_insertRecord (hk₂.faults.failing hf) _ r).mono (fun added env₃ h => ?_)
    fun err env₃ h => ⟨hk₂.faults.plans h.1, hk₂.trans h.2⟩
  obtain ⟨hadded, hstore, hproceeds⟩ := h
  rw [hk₂.store] at hadded hstore
  have hclock : env₃.clock = env.clock := hproceeds.clock.trans hk₂.clock
  have hfaults : env.faults.Leaves env₃.faults := hk₂.faults.trans hproceeds.faults
  replace hadded : added = (env.store.load? e.partition.systemKeyId key.created.time).isNone :=
    hadded
  cases hl : env.store.load? e.partition.systemKeyId key.created.time with
  | none =>
    rw [hl] at hadded
    subst hadded
    exact .of_added hsound hrefuses hcreated hrevoked hw hl hstore hclock hfaults
  | some r₀ =>
    rw [hl] at hadded
    subst hadded
    have hsame : env₃.store = env.store := by
      rw [hstore]
      exact Store.insert_of_load? hl
    have hk₃ : env.Keeps env₃ := ⟨hclock, hsame, hfaults⟩
    obtain ⟨r', hlatest⟩ := Store.exists_latest? hl
    refine yields_bind.2 (Effect.yields_emit.2 ?_)
    have hk₄ := hk₃.trans (Effect.keeps_log env₃ (.raceLost .system e.partition.systemKeyId))
    refine (Effect.yields_latestRecord (hk₄.faults.failing hf).truthful _).bind
      (fun found env₅ h => ?_) fun err env₅ h => ⟨hk₄.faults.plans h.1, hk₄.trans h.2⟩
    obtain ⟨hfound, hk₅⟩ := h
    have hk₅ := hk₄.trans hk₅
    rw [hk₄.store, hlatest] at hfound
    subst hfound
    have htaken : (env.store.load? e.partition.systemKeyId
        (e.policy.systemStamp env.clock.wall).time).isSome := by
      rw [← hcreated, hl]
      rfl
    refine (yields_openLatest hs hsound hlatest hk₅).mono (fun k env' h => ?_) fun _ _ h => h
    obtain ⟨hc, hkey, hk⟩ := h
    exact .of_keeps hsound hk (.reloaded r' hlatest (hrefuses r' hlatest) htaken hc hk.store) hkey

lemma yields_latestOrNewSystemKey (hs : e.service = .master m) (hf : env.faults.Failing)
    (hsound : env.store.Sound m) :
    e.latestOrNewSystemKey.Yields env (fun k env' => e.SystemResult m env k env')
      (fun err env' => env.faults.Plans err ∧ env.Keeps env') := by
  unfold latestOrNewSystemKey
  -- creation starts from the environment after the look-up, where nothing has changed
  have create : ∀ env₁, env.Keeps env₁ →
      (∀ r, env.store.latest? e.partition.systemKeyId = some r →
        ¬ e.Permits env.clock.wall r.created r.isRevoked) →
      e.createSystemKey.Yields env₁ (fun k env' => e.SystemResult m env k env')
        (fun err env' => env.faults.Plans err ∧ env.Keeps env') := by
    intro env₁ hk hrefuses
    have h := yields_createSystemKey hs (hk.faults.failing hf) (hk.store ▸ hsound)
      (hk.store ▸ hk.clock ▸ hrefuses)
    refine h.mono (fun k env' h => ?_) fun err env' h =>
      ⟨hk.faults.plans h.1, hk.trans h.2⟩
    exact ⟨hk.store ▸ hk.clock ▸ h.newest, h.key, h.sound, h.clock.trans hk.clock,
      hk.faults.trans h.faults⟩
  refine (Effect.yields_latestRecord hf.truthful _).bind (fun found env₁ h => ?_) fun _ _ h => h
  obtain ⟨rfl, hk⟩ := h
  cases hlatest : env.store.latest? e.partition.systemKeyId with
  | none => exact create env₁ hk fun r hr => by rw [hlatest] at hr; cases hr
  | some r =>
    refine (e.yields_isUsable _ _ _ _).bind (fun b env₂ h => ?_) fun _ _ h => h.elim
    obtain ⟨hb, hk₂⟩ := h
    rw [hk.clock] at hb
    have hk₂ := hk.trans hk₂
    cases b with
    | true =>
      refine (yields_openLatest hs hsound hlatest hk₂).mono (fun k env' h => ?_) fun _ _ h => h
      obtain ⟨hc, hkey, hk⟩ := h
      exact .of_keeps hsound hk (.latest r hlatest (hb.1 rfl) hc hk.store) hkey
    | false =>
      refine create env₂ hk₂ fun r' hr' hp => ?_
      rw [hlatest] at hr'
      cases hr'
      exact absurd (hb.2 hp) Bool.false_ne_true

/-! ### The system key of a write -/

/-- The latest system key in the cache may not be used. -/
def MissesSystem (e : Engine) (w : Workspace) : Prop :=
  e.policy.cachesSystemKeys = true → ∀ t k,
    w.systemKeys.latest? w.environment.clock.elapsed = some (t, k) →
      ¬ e.Permits w.environment.clock.wall k.created k.revoked

/-- Where the system key of a write comes from. -/
inductive SystemKeyUsed (e : Engine) (w : Workspace) (s' : Store) (k : Key) : Prop where
  | cached (t : Time) (caches : e.policy.cachesSystemKeys = true)
      (latest : w.systemKeys.latest? w.environment.clock.elapsed = some (t, k))
      (permits : e.Permits w.environment.clock.wall k.created k.revoked)
      (same : s' = w.environment.store)
  | newest (misses : e.MissesSystem w)
      (newest : e.NewestSystemKey w.environment.clock.wall w.environment.store s' k)

lemma SystemKeyUsed.addsSystem {s' : Store} {k : Key} (h : e.SystemKeyUsed w s' k) :
    w.environment.store.AddsSystem e.partition.systemKeyId
      (e.policy.systemStamp w.environment.clock.wall) s' := by
  cases h with
  | cached t _ _ _ same => exact Or.inl same
  | newest _ newest => exact newest.addsSystem

/-- What happened before in the environment makes no difference. -/
lemma SystemKeyUsed.of_keeps {env : Environment} {s' : Store} {k : Key}
    (hk : w.environment.Keeps env)
    (h : e.SystemKeyUsed { w with environment := env } s' k) : e.SystemKeyUsed w s' k := by
  cases h with
  | cached t caches latest permits same =>
    simp only [hk.clock, hk.store] at latest permits same
    exact .cached t caches latest permits same
  | newest misses newest =>
    unfold MissesSystem at misses
    simp only [hk.clock, hk.store] at misses newest
    exact .newest misses newest

lemma Prepares.of_keeps {env : Environment} (hk : w.environment.Keeps env)
    (h : e.Prepares m { w with environment := env } w') : e.Prepares m w w' := by
  obtain ⟨clock, faults, store, sound, systemKeys, intermediateKeys⟩ := h
  simp only [hk.clock, hk.store] at clock store systemKeys
  exact ⟨clock, hk.faults.trans faults, store, sound, systemKeys, intermediateKeys⟩

/-- **The system key of a write** is found or made, unless a planned failure is met. -/
theorem yields_systemKeyForWrite (hw : e.Sound m w) :
    e.systemKeyForWrite.Yields w
      (fun handle w' => e.Prepares m w w' ∧
        e.SystemKeyUsed w w'.environment.store handle.key ∧
        ∃ k, w'.environment.store.systemKey m ⟨e.partition.systemKeyId, handle.key.created⟩ =
          .ok k ∧ handle.key.Persists k)
      (fun err w' => w.environment.faults.Plans err ∧ e.Prepares m w w') := by
  have resolve : ∀ env, w.environment.Keeps env → e.MissesSystem w →
      (do
        let key ← liftM e.latestOrNewSystemKey
        e.retainSystemKey key : Work KeyHandle).Yields { w with environment := env }
        (fun handle w' => e.Prepares m w w' ∧
          e.SystemKeyUsed w w'.environment.store handle.key ∧
          ∃ k, w'.environment.store.systemKey m
            ⟨e.partition.systemKeyId, handle.key.created⟩ = .ok k ∧ handle.key.Persists k)
        (fun err w' => w.environment.faults.Plans err ∧ e.Prepares m w w') := by
    intro env hk hmisses
    refine yields_lift_bind (yields_latestOrNewSystemKey hw.service (hk.faults.failing hw.failing)
      (hk.store ▸ hw.store)) (fun k env' h => ?_) fun err env' h => ?_
    · have hnewest := h.newest
      rw [hk.store, hk.clock] at hnewest
      have hprep : e.Prepares m w { w with environment := env' } :=
        ⟨h.clock.trans hk.clock, hk.faults.trans h.faults, hnewest.addsSystem, h.sound, .refl _,
          rfl⟩
      refine (yields_retainSystemKey (hw.prepares hprep).toCoherent h.key).mono
        (fun handle w' h' => ?_) fun _ _ h => h
      obtain ⟨rfl, hreads, henv⟩ := h'
      have hsys := hreads.systemKeys
      simp only [h.clock.trans hk.clock] at hsys
      rw [henv]
      exact ⟨⟨henv ▸ hprep.clock, henv ▸ hprep.faults, henv ▸ hprep.store, henv ▸ hprep.sound,
        henv ▸ hsys, hreads.intermediateKeys⟩, .newest hmisses hnewest, _, h.key, .refl _⟩
    · exact ⟨hk.faults.plans h.1, hw.prepares_of_reads (.of_keeps (hk.trans h.2))⟩
  unfold systemKeyForWrite
  dsimp only
  split
  · next hcaches =>
    unfold latestSystemKey?
    simp only [yields_bind (a := ofState _), yields_ofState]
    cases hl : w.systemKeys.latest? w.environment.clock.elapsed with
    | none =>
      refine resolve w.environment (.refl _) fun _ t k h => ?_
      rw [hl] at h
      cases h
    | some tk =>
      obtain ⟨t, k⟩ := tk
      refine yields_lift_bind (e.yields_isUsable _ _ _ _) (fun b env h => ?_) fun _ _ h => h.elim
      obtain ⟨hb, hk⟩ := h
      cases b with
      | true =>
        obtain ⟨-, k', hk', hp⟩ := hw.systemKeys.latest? hl
        refine ⟨hw.prepares_of_reads (.of_keeps hk), .cached t hcaches hl (hb.1 rfl) hk.store,
          k', ?_, hp⟩
        exact hk.store ▸ hk'
      | false =>
        refine resolve env hk fun _ t' k' h hp => ?_
        rw [hl] at h
        cases h
        exact absurd (hb.2 hp) Bool.false_ne_true
  · next hcaches => exact resolve w.environment (.refl _) fun h => absurd h hcaches

end Engine

end Envelope
