import Envelope.Proofs.Collaborators
import Envelope.Proofs.KeyCache

/-!
Which system key an engine resolves a pointer to.

With caches that mirror the store, an engine resolves a pointer to the key that the store has for
it, whether the key comes from the cache or from its record. For a write the key must also be
permitted, and what is asked then is the cached key if there is one and the record otherwise.
-/

namespace Envelope.Engine

open Envelope.Action

/-! ### Coherent workspaces -/

/-- The caches of an engine mirror the store, whose records stand under their own times. -/
structure Coherent (e : Engine) (m : Key) (w : Workspace) : Prop where
  service : e.service = .master m
  faults : w.environment.faults.Truthful
  dated : w.environment.store.Dated
  systemKeys : w.systemKeys.Mirrors fun t =>
    w.environment.store.systemKey m ⟨e.partition.systemKeyId, t⟩
  intermediateKeys : w.intermediateKeys.Mirrors fun t =>
    w.environment.store.intermediateKey m ⟨e.partition.intermediateKeyId, t⟩

/-- Nothing changed but that system keys may have been read into their cache. -/
structure Reads (e : Engine) (m : Key) (w w' : Workspace) : Prop where
  environment : w.environment.Keeps w'.environment
  systemKeys : w.systemKeys.Refreshes
    (fun t => w.environment.store.systemKey m ⟨e.partition.systemKeyId, t⟩)
    w.environment.clock.elapsed w'.systemKeys
  intermediateKeys : w'.intermediateKeys = w.intermediateKeys

variable {e : Engine} {m : Key} {w w' w'' : Workspace}

lemma Reads.refl (e : Engine) (m : Key) (w : Workspace) : e.Reads m w w :=
  ⟨.refl _, .refl _, rfl⟩

lemma Reads.of_keeps {env : Environment} (h : w.environment.Keeps env) :
    e.Reads m w { w with environment := env } :=
  ⟨h, .refl _, rfl⟩

lemma Reads.trans (h : e.Reads m w w') (h' : e.Reads m w' w'') : e.Reads m w w'' := by
  refine ⟨h.environment.trans h'.environment, ?_, h'.intermediateKeys.trans h.intermediateKeys⟩
  have hs := h'.systemKeys
  rw [h.environment.store, h.environment.clock] at hs
  exact h.systemKeys.trans hs id

lemma Coherent.reads (hw : e.Coherent m w) (h : e.Reads m w w') : e.Coherent m w' where
  service := hw.service
  faults := h.environment.faults.truthful hw.faults
  dated := h.environment.store ▸ hw.dated
  systemKeys := by
    rw [h.environment.store]
    exact hw.systemKeys.of_refreshes h.systemKeys fun hk => ⟨_, hk, .refl _⟩
  intermediateKeys := by
    rw [h.environment.store, h.intermediateKeys]
    exact hw.intermediateKeys

/-! ### Cached pointers -/

/-- Only the system key of the partition is cached. -/
lemma keyId_of_cachesSystemKey {p : KeyMeta} (h : e.cachesSystemKey p = true) :
    p.keyId = e.partition.systemKeyId := by
  simp only [cachesSystemKey, Bool.and_eq_true, beq_iff_eq] at h
  exact h.2

/-- Only the intermediate key of the partition is cached. -/
lemma keyId_of_cachesIntermediateKey {p : KeyMeta} (h : e.cachesIntermediateKey p = true) :
    p.keyId = e.partition.intermediateKeyId := by
  simp only [cachesIntermediateKey, Bool.and_eq_true, beq_iff_eq] at h
  exact h.2

/-! ### Permission -/

/-- A key with this creation time and revocation may protect new data. -/
def Permits (e : Engine) (now : Time) (created : Stamp) (revoked : Bool) : Prop :=
  revoked = false ∧ (e.policy.IsExpired now created.time → e.policy.rotation = .queued)

lemma Permits.not_revoked {now : Time} {created : Stamp} {revoked : Bool}
    (h : e.Permits now created revoked) : revoked = false := h.1

lemma Permits.ne_true {now : Time} {created : Stamp} {revoked : Bool}
    (h : e.Permits now created revoked) : revoked ≠ true :=
  fun hr => Bool.false_ne_true (h.not_revoked.symm.trans hr)

/-- **Usability** is permission. -/
lemma yields_isUsable (e : Engine) (id : String) (created : Stamp) (revoked : Bool)
    (env : Environment) :
    (e.isUsable id created revoked).Yields env
      (fun b env' => (b = true ↔ e.Permits env.clock.wall created revoked) ∧ env.Keeps env')
      (fun _ _ => False) := by
  unfold isUsable Permits
  cases revoked with
  | true => simpa using Environment.Keeps.refl env
  | false =>
    simp only [Bool.false_eq_true, if_false, true_and, yields_bind, Effect.yields_now]
    split
    · next hx => exact ⟨by simp [hx], .refl _⟩
    · next hx =>
      have hx : e.policy.IsExpired env.clock.wall created.time := not_not.1 hx
      cases hr : e.policy.rotation with
      | queued => exact ⟨by simp, Effect.keeps_log env _⟩
      | inline => exact ⟨by simp [hx], .refl _⟩

/-! ### Records -/

lemma yields_openSystemRecord {env : Environment} (hs : e.service = .master m) (r : KeyRecord) :
    (e.openSystemRecord r).Yields env (fun k env' => r.openWith m = .ok k ∧ env.Keeps env')
      (fun err env' => (env.faults.Plans err ∨ r.openWith m = .error err) ∧ env.Keeps env') := by
  unfold openSystemRecord KeyRecord.openWith
  rw [hs]
  cases hb : r.keyBytes with
  | error err => exact ⟨Or.inr rfl, .refl _⟩
  | ok wrapped => exact Effect.yields_callUnwrap m wrapped r.created r.isRevoked

lemma yields_openIntermediateRecord {env : Environment} (r : KeyRecord) (outer : Key) :
    (openIntermediateRecord r outer).Yields env
      (fun k env' => r.openWith outer = .ok k ∧ env' = env)
      (fun err env' => r.openWith outer = .error err ∧ env' = env) := by
  unfold openIntermediateRecord KeyRecord.openWith
  cases hb : r.keyBytes with
  | error err => exact ⟨rfl, rfl⟩
  | ok wrapped => exact Effect.yields_opened _

/-! ### Retaining -/

lemma yields_retainSystemKey {k : Key} {E : Error → Workspace → Prop} (hw : e.Coherent m w)
    (hk : w.environment.store.systemKey m ⟨e.partition.systemKeyId, k.created⟩ = .ok k) :
    (e.retainSystemKey k).Yields w (fun h w' => h.key = k ∧ e.Reads m w w' ∧
      w'.environment = w.environment) E := by
  unfold retainSystemKey
  split
  · exact ⟨(hw.systemKeys.put hk).1, ⟨.refl _, hw.systemKeys.refreshes_put hk, rfl⟩, rfl⟩
  · exact ⟨rfl, .refl e m w, rfl⟩

/-- The intermediate key cache after a key has been resolved, if intermediate keys are cached. -/
def retained (e : Engine) (c : KeyCache) (now : Nat) (k : Key) : KeyCache :=
  if e.policy.cachesIntermediateKeys then (c.put now k.created.time k).2 else c

lemma yields_retainIntermediateKey {k : Key} {E : Error → Workspace → Prop}
    (hw : e.Coherent m w)
    (hk : w.environment.store.intermediateKey m ⟨e.partition.intermediateKeyId, k.created⟩ =
      .ok k) :
    (e.retainIntermediateKey k).Yields w (fun h w' => h.key = k ∧ w' = { w with
      intermediateKeys :=
        e.retained w.intermediateKeys w.environment.clock.elapsed k }) E := by
  unfold retainIntermediateKey retained
  split
  · exact ⟨(hw.intermediateKeys.put hk).1, rfl⟩
  · exact ⟨rfl, rfl⟩

/-! ### System keys -/

/-- The system key that the cache has for a pointer. -/
def cachedParent? (e : Engine) (c : KeyCache) (elapsed : Nat) (p : KeyMeta) : Option Key :=
  if e.cachesSystemKey p then c.get? elapsed p.created.time else none

/-- The system key that a pointer names may protect new data, as far as the engine knows. -/
def ParentPermits (e : Engine) (c : KeyCache) (clock : Clock) (s : Store) (p : KeyMeta) : Prop :=
  match e.cachedParent? c clock.elapsed p with
  | some k => e.Permits clock.wall k.created k.revoked
  | none => ∃ r, s.load? p.keyId p.created.time = some r ∧
      e.Permits clock.wall r.created r.isRevoked

/-- What a look-up of a system key comes to. -/
inductive LookupResult (e : Engine) (m : Key) (w w' : Workspace) (p : KeyMeta) (forWrite : Bool) :
    Lookup → Prop where
  | found (handle : KeyHandle) (k : Key) (reads : e.Reads m w w')
      (permits : forWrite = true →
        e.ParentPermits w.systemKeys w.environment.clock w.environment.store p)
      (key : w.environment.store.systemKey m p = .ok k) (persists : handle.key.Persists k) :
      LookupResult e m w w' p forWrite (.found handle)
  | unusable (write : forWrite = true) (keeps : w.environment.Keeps w'.environment)
      (caches : w'.systemKeys = w.systemKeys ∧ w'.intermediateKeys = w.intermediateKeys)
      (refuses : ¬ e.ParentPermits w.systemKeys w.environment.clock w.environment.store p) :
      LookupResult e m w w' p forWrite .unusable
  | notFound (keeps : w.environment.Keeps w'.environment)
      (caches : w'.systemKeys = w.systemKeys ∧ w'.intermediateKeys = w.intermediateKeys)
      (refuses : ¬ e.ParentPermits w.systemKeys w.environment.clock w.environment.store p)
      (missing : w.environment.store.load? p.keyId p.created.time = none) :
      LookupResult e m w w' p forWrite .notFound

/-- Whatever a look-up comes to, it only reads. -/
lemma LookupResult.reads {p : KeyMeta} {forWrite : Bool} {l : Lookup}
    (h : e.LookupResult m w w' p forWrite l) : e.Reads m w w' := by
  cases h with
  | found handle k reads => exact reads
  | unusable write keeps caches => exact ⟨keeps, caches.1 ▸ .refl _, caches.2⟩
  | notFound keeps caches => exact ⟨keeps, caches.1 ▸ .refl _, caches.2⟩

/-- How a computation that reads may fail: by a planned failure, or as the store has it. -/
def ReadFailure (e : Engine) (m : Key) (w : Workspace) {α : Type} (r : Except Error α)
    (err : Error) (w' : Workspace) : Prop :=
  e.Reads m w w' ∧ (w.environment.faults.Plans err ∨ r = .error err)

lemma parentPermits_of_none {c : KeyCache} {clock : Clock} {s : Store} {p : KeyMeta}
    (h : e.cachedParent? c clock.elapsed p = none) : e.ParentPermits c clock s p ↔
      ∃ r, s.load? p.keyId p.created.time = some r ∧
        e.Permits clock.wall r.created r.isRevoked := by
  unfold ParentPermits
  rw [h]

lemma yields_loadSystemKey (hw : e.Coherent m w) (p : KeyMeta) (forWrite : Bool)
    (hc : e.cachedParent? w.systemKeys w.environment.clock.elapsed p = none) :
    (e.loadSystemKey p forWrite).Yields w (fun l w' => e.LookupResult m w w' p forWrite l)
      (e.ReadFailure m w (w.environment.store.systemKey m p)) := by
  unfold loadSystemKey
  refine yields_lift_bind (Effect.yields_loadRecord hw.faults p) (fun r env hr => ?_)
    fun err env h => ⟨.of_keeps h.2, Or.inl h.1⟩
  obtain ⟨rfl, hk⟩ := hr
  cases hl : w.environment.store.load? p.keyId p.created.time with
  | none =>
    refine .notFound hk ⟨rfl, rfl⟩ (fun hp => ?_) hl
    obtain ⟨r, hr, -⟩ := (parentPermits_of_none hc).1 hp
    rw [hl] at hr
    cases hr
  | some r =>
    have hpure : w.environment.store.systemKey m p = r.openWith m := Store.systemKey_of_load? hl
    have hdate : r.created = p.created := Stamp.time_inj.1 (hw.dated _ _ _ hl)
    have opens : ∀ env₁, w.environment.Keeps env₁ →
        (forWrite = true →
          e.ParentPermits w.systemKeys w.environment.clock w.environment.store p) →
        (do
          let key ← liftM (e.openSystemRecord r)
          if e.cachesSystemKey p = true then do
            let handle ← e.retainSystemKey key
            pure (Lookup.found handle)
          else pure (Lookup.found (.owned key)) : Work Lookup).Yields
            { w with environment := env₁ }
            (fun l w' => e.LookupResult m w w' p forWrite l)
            (e.ReadFailure m w (w.environment.store.systemKey m p)) := by
      intro env₁ hk₁ hpermits
      refine yields_lift_bind (yields_openSystemRecord hw.service r) (fun k env₂ h => ?_)
        fun err env₂ h => ⟨.of_keeps (hk₁.trans h.2), ?_⟩
      · obtain ⟨ho, hk₂⟩ := h
        have hk₂ := hk₁.trans hk₂
        split
        · next hcache =>
          have hid := keyId_of_cachesSystemKey hcache
          have hkc : k.created = p.created := by
            obtain ⟨-, -, -, hkc, -⟩ := KeyRecord.openWith_eq_ok ho
            rw [hkc, hdate]
          have hlook : env₂.store.systemKey m ⟨e.partition.systemKeyId, k.created⟩ = .ok k := by
            rw [hk₂.store, hkc, ← hid]
            exact hpure.trans ho
          have hw₂ : e.Coherent m { w with environment := env₂ } := hw.reads (.of_keeps hk₂)
          refine (yields_retainSystemKey hw₂ hlook).bind (fun handle w' h => ?_) fun _ _ h => h
          obtain ⟨rfl, hreads, -⟩ := h
          exact .found handle handle.key ((Reads.of_keeps hk₂).trans hreads) hpermits
            (hpure.trans ho) (.refl _)
        · exact .found (.owned k) k (.of_keeps hk₂) hpermits (hpure.trans ho) (.refl _)
      · rcases h.1 with hp | ho
        · exact Or.inl (hk₁.faults.plans hp)
        · exact Or.inr (hpure.trans ho)
    cases forWrite with
    | false => exact opens env hk fun h => absurd h Bool.false_ne_true
    | true =>
      refine yields_lift_bind (e.yields_isUsable _ _ _ _) (fun b env₁ h => ?_) fun _ _ h => h.elim
      obtain ⟨hb, hk₁⟩ := h
      have hk₁ := hk.trans hk₁
      have hiff : b = true ↔
          e.ParentPermits w.systemKeys w.environment.clock w.environment.store p := by
        rw [hb, hk.clock, parentPermits_of_none hc, hl]
        simp
      cases b with
      | true => exact opens env₁ hk₁ fun _ => hiff.1 rfl
      | false =>
        exact .unusable rfl hk₁ ⟨rfl, rfl⟩ fun hp => absurd (hiff.2 hp) (by decide)

/-- **A system key is looked up** as the store has it, and for a write only if it is permitted. -/
theorem yields_systemKey (hw : e.Coherent m w) (p : KeyMeta) (forWrite : Bool) :
    (e.systemKey p forWrite).Yields w (fun l w' => e.LookupResult m w w' p forWrite l)
      (e.ReadFailure m w (w.environment.store.systemKey m p)) := by
  unfold systemKey
  split
  · next hcache =>
    have hid := keyId_of_cachesSystemKey hcache
    have hc : e.cachedParent? w.systemKeys w.environment.clock.elapsed p =
        w.systemKeys.get? w.environment.clock.elapsed p.created.time := by
      unfold cachedParent?
      rw [if_pos hcache]
    unfold cachedSystemKey?
    simp only [yields_bind, yields_ofState]
    cases hg : w.systemKeys.get? w.environment.clock.elapsed p.created.time with
    | none => exact yields_loadSystemKey hw p forWrite (hc.trans hg)
    | some k =>
      obtain ⟨-, k', hk', hp⟩ := hw.systemKeys.get? hg
      have hpure : w.environment.store.systemKey m p = .ok k' := by
        rw [← hk', ← hid]
      have hiff : e.ParentPermits w.systemKeys w.environment.clock w.environment.store p ↔
          e.Permits w.environment.clock.wall k.created k.revoked := by
        unfold ParentPermits
        rw [hc, hg]
      cases forWrite with
      | false =>
        exact .found (.cached k) k' (.refl e m w) (fun h => absurd h Bool.false_ne_true) hpure hp
      | true =>
        refine yields_lift_bind (e.yields_isUsable _ _ _ _) (fun b env h => ?_)
          fun _ _ h => h.elim
        obtain ⟨hb, hk⟩ := h
        cases b with
        | true => exact .found (.cached k) k' (.of_keeps hk) (fun _ => hiff.2 (hb.1 rfl)) hpure hp
        | false =>
          refine .unusable rfl hk ⟨rfl, rfl⟩ fun hp => ?_
          exact absurd (hb.2 (hiff.1 hp)) (by decide)
  · next hcache =>
    refine yields_loadSystemKey hw p forWrite ?_
    unfold cachedParent?
    rw [if_neg hcache]

/-- **A system key is read** as the store has it. -/
theorem yields_systemKeyForRead (hw : e.Coherent m w) (p : KeyMeta) :
    (e.systemKeyForRead p).Yields w
      (fun handle w' => e.Reads m w w' ∧
        ∃ k, w.environment.store.systemKey m p = .ok k ∧ handle.key.Persists k)
      (e.ReadFailure m w (w.environment.store.systemKey m p)) := by
  unfold systemKeyForRead
  refine (yields_systemKey hw p false).bind (fun l w' h => ?_) fun _ _ h => h
  have hreads := h.reads
  cases h with
  | found handle k reads _ key persists =>
    have result : ∃ k, w.environment.store.systemKey m p = .ok k ∧ handle.key.Persists k :=
      ⟨k, key, persists⟩
    dsimp only
    split
    · refine yields_bind.2 (yields_lift.2 ?_)
      rw [Effect.yields_now]
      split
      · exact ⟨reads.trans (.of_keeps (Effect.keeps_log _ _)), result⟩
      · exact ⟨reads, result⟩
    · exact ⟨reads, result⟩
  | unusable write => cases write
  | notFound keeps caches _ missing =>
    refine ⟨hreads, Or.inr ?_⟩
    unfold Store.systemKey
    rw [missing]

end Envelope.Engine
