import Envelope.Proofs.IntermediateTier

/-!
Sealing payloads.

The intermediate key of a write comes from the cache or is the newest one. A payload sealed under
it opens again through the store, in every partition that accepts the key id.
-/

namespace Envelope.Engine

open Envelope.Action

variable {e : Engine} {m : Key} {w w' : Workspace}

/-! ### The intermediate key of a write -/

/-- The latest intermediate key in the cache may not be used. -/
def MissesIntermediate (e : Engine) (w : Workspace) : Prop :=
  e.policy.cachesIntermediateKeys = true → ∀ t k,
    w.intermediateKeys.latest? w.environment.clock.elapsed = some (t, k) →
      ¬ e.Permits w.environment.clock.wall k.created k.revoked

/-- Where the intermediate key of a write comes from, with the store and the cache of
intermediate keys afterwards. -/
inductive IntermediateKeyUsed (e : Engine) (w : Workspace) (s' : Store) (c' : KeyCache) (k : Key) :
    Prop where
  | cached (t : Time) (caches : e.policy.cachesIntermediateKeys = true)
      (latest : w.intermediateKeys.latest? w.environment.clock.elapsed = some (t, k))
      (permits : e.Permits w.environment.clock.wall k.created k.revoked)
      (same : s' = w.environment.store) (cache : c' = w.intermediateKeys)
  | newest (misses : e.MissesIntermediate w) (newest : e.NewestIntermediateKey w s' k)
      (cache : c' = e.retained w.intermediateKeys w.environment.clock.elapsed k)

lemma refreshes_retained {c : KeyCache} {look : Stamp → Except Error Key} {now : Nat} {k : Key}
    (h : c.Mirrors look) (hk : look k.created = .ok k) :
    c.Refreshes look now (e.retained c now k) := by
  unfold retained
  split
  · exact h.refreshes_put hk
  · exact .refl c

/-- The workspace after an intermediate key has been resolved for a write. -/
structure Writes (e : Engine) (m : Key) (w : Workspace) (k : Key) (w' : Workspace) : Prop where
  used : e.IntermediateKeyUsed w w'.environment.store w'.intermediateKeys k
  key : ∃ k', w'.environment.store.intermediateKey m ⟨e.partition.intermediateKeyId, k.created⟩ =
    .ok k' ∧ k.Persists k'
  sound : w'.environment.store.Sound m
  clock : w'.environment.clock = w.environment.clock
  faults : w.environment.faults.Leaves w'.environment.faults
  store : w.environment.store.Extends w'.environment.store
  systemKeys : w.systemKeys.Refreshes
    (fun t => w'.environment.store.systemKey m ⟨e.partition.systemKeyId, t⟩)
    w.environment.clock.elapsed w'.systemKeys
  intermediateKeys : w.intermediateKeys.Refreshes
    (fun t => w'.environment.store.intermediateKey m ⟨e.partition.intermediateKeyId, t⟩)
    w.environment.clock.elapsed w'.intermediateKeys

lemma Writes.keeps {k : Key} (h : e.Writes m w k w') {env : Environment}
    (hk : w'.environment.Keeps env) : e.Writes m w k { w' with environment := env } :=
  ⟨hk.store ▸ h.used, hk.store ▸ h.key, hk.store ▸ h.sound, hk.clock.trans h.clock,
    h.faults.trans hk.faults, hk.store ▸ h.store, hk.store ▸ h.systemKeys,
    hk.store ▸ h.intermediateKeys⟩

/-- **The intermediate key of a write** is found or made, unless a planned failure is met. -/
theorem yields_intermediateKeyForWrite (hw : e.Sound m w) :
    e.intermediateKeyForWrite.Yields w (fun handle w' => e.Writes m w handle.key w')
      (fun err w' => w.environment.faults.Plans err ∧ e.Prepares m w w') := by
  have resolve : ∀ env, w.environment.Keeps env → e.MissesIntermediate w →
      (do
        let key ← e.latestOrNewIntermediateKey
        e.retainIntermediateKey key : Work KeyHandle).Yields { w with environment := env }
        (fun handle w' => e.Writes m w handle.key w')
        (fun err w' => w.environment.faults.Plans err ∧ e.Prepares m w w') := by
    intro env hk hmisses
    refine (yields_latestOrNewIntermediateKey hw hk).bind (fun k w₁ h => ?_) fun _ _ h => h
    have hmirrors : w.intermediateKeys.Mirrors fun t =>
        w₁.environment.store.intermediateKey m ⟨e.partition.intermediateKeyId, t⟩ :=
      hw.intermediateKeys.mono fun hk => ⟨_, h.store.intermediateKey hk, .refl _⟩
    have hcoherent : e.Coherent m w₁ := ⟨hw.service, h.faults.truthful hw.faults, h.sound.dated,
      (hw.systemKeys.of_refreshes h.systemKeys fun hk => ⟨_, h.store.systemKey hk, .refl _⟩),
      h.intermediateKeys ▸ hmirrors⟩
    refine (yields_retainIntermediateKey hcoherent h.key).mono (fun handle w' h' => ?_)
      fun _ _ h => h
    obtain ⟨rfl, rfl⟩ := h'
    rw [h.intermediateKeys, h.clock]
    refine ⟨.newest hmisses h.newest rfl, ⟨_, h.key, .refl _⟩, h.sound, h.clock, h.faults,
      h.store, h.systemKeys, ?_⟩
    exact refreshes_retained hmirrors h.key
  unfold intermediateKeyForWrite
  dsimp only
  split
  · next hcaches =>
    unfold latestIntermediateKey?
    simp only [yields_bind (a := ofState _), yields_ofState]
    cases hl : w.intermediateKeys.latest? w.environment.clock.elapsed with
    | none =>
      refine resolve w.environment (.refl _) fun _ t k h => ?_
      rw [hl] at h
      cases h
    | some tk =>
      obtain ⟨t, k⟩ := tk
      refine yields_lift_bind (e.yields_isUsable _ _ _ _) (fun b env h => ?_) fun _ _ h => h.elim
      obtain ⟨hb, hk⟩ := h
      cases b with
      | true =>
        obtain ⟨-, hkey⟩ := hw.intermediateKeys.latest? hl
        have hwrites : e.Writes m w k w := ⟨.cached t hcaches hl (hb.1 rfl) rfl rfl, hkey,
          hw.store, rfl, .refl _, .refl _, .refl _, .refl _⟩
        exact hwrites.keeps hk
      | false =>
        refine resolve env hk fun _ t' k' h hp => ?_
        rw [hl] at h
        cases h
        exact absurd (hb.2 hp) Bool.false_ne_true
  · next hcaches => exact resolve w.environment (.refl _) fun h => absurd h hcaches

/-! ### What an engine does to its workspace -/

/-- A record of the store after a write is an old one or one that the write has added. -/
lemma IntermediateKeyUsed.load?_eq_some {s' : Store} {c' : KeyCache} {k : Key}
    (h : e.IntermediateKeyUsed w s' c' k) {id : String} {t : Time} {r : KeyRecord}
    (hl : s'.load? id t = some r) :
    w.environment.store.load? id t = some r ∨
      id = e.partition.systemKeyId ∧ r.isRevoked = false ∧
        t = (e.policy.systemStamp w.environment.clock.wall).time ∨
      id = e.partition.intermediateKeyId ∧ r.isRevoked = false ∧
        t = (e.policy.intermediateStamp w.environment.clock.wall).time := by
  have system : ∀ {s systemKey}, e.SystemKeyUsed w s systemKey → s.load? id t = some r →
      w.environment.store.load? id t = some r ∨
        id = e.partition.systemKeyId ∧ r.isRevoked = false ∧
          t = (e.policy.systemStamp w.environment.clock.wall).time := by
    intro s systemKey hused hl
    exact (hused.addsSystem.load?_eq_some hl).imp_right fun h => ⟨h.1, h.2.2, h.2.1⟩
  cases h with
  | cached t caches latest permits same => exact Or.inl (same ▸ hl)
  | newest misses newest =>
    cases newest with
    | latest r' p latest permits parent parentPermits created same => exact Or.inl (same ▸ hl)
    | added s systemKey wrapped refuses free used created adds =>
      subst adds
      rcases Store.load?_of_insert hl with hl | ⟨rfl, rfl, rfl, -⟩
      · exact (system used hl).imp_right Or.inl
      · exact Or.inr (Or.inr ⟨rfl, rfl, congrArg Stamp.time created⟩)
    | reloaded r' systemKey refuses taken used => exact (system used hl).imp_right Or.inl

/-- The workspace after work of an engine while others may work on the store: the store has grown
and is sound, and keys just looked up are cached. -/
structure Advances (e : Engine) (m : Key) (w w' : Workspace) : Prop where
  sound : w'.environment.store.Sound m
  store : w.environment.store.Extends w'.environment.store
  systemKeys : w.systemKeys.Refreshes
    (fun t => w'.environment.store.systemKey m ⟨e.partition.systemKeyId, t⟩)
    w.environment.clock.elapsed w'.systemKeys
  intermediateKeys : w.intermediateKeys.Refreshes
    (fun t => w'.environment.store.intermediateKey m ⟨e.partition.intermediateKeyId, t⟩)
    w.environment.clock.elapsed w'.intermediateKeys

/-- The workspace after any work of an engine: time stands still, records are added at the present
step and keys just looked up are cached. -/
structure Evolves (e : Engine) (m : Key) (w w' : Workspace) : Prop where
  clock : w'.environment.clock = w.environment.clock
  faults : w.environment.faults.Leaves w'.environment.faults
  sound : w'.environment.store.Sound m
  store : w.environment.store.Extends w'.environment.store
  added : ∀ {id t r}, w'.environment.store.load? id t = some r →
    w.environment.store.load? id t = some r ∨
      id = e.partition.systemKeyId ∧ r.isRevoked = false ∧
        t = (e.policy.systemStamp w.environment.clock.wall).time ∨
      id = e.partition.intermediateKeyId ∧ r.isRevoked = false ∧
        t = (e.policy.intermediateStamp w.environment.clock.wall).time
  systemKeys : w.systemKeys.Refreshes
    (fun t => w'.environment.store.systemKey m ⟨e.partition.systemKeyId, t⟩)
    w.environment.clock.elapsed w'.systemKeys
  intermediateKeys : w.intermediateKeys.Refreshes
    (fun t => w'.environment.store.intermediateKey m ⟨e.partition.intermediateKeyId, t⟩)
    w.environment.clock.elapsed w'.intermediateKeys

lemma Evolves.advances (h : e.Evolves m w w') : e.Advances m w w' :=
  ⟨h.sound, h.store, h.systemKeys, h.intermediateKeys⟩

lemma Writes.evolves {k : Key} (h : e.Writes m w k w') : e.Evolves m w w' :=
  ⟨h.clock, h.faults, h.sound, h.store, h.used.load?_eq_some, h.systemKeys, h.intermediateKeys⟩

lemma Prepares.evolves (h : e.Prepares m w w') : e.Evolves m w w' where
  clock := h.clock
  faults := h.faults
  sound := h.sound
  store := h.store.extends
  added hl := (h.store.load?_eq_some hl).imp_right fun h => Or.inl ⟨h.1, h.2.2, h.2.1⟩
  systemKeys := h.systemKeys
  intermediateKeys := h.intermediateKeys ▸ .refl _

lemma Sound.evolves_of_opened (hw : e.Sound m w) {text : Bytes} {r : Except Error Bytes}
    (h : e.Opened m w text r w') : e.Evolves m w w' := by
  rcases h with ⟨p, k, -, h⟩ | ⟨h, -⟩
  · have hs := h.environment.store
    refine ⟨h.environment.clock, h.environment.faults, hs ▸ hw.store, hs ▸ .refl _,
      fun hl => Or.inl (hs ▸ hl), hs ▸ h.systemKeys, ?_⟩
    rw [hs, h.intermediateKeys]
    unfold renewed
    split
    · next hc =>
      have hid := keyId_of_cachesIntermediateKey hc.1
      refine hw.intermediateKeys.refreshes_put ?_
      rw [hw.dated.created_of_intermediateKey h.key, ← hid, h.key]
    · exact .refl _
  · exact (hw.prepares_of_reads h).evolves

/-! ### Sealing -/

/-- **What is sealed can be opened**, and names the intermediate key it was sealed under. Sealing
fails by a planned failure, or because the payload is too long for the cipher. -/
theorem yields_encrypt (hw : e.Sound m w) (payload : Bytes) :
    (e.encrypt payload).Yields w
      (fun row w' => ∃ k, e.Writes m w k w' ∧
        row.pointer? = some ⟨e.partition.intermediateKeyId, k.created⟩ ∧
        ∀ p : Partition, p.Accepts e.partition.intermediateKeyId →
          w'.environment.store.openRow m p row.toJson = .ok payload)
      (fun err w' => (w.environment.faults.Plans err ∧ e.Prepares m w w') ∨
        (err = .ofCipher .aeadFailure ∧ Cipher.Siv.maxLength < payload.length) ∧
          ∃ k, e.Writes m w k w') := by
  unfold encrypt
  refine (yields_intermediateKeyForWrite hw).bind (fun handle w₁ h => ?_) fun _ _ h => Or.inl h
  refine yields_bind.2 (yields_lift.2 ?_)
  rw [Effect.yields_now]
  refine yields_lift_bind (Effect.yields_sealing (Key.sealPayload_yields handle.key _ payload _))
    (fun sealed env hs => ?_) fun err env hs => ?_
  · obtain ⟨⟨-, hopen⟩, hk⟩ := hs
    have hwrites := h.keeps hk
    obtain ⟨k', hk', hp⟩ := hwrites.key
    refine ⟨handle.key, hwrites, rfl, fun p hacc => ?_⟩
    have hrow := DataRow.ofJson_toJson (.ofParts sealed.created sealed.encryptedKey
      ⟨e.partition.intermediateKeyId, handle.key.created⟩ sealed.cipherText)
    refine (Store.openRow_of_readable hrow (readable_ofParts hacc _ _ _) hk').trans ?_
    rw [Key.openPayload_congr hp.1, hopen]
    rfl
  · obtain ⟨⟨fault, rfl, rfl, hlen⟩, hk⟩ := hs
    exact Or.inr ⟨⟨rfl, hlen⟩, handle.key, h.keeps hk⟩

end Envelope.Engine
