import Envelope.Proofs.Rivals
import Envelope.Proofs.Writing

/-!
The system key of a write among rivals.

Whether the insert of a new system key wins or loses, the key that the write goes on with is one of
the store: its own if the insert has won, and that of the latest record if it has lost. A key that
was made for a lost insert is dropped.
-/

namespace Envelope.Engine

open Envelope.Action

variable {e : Engine} {m : Key} {rivals : List (Option Rival)} {w w' w'' : Workspace}

/-! ### Workspaces that go on -/

/-- The workspace after work of an engine while others work on the store and time stands still. -/
structure Progress (e : Engine) (m : Key) (w w' : Workspace) : Prop extends e.Advances m w w' where
  clock : w'.environment.clock = w.environment.clock

lemma Progress.trans (h : e.Progress m w w') (h' : e.Progress m w' w'') : e.Progress m w w'' := by
  have hsystem := h'.systemKeys
  have hintermediate := h'.intermediateKeys
  rw [h.clock] at hsystem hintermediate
  exact {
    sound := h'.sound
    store := h.store.trans h'.store
    systemKeys := h.systemKeys.trans hsystem fun hk => h'.store.systemKey hk
    intermediateKeys := h.intermediateKeys.trans hintermediate fun hk => h'.store.intermediateKey hk
    clock := h'.clock.trans h.clock }

/-- Reading goes on with what there is. -/
lemma Grounded.progress (hw : e.Grounded m w) (h : e.Reads m w w') : e.Progress m w w' where
  sound := h.environment.store ▸ hw.store
  store := h.environment.store ▸ .refl _
  systemKeys := h.environment.store ▸ h.systemKeys
  intermediateKeys := h.intermediateKeys ▸ .refl _
  clock := h.environment.clock

/-- The caches go on mirroring the store. -/
lemma Grounded.advances (hw : e.Grounded m w) (h : e.Advances m w w')
    (hf : w'.environment.faults.Truthful) : e.Grounded m w' where
  service := hw.service
  faults := hf
  dated := h.sound.dated
  systemKeys := hw.systemKeys.of_refreshes h.systemKeys
    fun hk => ⟨_, h.store.systemKey hk, .refl _⟩
  intermediateKeys := hw.intermediateKeys.of_refreshes h.intermediateKeys
    fun hk => ⟨_, h.store.intermediateKey hk, .refl _⟩
  store := h.sound

/-! ### The newest system key -/

variable {env env' env₁ : Environment} {created : Stamp} {made : List Insertion} {k : Key}

/-- The system tier after inserts, with the creation time of the key that was resolved. -/
structure SystemRaced (e : Engine) (m : Key) (env : Environment) (created : Stamp)
    (env' : Environment) (made : List Insertion) : Prop where
  sound : env'.store.Sound m
  store : env.store.Extends env'.store
  clock : env'.clock = env.clock
  others : ∀ id, id ≠ e.partition.systemKeyId → env'.store.timeline id = env.store.timeline id
  own : ∀ x ∈ made, x.keyId = e.partition.systemKeyId
  /-- After a lost insert, the key is that of the latest record. -/
  lost : ∀ x ∈ made, x.won = false →
    ∃ r, env'.store.latest? e.partition.systemKeyId = some r ∧ created = r.created

lemma SystemRaced.of_keeps (hsound : env.store.Sound m) (hk : env.Keeps env') :
    e.SystemRaced m env created env' [] where
  sound := hk.store ▸ hsound
  store := hk.store ▸ .refl _
  clock := hk.clock
  others _ _ := by rw [hk.store]
  own _ hx := by cases hx
  lost _ hx := by cases hx

lemma SystemRaced.after (hk : env.Keeps env₁) (h : e.SystemRaced m env₁ created env' made) :
    e.SystemRaced m env created env' made where
  sound := h.sound
  store := hk.store ▸ h.store
  clock := h.clock.trans hk.clock
  others id hne := by rw [h.others id hne, hk.store]
  own := h.own
  lost := h.lost

lemma SystemRaced.of_inserted (hsound : env.store.Sound m) {r : KeyRecord} {won : Bool}
    (hr : env.store.Admits m e.partition.systemKeyId r)
    (hi : Inserted m rivals env e.partition.systemKeyId r won env₁)
    (hfair : FairRace m env₁.store [⟨e.partition.systemKeyId, r.created, won⟩] rivals)
    (hk : env₁.Keeps env') (hlost : won = false →
      ∃ r', env₁.store.latest? e.partition.systemKeyId = some r' ∧ created = r'.created) :
    e.SystemRaced m env created env' [⟨e.partition.systemKeyId, r.created, won⟩] := by
  have hfilled := hi.filled hfair hsound hr
  exact {
    sound := hk.store ▸ hfilled.sound
    store := hk.store ▸ hfilled.store
    clock := hk.clock.trans hi.clock
    others := fun id hne => by rw [hk.store, hfilled.others id hne]
    own := by simp
    lost := by simpa [hk.store] using hlost }

/-- A system key that is resolved is that of its record. -/
def ResolvesSystem (e : Engine) (m : Key) (env : Environment) (k : Key) (env' : Environment)
    (made : List Insertion) : Prop :=
  e.SystemRaced m env k.created env' made ∧
    env'.store.systemKey m ⟨e.partition.systemKeyId, k.created⟩ = .ok k

/-- After a lost insert, the key of the latest record is taken. -/
lemma yields_reloadSystemKey (hs : e.service = .master m) (hf : env.faults = .rivals rivals)
    (hsound : env.store.Sound m)
    {r : KeyRecord} (hlatest : env.store.latest? e.partition.systemKeyId = some r) :
    (do
      Effect.emit (.raceLost .system e.partition.systemKeyId)
      match ← Effect.latestRecord e.partition.systemKeyId with
      | some r => e.openSystemRecord r
      | none => throw (.application (.unresolvedConflict .system e.partition.systemKeyId))
        : Effect Key).Yields env
      (fun k env' => env.Keeps env' ∧ k.created = r.created ∧
        env.store.systemKey m ⟨e.partition.systemKeyId, k.created⟩ = .ok k)
      (fun _ _ => False) := by
  have hplans : ∀ err, ¬ env.faults.Plans err := hf ▸ Faults.not_plans_rivals rivals
  refine yields_bind.2 (Effect.yields_emit.2 ?_)
  have hk := Effect.keeps_log env (.raceLost .system e.partition.systemKeyId)
  refine (Effect.yields_latestRecord (hf ▸ Faults.truthful_rivals rivals) _).bind
    (fun found env₁ h => ?_) fun err env₁ h => absurd (hk.faults.plans h.1) (hplans err)
  obtain ⟨hfound, hk₁⟩ := h
  replace hk₁ := hk.trans hk₁
  rw [hk.store, hlatest] at hfound
  subst hfound
  refine (yields_openLatest hs hsound hlatest hk₁).mono (fun k env' h => ?_)
    fun err env' h => absurd h.1 (hplans err)
  exact ⟨h.2.2, h.1, h.2.1⟩

/-- **A system key is created** among rivals, or that of the latest record is taken. -/
lemma contests_createSystemKey (hs : e.service = .master m) (hsound : env.store.Sound m)
    (hf : env.faults = .rivals rivals) :
    Contests m rivals IsSystemId id e.createSystemKey env (e.ResolvesSystem m env)
      fun _ _ _ => False := by
  unfold createSystemKey
  rw [hs]
  refine contests_get ((Effect.observes_generateKey _ _).contests_bind hf fun key env₁ h hf₁ => ?_)
  obtain ⟨⟨hcreated, hrevoked⟩, hk₁⟩ := h
  refine (Effect.observes_callWrap hf₁ m key).contests_bind hf₁ fun wrapped env₂ h hf₂ => ?_
  obtain ⟨hdec, hk₂⟩ := h
  replace hk₂ := hk₁.trans hk₂
  have hsound₂ : env₂.store.Sound m := hk₂.store ▸ hsound
  have hopen : (KeyRecord.system key.created wrapped (some false)).openWith m = .ok key :=
    KeyRecord.openWith_of_decrypt (KeyRecord.keyBytes_system ..) hdec rfl hrevoked.symm
  have hadmits : env₂.store.Admits m e.partition.systemKeyId
      (.system key.created wrapped (some false)) :=
    .system key e.partition.isSystemId_systemKeyId rfl hopen
  refine Contests.mono (G := e.ResolvesSystem m env₂)
    ((contests_insertRecord hf₂ e.partition.isSystemId_systemKeyId _).bind_reading
      (p := e.partition) (X := fun _ => True) (fun won => ?_) fun won env₃ made h hf₃ => ?_)
    (fun _ h => h) (fun k env' made h => ⟨h.1.after hk₂, h.2⟩) fun _ _ _ h => h
  · split
    · exact (Effect.bounds_emit _).bind fun _ _ => Reach.bounds_pure trivial
    · exact bounds_reloadSystemKey hs trivial
  · obtain ⟨hi, rfl, hfair⟩ := h
    cases won with
    | true =>
      have hk := Effect.keeps_log env₃ (.keyCreated .system e.partition.systemKeyId key.created)
      obtain ⟨hfree, hstore⟩ := hi.added rfl
      refine ⟨hk, .of_inserted hsound₂ hadmits hi hfair hk nofun, ?_⟩
      rw [hk.store, hstore]
      exact (Store.systemKey_of_load? (Store.load?_insert_self hfree _)).trans hopen
    | false =>
      have hfilled := hi.filled hfair hsound₂ hadmits
      obtain ⟨r, hlatest⟩ := hfilled.exists_latest
      refine (yields_reloadSystemKey hs hf₃ hfilled.sound hlatest).mono
        (fun k env' h => ?_) fun _ _ h => h.elim
      obtain ⟨hk, hc, hkey⟩ := h
      refine ⟨hk, .of_inserted hsound₂ hadmits hi hfair hk fun _ => ⟨r, hlatest, hc⟩, ?_⟩
      rw [hk.store, hkey]

lemma ResolvesSystem.after (hk : env.Keeps env₁) (h : e.ResolvesSystem m env₁ k env' made) :
    e.ResolvesSystem m env k env' made :=
  ⟨h.1.after hk, h.2⟩

/-- **The newest system key** among rivals. -/
lemma contests_latestOrNewSystemKey (hs : e.service = .master m) (hsound : env.store.Sound m)
    (hf : env.faults = .rivals rivals) :
    Contests m rivals IsSystemId id e.latestOrNewSystemKey env (e.ResolvesSystem m env)
      fun _ _ _ => False := by
  have create : ∀ env₁, env.Keeps env₁ → env₁.faults = .rivals rivals →
      Contests m rivals IsSystemId id e.createSystemKey env₁ (e.ResolvesSystem m env)
        fun _ _ _ => False := fun env₁ hk hf₁ =>
    (contests_createSystemKey hs (hk.store ▸ hsound) hf₁).mono (fun _ => id)
      (fun _ _ _ h => h.after hk) fun _ _ _ h => h
  unfold latestOrNewSystemKey
  refine (Effect.observes_latestRecord hf _).contests_bind hf fun found env₁ h hf₁ => ?_
  obtain ⟨hfound, hk₁⟩ := h
  cases found with
  | none => exact create env₁ hk₁ hf₁
  | some r =>
    refine (e.observes_isUsable _ _ _ _).contests_bind hf₁ fun b env₂ h hf₂ => ?_
    have hk₂ := hk₁.trans h.2
    cases b with
    | true =>
      refine (observes_of_bounds (fun _ => bounds_openSystemRecord hs r)
        (yields_openLatest hs (hk₂.store ▸ hsound) (hk₂.store ▸ hfound.symm) (.refl env₂))
        (fun _ _ h => h.2.2) fun err _ h => Faults.not_plans_rivals rivals err (hf₂ ▸ h.1)).contests
        hf₂ fun k env' h => ?_
      obtain ⟨-, hkey, hk₃⟩ := h
      exact ⟨.of_keeps hsound (hk₂.trans hk₃), hk₃.store ▸ hkey⟩
    | false => exact create env₂ hk₂ hf₂

/-! ### The system key of a write -/

/-- The workspace after a system key has been resolved for a write among rivals. -/
structure PreparesRaced (e : Engine) (m : Key) (w : Workspace) (k : Key) (w' : Workspace)
    (made : List Insertion) : Prop where
  progress : e.Progress m w w'
  raced : e.SystemRaced m w.environment k.created w'.environment made
  key : ∃ k', w'.environment.store.systemKey m ⟨e.partition.systemKeyId, k.created⟩ = .ok k' ∧
    k.Persists k'

/-- **The system key of a write** among rivals. -/
theorem contests_systemKeyForWrite (hw : e.Grounded m w)
    (hf : w.environment.faults = .rivals rivals) :
    Contests m rivals IsSystemId (·.environment) e.systemKeyForWrite w
      (fun handle w' made => e.PreparesRaced m w handle.key w' made) fun _ _ _ => False := by
  have resolve : ∀ env, w.environment.Keeps env → env.faults = .rivals rivals →
      Contests m rivals IsSystemId (·.environment) (do
        let key ← liftM e.latestOrNewSystemKey
        e.retainSystemKey key : Work KeyHandle) { w with environment := env }
        (fun handle w' made => e.PreparesRaced m w handle.key w' made) fun _ _ _ => False := by
    intro env hk hf
    refine (Contests.lift (w := { w with environment := env })
      (contests_latestOrNewSystemKey hw.service (hk.store ▸ hw.store) hf)).bind_reading
      (p := e.partition) (fun k => bounds_retainSystemKey k) fun k w₁ made h hf₁ => ?_
    obtain ⟨⟨hraced, hkey⟩, hw₁⟩ := h
    replace hraced := hraced.after hk
    have hprogress : e.Progress m w w₁ := by
      rw [hw₁]
      exact ⟨⟨hraced.sound, hraced.store, .refl _, .refl _⟩, hraced.clock⟩
    have hgrounded : e.Grounded m w₁ :=
      hw.advances hprogress.toAdvances (hf₁ ▸ Faults.truthful_rivals _)
    refine (yields_retainSystemKey hgrounded.toCoherent hkey).mono (fun handle w₂ h => ?_)
      fun _ _ h => h
    obtain ⟨rfl, hreads, henv⟩ := h
    refine ⟨hreads.environment, hprogress.trans (hgrounded.progress hreads), ?_, ?_⟩
    · exact henv.symm ▸ hraced
    · exact ⟨handle.key, henv.symm ▸ hkey, .refl _⟩
  unfold systemKeyForWrite
  dsimp only
  split
  · unfold latestSystemKey?
    refine contests_get ?_
    cases hl : w.systemKeys.latest? w.environment.clock.elapsed with
    | none => exact resolve w.environment (.refl _) hf
    | some tk =>
      obtain ⟨t, k⟩ := tk
      refine (e.observes_isUsable _ _ _ _).contests_lift_bind hf fun b env h hf₁ => ?_
      cases b with
      | true =>
        have hreads : e.Reads m w { w with environment := env } := .of_keeps h.2
        obtain ⟨-, k', hk', hp⟩ := hw.systemKeys.latest? hl
        exact contests_pure hf₁
          ⟨hw.progress hreads, .of_keeps hw.store h.2, k', h.2.store ▸ hk', hp⟩
      | false => exact resolve env h.2 hf₁
  · exact resolve w.environment (.refl _) hf

end Envelope.Engine
