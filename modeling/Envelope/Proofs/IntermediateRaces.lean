import Envelope.Proofs.SystemRaces

/-!
Sealing among rivals.

As with system keys, the intermediate key of a write is one of the store, whether its insert wins or
loses. So a payload is sealed under a key that everybody can resolve, a record that the write has
stored is wrapped under a system key that everybody can resolve, and the caches hold no other key.
-/

namespace Envelope

open Envelope.Action

/-- The text opens to the payload, and its data key is wrapped under the intermediate key that it
names, as the store has it. -/
structure Store.Seals (s : Store) (m : Key) (p : Partition) (pointer : KeyMeta)
    (text payload : Bytes) : Prop where
  named : DataRow.named? text = some pointer
  opens : s.openRow m p text = .ok payload
  wraps : ∃ row rd k dataKey, DataRow.ofJson text = .ok row ∧ Engine.readable p row = .ok rd ∧
    s.intermediateKey m pointer = .ok k ∧ k.Wraps dataKey rd.wrappedKey

lemma Store.seals_ofParts {s : Store} {m k dataKey : Key} {p : Partition} {pointer : KeyMeta}
    {created : Stamp} {wrapped cipherText payload : Bytes} (hacc : p.Accepts pointer.keyId)
    (hk : s.intermediateKey m pointer = .ok k) (hwraps : k.Wraps dataKey wrapped)
    (hopen : k.openPayload cipherText wrapped created = .ok payload) :
    s.Seals m p pointer (DataRow.ofParts created wrapped pointer cipherText).toJson payload := by
  have hrow := DataRow.ofJson_toJson (.ofParts created wrapped pointer cipherText)
  have hread := Engine.readable_ofParts hacc created wrapped cipherText
  refine ⟨DataRow.named?_toJson _, ?_, _, _, k, dataKey, hrow, hread, hk, hwraps⟩
  rw [Store.openRow_of_readable hrow hread hk, hopen]
  rfl

/-- The record is wrapped under a system key of the store, after a lost insert of a system key under
that of the latest record. -/
def Store.Wraps (s : Store) (m : Key) (p : Partition) (made : List Insertion) (r : KeyRecord) :
    Prop :=
  ∃ (created : Stamp) (outer k : Key) (wrapped : Bytes),
    r.parent = some ⟨p.systemKeyId, created⟩ ∧
    s.systemKey m ⟨p.systemKeyId, created⟩ = .ok outer ∧
    r.keyBytes = .ok wrapped ∧ outer.Wraps k wrapped ∧ r.openWith outer = .ok k ∧
    (Lost made p.systemKeyId → ∃ r', s.latest? p.systemKeyId = some r' ∧ created = r'.created)

namespace Engine

variable {e : Engine} {m : Key} {rivals : List (Option Rival)} {w w' w₁ w₂ : Workspace}
  {created : Stamp} {made : List Insertion} {k : Key}

/-! ### What a write has stored -/

/-- The workspace after inserts, with the creation time of the intermediate key that was
resolved. -/
structure IntermediateRaced (e : Engine) (m : Key) (rivals : List (Option Rival)) (w : Workspace)
    (created : Stamp) (w' : Workspace) (made : List Insertion) : Prop where
  progress : e.Progress m w w'
  /-- After a lost insert, the key is that of the latest record. -/
  lost : Lost made e.partition.intermediateKeyId →
    ∃ r, w'.environment.store.latest? e.partition.intermediateKeyId = some r ∧ created = r.created
  stored : ∀ {t r}, w'.environment.store.load? e.partition.intermediateKeyId t = some r →
    w.environment.store.load? e.partition.intermediateKeyId t = some r ∨
      Met made rivals r ∨ w'.environment.store.Wraps m e.partition made r

lemma IntermediateRaced.of_reads (hw : e.Grounded m w) (h : e.Reads m w w') :
    e.IntermediateRaced m rivals w created w' [] where
  progress := hw.progress h
  lost h := absurd h (not_lost_nil _)
  stored hl := Or.inl (h.environment.store ▸ hl)

lemma IntermediateRaced.after (hw : e.Grounded m w) (hr : e.Reads m w w₁)
    (h : e.IntermediateRaced m rivals w₁ created w' made) :
    e.IntermediateRaced m rivals w created w' made where
  progress := (hw.progress hr).trans h.progress
  lost := h.lost
  stored hl := (h.stored hl).imp_left fun hl => hr.environment.store ▸ hl

/-- Reading may follow. -/
lemma IntermediateRaced.progress_right (h : e.IntermediateRaced m rivals w created w₁ made)
    (hp : e.Progress m w₁ w') (hstore : w'.environment.store = w₁.environment.store) :
    e.IntermediateRaced m rivals w created w' made where
  progress := h.progress.trans hp
  lost := hstore ▸ h.lost
  stored := hstore ▸ h.stored

/-- An intermediate key that is resolved is that of its record. -/
def ResolvesIntermediate (e : Engine) (m : Key) (rivals : List (Option Rival)) (w : Workspace)
    (k : Key) (w' : Workspace) (made : List Insertion) : Prop :=
  e.IntermediateRaced m rivals w k.created w' made ∧
    w'.environment.store.intermediateKey m ⟨e.partition.intermediateKeyId, k.created⟩ = .ok k

/-! ### The insert of an intermediate key -/

section Insert

variable {env env' : Environment} {systemKey key : Key} {wrapped : Bytes}
  {left : List (Option Rival)} {won : Bool}

/-- A new key, wrapped under the system key of a write, whose record has come to an insert. -/
structure Arrives (e : Engine) (m : Key) (left : List (Option Rival)) (systemKey key : Key)
    (wrapped : Bytes) (won : Bool) (env env' : Environment) : Prop where
  fresh : key.revoked = false
  wraps : systemKey.Wraps key wrapped
  inserted : Inserted m left env e.partition.intermediateKeyId
    (.intermediate key.created wrapped (some false) ⟨e.partition.systemKeyId, systemKey.created⟩)
    won env'
  fair : FairRace m env'.store [⟨e.partition.intermediateKeyId, key.created, won⟩] left

variable (hprep : e.PreparesRaced m w systemKey w₂ made) (hk : w₂.environment.Keeps env)
  (ha : e.Arrives m left systemKey key wrapped won env env')

include hprep hk ha

/-- The key opens from its record under the system key, as the store has it. -/
lemma Arrives.opens :
    ∃ outer, env.store.systemKey m ⟨e.partition.systemKeyId, systemKey.created⟩ = .ok outer ∧
      outer.Wraps key wrapped ∧
      (KeyRecord.intermediate key.created wrapped (some false)
        ⟨e.partition.systemKeyId, systemKey.created⟩).openWith outer = .ok key := by
  obtain ⟨outer, houter, hp⟩ := hprep.key
  have hwraps := ha.wraps.congr hp.1.symm
  exact ⟨outer, hk.store ▸ houter, hwraps,
    KeyRecord.openWith_of_decrypt (KeyRecord.keyBytes_intermediate ..) hwraps.decrypt rfl
      ha.fresh.symm⟩

/-- The store after the insert is sound. -/
lemma Arrives.filled : Filled m left env.store
    ⟨e.partition.intermediateKeyId, key.created, won⟩
    (.intermediate key.created wrapped (some false) ⟨e.partition.systemKeyId, systemKey.created⟩)
    env'.store := by
  obtain ⟨outer, houter, -, hopen⟩ := ha.opens hprep hk
  exact ha.inserted.filled ha.fair (hk.store ▸ hprep.progress.sound)
    (.intermediate _ outer key e.partition.isIntermediateId_intermediateKeyId rfl
      e.partition.isSystemId_systemKeyId houter hopen)

lemma Arrives.progress : e.Progress m w { w₂ with environment := env' } :=
  have hfilled := ha.filled hprep hk
  hprep.progress.trans ⟨⟨hfilled.sound, hk.store ▸ hfilled.store, .refl _, .refl _⟩,
    ha.inserted.clock.trans hk.clock⟩

/-- A record of the store after the insert was there, is that of a rival, or is the own one. -/
lemma Arrives.stored {t : Time} {r : KeyRecord}
    (hl : env'.store.load? e.partition.intermediateKeyId t = some r) :
    w.environment.store.load? e.partition.intermediateKeyId t = some r ∨
      Met [⟨e.partition.intermediateKeyId, key.created, won⟩] left r ∨ env'.store.Wraps m
        e.partition (made ++ [⟨e.partition.intermediateKeyId, key.created, won⟩]) r := by
  obtain ⟨outer, houter, hwraps, hopen⟩ := ha.opens hprep hk
  have hfilled := ha.filled hprep hk
  rcases hfilled.origin hl with hl | ⟨-, rfl | hr⟩
  · rw [hk.store] at hl
    unfold Store.load? at hl ⊢
    exact Or.inl (hprep.raced.others _ e.intermediateKeyId_ne ▸ hl)
  · refine Or.inr (Or.inr ⟨systemKey.created, outer, key, wrapped, rfl,
      hfilled.store.systemKey houter, KeyRecord.keyBytes_intermediate .., hwraps, hopen, ?_⟩)
    -- the insert of the intermediate key does not touch the system keys
    rintro ⟨x, hx, hid, hlost⟩
    rcases List.mem_append.1 hx with hx | hx
    · obtain ⟨r', hlatest, hc⟩ := hprep.raced.lost x hx hlost
      refine ⟨r', ?_, hc⟩
      unfold Store.latest? at hlatest ⊢
      rw [hfilled.others _ e.intermediateKeyId_ne.symm, hk.store, hlatest]
    · obtain rfl := List.mem_singleton.1 hx
      exact absurd hid e.intermediateKeyId_ne
  · exact Or.inr (Or.inl hr)

/-- A key whose insert has won is that of its record. -/
lemma Arrives.intermediateKey (hwon : won = true) :
    env'.store.intermediateKey m ⟨e.partition.intermediateKeyId, key.created⟩ = .ok key := by
  obtain ⟨outer, houter, -, hopen⟩ := ha.opens hprep hk
  obtain ⟨hfree, hstore⟩ := ha.inserted.added hwon
  have hl := Store.load?_insert_self hfree (.intermediate key.created wrapped (some false)
    ⟨e.partition.systemKeyId, systemKey.created⟩)
  rw [← hstore] at hl
  have houter' := (ha.filled hprep hk).store.systemKey houter
  exact (Store.intermediateKey_of_load? hl rfl houter').trans hopen

/-- Reading may follow an insert. -/
lemma Arrives.raced (hw : e.Grounded m w) (hleft : left = rivals.drop made.length)
    (hr : e.Reads m { w₂ with environment := env' } w')
    (hlost : won = false →
      ∃ r, env'.store.latest? e.partition.intermediateKeyId = some r ∧ created = r.created) :
    e.IntermediateRaced m rivals w created w'
      (made ++ [⟨e.partition.intermediateKeyId, key.created, won⟩]) where
  progress := by
    have hprogress := ha.progress hprep hk
    refine hprogress.trans (Grounded.progress (hw.advances hprogress.toAdvances ?_) hr)
    exact ha.inserted.faults ▸ Faults.truthful_rivals _
  lost := by
    rintro ⟨x, hx, hid, hlost'⟩
    rw [hr.environment.store]
    rcases List.mem_append.1 hx with hx | hx
    · exact absurd (hid.symm.trans (hprep.raced.own x hx)) e.intermediateKeyId_ne
    · obtain rfl := List.mem_singleton.1 hx
      exact hlost hlost'
  stored hl := by
    rw [hr.environment.store] at hl ⊢
    subst hleft
    exact (ha.stored hprep hk hl).imp_right (Or.imp_left Met.append)

end Insert

/-- **A new intermediate key** is inserted among rivals, or that of the latest record is taken. -/
lemma contests_insertIntermediate (hw : e.Grounded m w) {key : Key} (hfresh : key.revoked = false)
    {systemKey : KeyHandle} (hprep : e.PreparesRaced m w systemKey.key w₂ made)
    (hf : w₂.environment.faults = .rivals (rivals.drop made.length)) :
    Contests m (rivals.drop made.length) (fun _ => True) (·.environment) (do
      let wrapped ← liftM (Effect.sealing (systemKey.key.wrap key))
      if ← liftM (Effect.insertRecord e.partition.intermediateKeyId
          (.intermediate key.created wrapped (some false)
            ⟨e.partition.systemKeyId, systemKey.key.created⟩)) then
        liftM (Effect.emit (.keyCreated .intermediate e.partition.intermediateKeyId key.created))
        return key
      else
        liftM (Effect.emit (.raceLost .intermediate e.partition.intermediateKeyId))
        e.reloadIntermediateKey : Work Key) w₂
      (fun k w' made' => e.ResolvesIntermediate m rivals w k w' (made ++ made'))
      fun _ _ _ => False := by
  refine (Effect.observes_wrap _ systemKey.key key).contests_lift_bind hf
    fun wrapped env h hf => ?_
  obtain ⟨hwraps, hk⟩ := h
  refine Contests.bind_reading (p := e.partition) (X := fun _ => True)
    (Contests.lift (w := { w₂ with environment := env }) (contests_insertRecord hf trivial _))
    (fun won => ?_) fun won w₃ made' h hf₃ => ?_
  · split
    · exact (Effect.bounds_emit _).lift.bind fun _ _ => Reach.bounds_pure trivial
    · exact (Effect.bounds_emit _).lift.bind fun _ _ => bounds_reloadIntermediateKey hw.service rfl
  · obtain ⟨⟨hi, rfl, hfair⟩, hw₃⟩ := h
    obtain ⟨env', systemKeys, intermediateKeys⟩ := w₃
    obtain ⟨rfl, rfl⟩ : systemKeys = w₂.systemKeys ∧ intermediateKeys = w₂.intermediateKeys := by
      cases hw₃
      exact ⟨rfl, rfl⟩
    have ha : e.Arrives m (rivals.drop made.length) systemKey.key key wrapped won env env' :=
      ⟨hfresh, hwraps, hi, hfair⟩
    have hprogress := ha.progress hprep hk
    cases won with
    | true =>
      have hkeeps := Effect.keeps_log env'
        (.keyCreated .intermediate e.partition.intermediateKeyId key.created)
      have hkey := ha.intermediateKey hprep hk rfl
      exact ⟨hkeeps, ha.raced hprep hk hw rfl (.of_keeps hkeeps) nofun, hkey⟩
    | false =>
      obtain ⟨r, hlatest⟩ := (ha.filled hprep hk).exists_latest
      have hgrounded := hw.advances hprogress.toAdvances (hf₃ ▸ Faults.truthful_rivals _)
      have hreads : e.Reads m { w₂ with environment := env' } _ :=
        .of_keeps (Effect.keeps_log env'
          (.raceLost .intermediate e.partition.intermediateKeyId))
      refine (yields_reloadIntermediateKey (hgrounded.reads hreads) hlatest).mono
        (fun k w' h => ?_) fun err w' h => ?_
      · obtain ⟨hreads', hc, hkey⟩ := h
        replace hreads' := hreads.trans hreads'
        refine ⟨hreads'.environment, ha.raced hprep hk hw rfl hreads'
          fun _ => ⟨r, hlatest, hc⟩, ?_⟩
        rw [hreads'.environment.store]
        exact hkey
      · exact absurd h.1 (hf₃ ▸ Faults.not_plans_rivals _ err)

/-! ### The newest intermediate key -/

/-- **An intermediate key is created** among rivals, or that of the latest record is taken. -/
lemma contests_createIntermediateKey (hw : e.Grounded m w)
    (hf : w.environment.faults = .rivals rivals) :
    Contests m rivals (fun _ => True) (·.environment) e.createIntermediateKey w
      (e.ResolvesIntermediate m rivals w) fun _ _ _ => False := by
  unfold createIntermediateKey
  refine contests_now ((Effect.observes_generateKey _ _).contests_lift_bind hf
    fun key env h hf₁ => ?_)
  obtain ⟨⟨-, hfresh⟩, hk⟩ := h
  have hreads : e.Reads m w { w with environment := env } := .of_keeps hk
  refine Contests.bind (p := e.partition) (X := fun _ => True)
    (contests_systemKeyForWrite (hw.reads hreads) hf₁)
    (fun systemKey => bounds_insertIntermediate hw.service id rfl trivial key systemKey)
    fun systemKey w₂ made hprep hf₂ => ?_
  exact (contests_insertIntermediate (hw.reads hreads) hfresh hprep hf₂).mono (fun _ => id)
    (fun _ _ _ h => ⟨h.1.after hw hreads, h.2⟩) fun _ _ _ h => h

/-- **The newest intermediate key** among rivals. -/
lemma contests_latestOrNewIntermediateKey (hw : e.Grounded m w)
    (hf : w.environment.faults = .rivals rivals) :
    Contests m rivals (fun _ => True) (·.environment) e.latestOrNewIntermediateKey w
      (e.ResolvesIntermediate m rivals w) fun _ _ _ => False := by
  have create : ∀ w₁, e.Reads m w w₁ → w₁.environment.faults = .rivals rivals →
      Contests m rivals (fun _ => True) (·.environment) e.createIntermediateKey w₁
        (e.ResolvesIntermediate m rivals w) fun _ _ _ => False := fun w₁ hr hf₁ =>
    (contests_createIntermediateKey (hw.reads hr) hf₁).mono (fun _ => id)
      (fun _ _ _ h => ⟨h.1.after hw hr, h.2⟩) fun _ _ _ h => h
  have report : ∀ w₁, e.Reads m w w₁ → w₁.environment.faults = .rivals rivals → ∀ event,
      Contests m rivals (fun _ => True) (·.environment)
        (do
          liftM (Effect.emit event)
          e.createIntermediateKey : Work Key) w₁
        (e.ResolvesIntermediate m rivals w) fun _ _ _ => False := by
    intro w₁ hr hf₁ event
    exact (Effect.observes_emit _ event).contests_lift_bind hf₁
      fun _ env hk hf => create _ (hr.trans (.of_keeps hk)) hf
  unfold latestOrNewIntermediateKey
  refine (Effect.observes_latestRecord hf _).contests_lift_bind hf fun found env h hf₁ => ?_
  obtain ⟨hfound, hk₁⟩ := h
  cases found with
  | none => exact create _ (.of_keeps hk₁) hf₁
  | some r =>
    obtain ⟨p, outer, k, hp, -, houter, hopen, hkey⟩ := hw.store.intermediateKey
      e.partition.isIntermediateId_intermediateKeyId (hw.store.dated.latest? hfound.symm).1
    refine (e.observes_isUsable _ _ _ _).contests_lift_bind hf₁ fun b env₂ h hf₂ => ?_
    have hk₂ := hk₁.trans h.2
    cases b with
    | false => exact create _ (.of_keeps hk₂) hf₂
    | true =>
      rw [if_pos rfl, hp]
      have hr₂ : e.Reads m w { w with environment := env₂ } := .of_keeps hk₂
      refine (observes_of_bounds (fun _ => bounds_systemKey hw.service (Or.inr trivial) true)
        (yields_systemKey (hw.reads hr₂).toCoherent p true) (fun _ _ h => h.reads.environment)
        fun err u h => ?_).contests_bind hf₂ fun l w₃ h hf₃ => ?_
      · obtain ⟨-, hplan | herr⟩ := h
        · exact Faults.not_plans_rivals rivals err (hf₂ ▸ hplan)
        · rw [hk₂.store, houter] at herr
          cases herr
      · have hr₃ := hr₂.trans h.reads
        cases h with
        | found handle outer' reads permits key persists =>
          rw [hk₂.store] at key
          cases houter.symm.trans key
          rw [← KeyRecord.openWith_congr persists.1.symm] at hopen
          obtain ⟨-, -, -, hc, -⟩ := KeyRecord.openWith_eq_ok hopen
          have hy : (liftM (openIntermediateRecord r handle.key) : Work Key).Yields w₃
              (fun k' w' => k' = k ∧ w' = w₃) fun _ _ => False :=
            yields_lift.2 ((yields_openIntermediateRecord r handle.key).mono
              (fun _ _ h => ⟨Except.ok.inj (h.1.symm.trans hopen), h.2 ▸ rfl⟩)
              fun _ _ h => by cases h.1.symm.trans hopen)
          refine (observes_of_bounds (fun _ => (bounds_openIntermediateRecord _ _).lift) hy
            (fun _ _ h => h.2 ▸ .refl _) fun _ _ => id).contests hf₃ fun k' w' h => ?_
          obtain ⟨rfl, rfl⟩ := h
          refine ⟨.of_reads hw hr₃, ?_⟩
          rw [hr₃.environment.store, hc, hkey]
        | unusable => exact report _ hr₃ hf₃ _
        | notFound => exact report _ hr₃ hf₃ _

/-! ### Sealing -/

/-- The workspace after an intermediate key has been resolved for a write among rivals. -/
structure WritesRaced (e : Engine) (m : Key) (rivals : List (Option Rival)) (w : Workspace)
    (k : Key) (w' : Workspace) (made : List Insertion) : Prop where
  raced : e.IntermediateRaced m rivals w k.created w' made
  key : ∃ k', w'.environment.store.intermediateKey m ⟨e.partition.intermediateKeyId, k.created⟩ =
    .ok k' ∧ k.Persists k'

lemma WritesRaced.keeps (h : e.WritesRaced m rivals w k w' made) {env : Environment}
    (hk : w'.environment.Keeps env) :
    e.WritesRaced m rivals w k { w' with environment := env } made :=
  ⟨h.raced.progress_right ⟨⟨hk.store ▸ h.raced.progress.sound, hk.store ▸ .refl _, .refl _,
    .refl _⟩, hk.clock⟩ hk.store, hk.store ▸ h.key⟩

/-- **The intermediate key of a write** among rivals. -/
theorem contests_intermediateKeyForWrite (hw : e.Grounded m w)
    (hf : w.environment.faults = .rivals rivals) :
    Contests m rivals (fun _ => True) (·.environment) e.intermediateKeyForWrite w
      (fun handle w' made => e.WritesRaced m rivals w handle.key w' made) fun _ _ _ => False := by
  have resolve : ∀ env, w.environment.Keeps env → env.faults = .rivals rivals →
      Contests m rivals (fun _ => True) (·.environment) (do
        let key ← e.latestOrNewIntermediateKey
        e.retainIntermediateKey key : Work KeyHandle) { w with environment := env }
        (fun handle w' made => e.WritesRaced m rivals w handle.key w' made)
        fun _ _ _ => False := by
    intro env hk hf
    have hreads : e.Reads m w { w with environment := env } := .of_keeps hk
    refine (contests_latestOrNewIntermediateKey (hw.reads hreads) hf).bind_reading
      (p := e.partition) (fun k => bounds_retainIntermediateKey k) fun k w₁ made h hf₁ => ?_
    obtain ⟨hraced, hkey⟩ := h
    replace hraced := hraced.after hw hreads
    have hgrounded : e.Grounded m w₁ :=
      hw.advances hraced.progress.toAdvances (hf₁ ▸ Faults.truthful_rivals _)
    refine (yields_retainIntermediateKey hgrounded.toCoherent hkey).mono (fun handle w₂ h => ?_)
      fun _ _ h => h
    obtain ⟨rfl, rfl⟩ := h
    exact ⟨.refl _, hraced.progress_right ⟨⟨hraced.progress.sound, .refl _, .refl _,
      refreshes_retained hgrounded.intermediateKeys hkey⟩, rfl⟩ rfl, handle.key, hkey, .refl _⟩
  unfold intermediateKeyForWrite
  dsimp only
  split
  · unfold latestIntermediateKey?
    refine contests_get ?_
    cases hl : w.intermediateKeys.latest? w.environment.clock.elapsed with
    | none => exact resolve w.environment (.refl _) hf
    | some tk =>
      obtain ⟨t, k⟩ := tk
      refine (e.observes_isUsable _ _ _ _).contests_lift_bind hf fun b env h hf₁ => ?_
      cases b with
      | true =>
        obtain ⟨-, k', hk', hp⟩ := hw.intermediateKeys.latest? hl
        exact contests_pure hf₁ ⟨.of_reads hw (.of_keeps h.2), k', h.2.store ▸ hk', hp⟩
      | false => exact resolve env h.2 hf₁
  · exact resolve w.environment (.refl _) hf

/-- **What is sealed among rivals** opens again and is wrapped under a key of the store. Sealing
fails only because the payload is too long for the cipher. -/
theorem contests_encrypt (hw : e.Grounded m w) (hf : w.environment.faults = .rivals rivals)
    (payload : Bytes) :
    Contests m rivals (fun _ => True) (·.environment) (e.encrypt payload) w
      (fun row w' made => ∃ k, e.WritesRaced m rivals w k w' made ∧
        ∀ p : Partition, p.Accepts e.partition.intermediateKeyId →
          w'.environment.store.Seals m p ⟨e.partition.intermediateKeyId, k.created⟩ row.toJson
            payload)
      fun err w' made => (err = .ofCipher .aeadFailure ∧ Cipher.Siv.maxLength < payload.length) ∧
        ∃ k, e.WritesRaced m rivals w k w' made := by
  unfold encrypt
  refine ((contests_intermediateKeyForWrite hw hf).mono (fun _ => id) (fun _ _ _ => id)
    fun _ _ _ h => h.elim).bind_reading (p := e.partition) (X := fun _ => True) (fun handle => ?_)
    fun handle w₁ made h hf₁ => ?_
  · exact Effect.bounds_now.lift.bind fun _ _ => (Effect.bounds_sealing _).lift.bind
      fun _ _ => Reach.bounds_pure trivial
  refine yields_bind.2 (yields_lift.2 ?_)
  rw [Effect.yields_now]
  have hseal := (Key.sealPayload_yields handle.key w₁.environment.clock.wall.stamp payload
    w₁.environment.random).and (Key.sealPayload_yields_wraps handle.key _ payload _)
  refine yields_lift_bind (Effect.yields_sealing (hseal.mono (fun _ _ h => h) fun _ _ h => h.1))
    (fun sealed env hs => ?_) fun err env hs => ?_
  · obtain ⟨⟨⟨-, hopen⟩, dataKey, hwraps⟩, hk⟩ := hs
    have hwrites := h.keeps hk
    obtain ⟨k', hk', hp⟩ := hwrites.key
    refine ⟨hk, handle.key, hwrites, fun p hacc => ?_⟩
    exact Store.seals_ofParts hacc hk' (hwraps.congr hp.1.symm)
      ((Key.openPayload_congr hp.1 ..).trans (hopen _))
  · obtain ⟨⟨fault, rfl, rfl, hlen⟩, hk⟩ := hs
    exact ⟨hk, ⟨rfl, hlen⟩, handle.key, h.keeps hk⟩

end Engine

end Envelope
