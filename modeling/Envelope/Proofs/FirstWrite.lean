import Envelope.Proofs.Run

/-!
The first write of a partition.

In a store without records of the partition, the first write makes both of its keys at the present
steps. A world with one session over an empty store is where runs on given requests start from.
-/

namespace Envelope

namespace Store

/-- The store has one record of the key id, under its creation time, and what the record points
to. Neither is revoked. -/
structure Single (s : Store) (id : String) (created : Stamp) (outerId : String)
    (outerCreated : Stamp) : Prop where
  record : ∃ r, s.load? id created.time = some r ∧ r.isRevoked = false ∧
    r.parent = some ⟨outerId, outerCreated⟩
  only : ∀ {t r}, s.load? id t = some r → t = created.time
  outer : ∃ r, s.load? outerId outerCreated.time = some r ∧ r.isRevoked = false

/-- A cached intermediate key is that of the one record. -/
lemma Single.cached {s : Store} {id outerId : String} {created outerCreated : Stamp}
    (h : s.Single id created outerId outerCreated) {m : Key} {c : KeyCache}
    (hc : c.Mirrors fun t => s.intermediateKey m ⟨id, t⟩) {t : Time} {e : CachedKey}
    (he : c.entries.get? t = some e) : t = created.time := by
  obtain ⟨rfl, k, hk, -⟩ := hc t e he
  obtain ⟨r, _, _, hl, -⟩ := intermediateKey_eq_ok hk
  exact h.only hl

end Store

namespace Engine

variable {e : Engine} {m : Key} {w w' : Workspace} {k : Key}

/-- Without a record, the system key of a write is new. -/
lemma SystemKeyUsed.first (hw : e.Sound m w) {s' : Store} (h : e.SystemKeyUsed w s' k)
    (hnone : ∀ t, w.environment.store.load? e.partition.systemKeyId t = none) :
    k.created = e.policy.systemStamp w.environment.clock.wall ∧
      ∃ r, s'.load? e.partition.systemKeyId k.created.time = some r ∧ r.isRevoked = false := by
  cases h with
  | cached t caches latest permits same =>
    obtain ⟨-, k', hk', -⟩ := hw.systemKeys.latest? latest
    obtain ⟨r, hr, -⟩ := Store.systemKey_eq_ok hk'
    exact absurd hr (by simp [hnone])
  | newest misses newest =>
    cases newest with
    | latest r latest =>
      exact absurd (hw.store.dated.latest? latest).1 (by simp [hnone])
    | added wrapped refuses free created adds =>
      refine ⟨created, .system k.created wrapped (some false), ?_, rfl⟩
      rw [adds]
      exact Store.load?_insert_self (created ▸ free) _
    | reloaded r latest refuses taken => exact absurd taken (by simp [hnone])

/-- **The first write** of a partition makes a system key and an intermediate key. -/
theorem Writes.first (hw : e.Sound m w) (h : e.Writes m w k w')
    (hsystem : ∀ t, w.environment.store.load? e.partition.systemKeyId t = none)
    (hintermediate : ∀ t, w.environment.store.load? e.partition.intermediateKeyId t = none) :
    k.created = e.policy.intermediateStamp w.environment.clock.wall ∧
      w'.environment.store.Single e.partition.intermediateKeyId k.created
        e.partition.systemKeyId (e.policy.systemStamp w.environment.clock.wall) := by
  cases h.used with
  | cached t caches latest =>
    obtain ⟨-, k', hk', -⟩ := hw.intermediateKeys.latest? latest
    obtain ⟨r, _, _, hr, -⟩ := Store.intermediateKey_eq_ok hk'
    exact absurd hr (by simp [hintermediate])
  | newest misses newest cache =>
    cases newest with
    | latest r p latest =>
      exact absurd (hw.store.dated.latest? latest).1 (by simp [hintermediate])
    | added s systemKey wrapped refuses free used created adds =>
      obtain ⟨hstamp, houter⟩ := used.first hw hsystem
      refine ⟨created, ⟨.intermediate k.created wrapped (some false)
        ⟨e.partition.systemKeyId, systemKey.created⟩, ?_, rfl, ?_⟩, fun {t r} hr => ?_, ?_⟩
      · rw [adds]
        exact used.load?_insert (hintermediate _) _
      · rw [hstamp]
        rfl
      · rcases h.used.load?_eq_some hr with hr | ⟨hid, -⟩ | ⟨-, -, ht⟩
        · exact absurd hr (by simp [hintermediate])
        · exact absurd hid e.intermediateKeyId_ne
        · rw [ht, created]
      · obtain ⟨r, hr, hrev⟩ := houter
        have hl := (Store.extends_insert s e.partition.intermediateKeyId k.created.time
          (.intermediate k.created wrapped (some false)
            ⟨e.partition.systemKeyId, systemKey.created⟩)).load hr
        rw [← adds, hstamp] at hl
        exact ⟨r, hl, hrev⟩
    | reloaded r systemKey refuses taken => exact absurd taken (by simp [hintermediate])

end Engine

/-! ### A world with one session -/

/-- The requests that open a factory and a session, each as number 0. -/
def opening (product service partition : String) (policy : Policy) : List Request :=
  [.openFactory product service policy, .openSession 0 partition]

namespace World

variable {m : Key} {suffix : Option String} {clock : Clock} {random : Random} {policy : Policy}
  {product service partition : String}

lemma run_opening (m : Key) (suffix : Option String) (clock : Clock) (random : Random)
    (hproduct : product ≠ "") (hservice : service ≠ "") (hpartition : partition ≠ "")
    (hpolicy : policy.cachesSessions = false) :
    let w := (start m suffix clock random).run (opening product service partition policy)
    w.environment.store = .empty suffix ∧
      w.engines = [⟨.ofIds partition service product suffix, policy, 0, 0,
        .empty policy.revokeCheck⟩] := by
  simp [opening, run, apply, addFactory, start, addKeyService, ofEnvironment, FactorySettings.check,
    hproduct, hservice, hpolicy, session, hpartition, addSession, addSystemKeys, addEngine, emit,
    Environment.ofStore]
  rfl

/-- The world after the first write of its only session. -/
structure Begun (m : Key) (p : Partition) (policy : Policy) (now : Clock) (w : World) : Prop where
  sound : w.Sound m
  faults : w.environment.faults = .none
  clock : w.environment.clock = now
  single : w.environment.store.Single p.intermediateKeyId (policy.intermediateStamp now.wall)
    p.systemKeyId (policy.systemStamp now.wall)
  session : ∃ s : EngineState, w.engines[0]? = some s ∧ s.partition = p ∧ s.policy = policy ∧
    s.intermediateKeys.held.isSome

lemma Begun.single_session {w : World} {p : Partition} {now : Clock}
    (h : Begun m p policy now w) {s : EngineState} (hp : s.partition = p) (hs : s.policy = policy) :
    w.environment.store.Single s.partition.intermediateKeyId
      (s.policy.intermediateStamp w.environment.clock.wall) s.partition.systemKeyId
      (s.policy.systemStamp w.environment.clock.wall) := by
  subst hp hs
  rw [h.clock]
  exact h.single

/-- **The first write** of the session seals under a new intermediate key, which is then the only
one of the partition. -/
theorem begun_opening (hproduct : product ≠ "") (hservice : service ≠ "")
    (hpartition : partition ≠ "") (hpolicy : policy.cachesSessions = false) {payload : Bytes}
    (hlength : payload.length ≤ Cipher.Siv.maxLength) :
    let p := Partition.ofIds partition service product suffix
    let w := (start m suffix clock random).run
      (opening product service partition policy ++ [.encrypt 0 payload])
    Begun m p policy clock w ∧ ∃ text, (((start m suffix clock random).run
        (opening product service partition policy)).encrypt 0 payload).map Prod.fst =
          some (.ok text) ∧
      w.environment.store.openRow m p text = .ok payload ∧
      DataRow.named? text = some ⟨p.intermediateKeyId, policy.intermediateStamp clock.wall⟩ := by
  intro p w'
  have hstart := sound_start m suffix clock random
  obtain ⟨hstore, hengines⟩ := run_opening m suffix clock random hproduct hservice hpartition
    hpolicy
  have hrun : w' = _ := run_append _ _ _
  obtain ⟨hw', -⟩ : w'.Sound m ∧ _ := hstart.run _
  have hclock' : w'.environment.clock = clock := hstart.clock_run _
  have hfaults' : w'.environment.faults = .none := faults_run ..
  obtain ⟨hw, -⟩ := hstart.run (opening product service partition policy)
  have hclock := hstart.clock_run (opening product service partition policy)
  have hfaults := faults_run m suffix clock random (opening product service partition policy)
  generalize (start m suffix clock random).run (opening product service partition policy) = w at *
  replace hclock : w.environment.clock = clock := hclock
  have hengine : w.engines[0]? = some ⟨p, policy, 0, 0, .empty policy.revokeCheck⟩ := by
    rw [hengines]
    rfl
  obtain ⟨f, c, hseat⟩ := hw.seat hengine
  obtain ⟨text, v, htext, hsealed⟩ := hw.encrypt_ok hfaults hseat payload hlength
  have hnone : ∀ id t, w.environment.store.load? id t = none := by
    intro id t
    rw [hstore]
    rfl
  rw [run_cons, run_nil, apply_encrypt htext] at hrun
  cases hsealed with
  | record _ k _ writes named opens =>
    obtain ⟨hcreated, hsingle⟩ := writes.first hseat.sound (hnone _) (hnone _)
    replace hcreated : k.created = policy.intermediateStamp w.environment.clock.wall := hcreated
    replace hsingle : v.environment.store.Single p.intermediateKeyId k.created p.systemKeyId
      (policy.systemStamp w.environment.clock.wall) := hsingle
    rw [hcreated, hclock] at named hsingle
    refine ⟨⟨hw', hfaults', hclock', ?_, ?_⟩, text, by rw [htext]; rfl, ?_, named⟩
    · rw [hrun]
      exact hsingle
    · rw [hrun]
      exact ⟨_, List.getElem?_set_self (List.getElem?_eq_some_iff.1 hengine).1, rfl, rfl,
        writes.intermediateKeys.held⟩
    · rw [hrun]
      exact opens p p.accepts_intermediateKeyId

end World

/-! ### Given values -/

/-- The key of zeros. -/
def Key.zeros : Key := ⟨List.replicate 32 0, ⟨0, by decide, by decide⟩, false, rfl⟩

/-- Both clocks at their origins. -/
def Clock.epoch : Clock := .start ⟨0, by decide, by decide⟩

/-- A factory, a session and its first write. -/
def beginning (policy : Policy) : List Request :=
  opening "product" "service" "partition" policy ++ [.encrypt 0 [104, 105]]

/-- The partition of the session. -/
def Partition.given : Partition := .ofIds "partition" "service" "product" none

lemma World.begun_beginning (policy : Policy) (h : policy.cachesSessions = false) :
    let w := (start .zeros none .epoch (.ofSeed 0)).run (beginning policy)
    Begun .zeros .given policy .epoch w ∧ ∃ text,
      (((start .zeros none .epoch (.ofSeed 0)).run
        (opening "product" "service" "partition" policy)).encrypt 0 [104, 105]).map Prod.fst =
          some (.ok text) ∧
      w.environment.store.openRow .zeros .given text = .ok [104, 105] ∧
      DataRow.named? text = some
        ⟨Partition.given.intermediateKeyId, policy.intermediateStamp Clock.epoch.wall⟩ :=
  begun_opening (by decide) (by decide) (by decide) h (by decide)

end Envelope
