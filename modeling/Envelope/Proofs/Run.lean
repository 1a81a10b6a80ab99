import Envelope.Proofs.Seat
import Envelope.Proofs.Time

/-!
Runs: requests of any kind, in any order, on a world that starts with an empty store.

Every request keeps the world sound, so a run does. From one world to the next the store grows, new
records are dated no later than now, and a cache holds what it held or a key it has just looked up.
-/

namespace Envelope

/-- Anything that may be asked of a world. Factories and sessions go by their numbers. -/
inductive Request where
  | openFactory (product service : String) (policy : Policy)
  | openSession (factory : Nat) (partition : String)
  | encrypt (session : Nat) (payload : Bytes)
  | decrypt (session : Nat) (text : Bytes)
  | advance (d : Duration)
  | setWall (now : Time)
  | revoke (keyId : String) (created : Time)
  /-- The session leaves the cache it may be in. -/
  | closeSession (session : Nat)
  | disposeFactory (factory : Nat)

/-- The request neither moves a clock nor revokes a record. -/
def Request.IsTidy : Request → Prop
  | .advance _ | .setWall _ | .revoke _ _ => False
  | _ => True

/-- The clock after a request. -/
def Request.tick (c : Clock) : Request → Clock
  | .advance d => c.advance d
  | .setWall now => c.setWall now
  | _ => c

namespace World

/-- The world after a request; one that cannot be met changes nothing. -/
def apply (w : World) : Request → World
  | .openFactory product service policy =>
    match w.addFactory product service policy 0 with
    | .ok w' => w'
    | .error _ => w
  | .openSession factory partition => ((w.session factory partition).map Prod.snd).getD w
  | .encrypt session payload => ((w.encrypt session payload).map Prod.snd).getD w
  | .decrypt session text => ((w.decrypt session text).map Prod.snd).getD w
  | .advance d => w.advance d
  | .setWall now => w.setWall now
  | .revoke keyId created => (w.revokeRecord keyId created).2
  | .closeSession session => w.disposeEngine session
  | .disposeFactory factory => w.disposeFactory factory

/-- The world after a run of requests. -/
def run (w : World) (requests : List Request) : World := requests.foldl apply w

@[simp] lemma run_nil (w : World) : w.run [] = w := rfl

@[simp] lemma run_cons (w : World) (q : Request) (rest : List Request) :
    w.run (q :: rest) = (w.apply q).run rest := rfl

lemma run_append (w : World) (a b : List Request) : w.run (a ++ b) = (w.run a).run b := by
  simp [run, List.foldl_append]

/-- A world with an empty store and a master key, before any factory. -/
def start (m : Key) (suffix : Option String) (clock : Clock) (random : Random) : World :=
  (ofEnvironment (.ofStore clock random (.empty suffix))).addKeyService (.master m)

variable {m : Key} {w w' w'' : World}

/-! ### From one world to a later one -/

/-- Time has gone by, the store has grown and the engines are still there. -/
structure Precedes (w w' : World) : Prop where
  elapsed : w.environment.clock.elapsed ≤ w'.environment.clock.elapsed
  faults : w.environment.faults.Leaves w'.environment.faults
  store : w.environment.store.Grows w'.environment.store
  engine : ∀ {i : Nat} {s : EngineState}, w.engines[i]? = some s →
    ∃ s' : EngineState, w'.engines[i]? = some s' ∧ s.SameSeat s'

lemma Precedes.refl (w : World) : w.Precedes w :=
  ⟨Nat.le_refl _, .refl _, .refl _, fun hl => ⟨_, hl, .refl _⟩⟩

lemma Precedes.trans (h : w.Precedes w') (h' : w'.Precedes w'') : w.Precedes w'' := by
  refine ⟨Nat.le_trans h.elapsed h'.elapsed, h.faults.trans h'.faults, h.store.trans h'.store,
    fun hl => ?_⟩
  obtain ⟨s', hs', hp⟩ := h.engine hl
  obtain ⟨s'', hs'', hp'⟩ := h'.engine hs'
  exact ⟨s'', hs'', hp.trans hp'⟩

/-- What one request does: new records are dated no later than now, and what is new in a cache has
just been looked up. -/
structure Follows (m : Key) (w w' : World) : Prop extends w.Precedes w' where
  record : ∀ {id t r}, w'.environment.store.load? id t = some r →
    (∃ r₀, w.environment.store.load? id t = some r₀ ∧ r₀.Persists r) ∨
      t ≤ w.environment.clock.wall
  system : ∀ {id t e}, w'.HoldsSystem id t e → w.HoldsSystem id t e ∨
    e.since = w.environment.clock.elapsed ∧ e.key.created.time = t ∧
      w'.environment.store.systemKey m ⟨id, e.key.created⟩ = .ok e.key
  intermediate : ∀ {i id t e}, w'.HoldsIntermediate i id t e → w.HoldsIntermediate i id t e ∨
    e.since = w.environment.clock.elapsed ∧ e.key.created.time = t ∧
      w'.environment.store.intermediateKey m ⟨id, e.key.created⟩ = .ok e.key

/-! ### Single requests -/

/-- What a request may do to a world. -/
inductive Step (m : Key) (w : World) : Request → World → Prop where
  /-- Something was opened or closed, or what was asked for is not there. -/
  | tidied (q : Request) (w' : World) (tidy : q.IsTidy) (tidies : w.Tidies w') : Step m w q w'
  | added (product service : String) (policy : Policy) (w' : World)
      (adds : w.addFactory product service policy 0 = .ok w') :
      Step m w (.openFactory product service policy) w'
  | sealed (i : Nat) (payload : Bytes) (s : EngineState) (f : Factory) (c : KeyCache)
      (r : Except Error Bytes) (v : Engine.Workspace) (seat : Seat m w i s f c)
      (answer : w.encrypt i payload = some (r, w.settle i s v))
      (result : Sealed m w s c payload r v) : Step m w (.encrypt i payload) (w.settle i s v)
  | opened (i : Nat) (text : Bytes) (s : EngineState) (f : Factory) (c : KeyCache)
      (r : Except Error Bytes) (v : Engine.Workspace) (seat : Seat m w i s f c)
      (result : (s.engine m).Opened m (w.workspace s c) text r v) :
      Step m w (.decrypt i text) (w.settle i s v)
  | advanced (d : Duration) : Step m w (.advance d) (w.advance d)
  | set (now : Time) : Step m w (.setWall now) (w.setWall now)
  | revoked (keyId : String) (created : Time) (log : List Event) :
      Step m w (.revoke keyId created) { w with environment := { w.environment with
        store := (w.environment.store.revoke keyId created).2, log } }

lemma apply_encrypt {i : Nat} {payload : Bytes} {r : Except Error Bytes}
    (h : w.encrypt i payload = some (r, w')) : w.apply (.encrypt i payload) = w' := by
  simp [apply, h]

/-- **What an engine returns** names an intermediate key of its own that is in the store by then,
and opens wherever that key id is accepted. -/
lemma Bench.returned {i : Nat} {s : EngineState} {c : KeyCache} (hb : Bench m w i s c)
    (hs : (s.engine m).Sound m (w.workspace s c)) {payload text : Bytes}
    (htext : (w.encrypt i payload).map Prod.fst = some (.ok text)) :
    ∃ created k, DataRow.named? text = some ⟨s.partition.intermediateKeyId, created⟩ ∧
      (w.apply (.encrypt i payload)).environment.store.intermediateKey m
        ⟨s.partition.intermediateKeyId, created⟩ = .ok k ∧
      ∀ p : Partition, p.Accepts s.partition.intermediateKeyId →
        (w.apply (.encrypt i payload)).environment.store.openRow m p text = .ok payload := by
  obtain ⟨r, v, hr, hsealed⟩ := hb.encrypt hs payload
  rw [hr] at htext
  obtain rfl : r = .ok text := Option.some.inj htext
  rw [apply_encrypt hr]
  cases hsealed with
  | record _ k _ writes named opens =>
    obtain ⟨k', hk', -⟩ := writes.key
    exact ⟨k.created, k', named, hk', opens⟩

lemma apply_decrypt {i : Nat} {text : Bytes} {r : Except Error Bytes}
    (h : w.decrypt i text = some (r, w')) : w.apply (.decrypt i text) = w' := by
  simp [apply, h]

lemma apply_revoke (w : World) (keyId : String) (created : Time) :
    ∃ log, w.apply (.revoke keyId created) = { w with environment := { w.environment with
      store := (w.environment.store.revoke keyId created).2, log } } := by
  unfold apply revokeRecord
  dsimp only
  split
  · exact ⟨_, rfl⟩
  · exact ⟨_, rfl⟩

lemma revokeRecord_fst (w : World) (keyId : String) (created : Time) :
    (w.revokeRecord keyId created).1 = (w.environment.store.load? keyId created).isSome := by
  rw [← Store.revoke_fst]
  rfl

/-- **One request** keeps a world sound and does to it what requests may do. -/
theorem Sound.apply (h : w.Sound m) (q : Request) :
    (w.apply q).Sound m ∧ Step m w q (w.apply q) := by
  cases q with
  | openFactory product service policy =>
    unfold World.apply
    dsimp only
    split
    · next w' ha => exact ⟨h.addFactory ha, .added _ _ _ w' ha⟩
    · exact ⟨h, .tidied _ _ trivial (.refl w)⟩
  | openSession factory partition =>
    unfold World.apply
    dsimp only
    cases hs : w.session factory partition with
    | none => exact ⟨h, .tidied _ _ trivial (.refl w)⟩
    | some rw' =>
      obtain ⟨r, w'⟩ := rw'
      obtain ⟨hsound, htidies, -⟩ := h.session hs
      exact ⟨hsound, .tidied _ _ trivial htidies⟩
  | encrypt i payload =>
    cases hi : w.engines[i]? with
    | none =>
      have hnone : w.apply (.encrypt i payload) = w := by
        simp [World.apply, World.encrypt, work_of_no_engine hi]
      rw [hnone]
      exact ⟨h, .tidied _ _ trivial (.refl w)⟩
    | some s =>
      obtain ⟨f, c, hs⟩ := h.seat hi
      obtain ⟨r, v, hr, hv⟩ := h.encrypt hs payload
      rw [apply_encrypt hr]
      exact ⟨h.settle hs hv.evolves, .sealed i payload s f c r v hs hr hv⟩
  | decrypt i text =>
    cases hi : w.engines[i]? with
    | none =>
      have hnone : w.apply (.decrypt i text) = w := by
        simp [World.apply, World.decrypt, work_of_no_engine hi]
      rw [hnone]
      exact ⟨h, .tidied _ _ trivial (.refl w)⟩
    | some s =>
      obtain ⟨f, c, hs⟩ := h.seat hi
      obtain ⟨r, v, hr, hv, -⟩ := h.decrypt hs text
      rw [apply_decrypt hr]
      exact ⟨h.settle hs (hs.sound.evolves_of_opened hv), .opened i text s f c r v hs hv⟩
  | advance d => exact ⟨h.withEnvironment h.faults h.store (.refl _), .advanced d⟩
  | setWall now => exact ⟨h.withEnvironment h.faults h.store (.refl _), .set now⟩
  | revoke keyId created =>
    obtain ⟨log, hlog⟩ := w.apply_revoke keyId created
    rw [hlog]
    exact ⟨h.withEnvironment h.faults (h.store.revoke keyId created)
      (w.environment.store.grows_revoke keyId created), .revoked keyId created log⟩
  | closeSession i =>
    exact ⟨h.disposeEngine i, .tidied _ _ trivial (w.tidies_disposeEngine i)⟩
  | disposeFactory i =>
    exact ⟨(h.disposeFactory i).1, .tidied _ _ trivial (h.disposeFactory i).2⟩

/-- Work of an engine that evolves its workspace. -/
lemma Seat.follows_settle {i : Nat} {s : EngineState} {f : Factory} {c : KeyCache}
    (hs : Seat m w i s f c) {v : Engine.Workspace}
    (hv : (s.engine m).Evolves m (w.workspace s c) v) : Follows m w (w.settle i s v) where
  elapsed := Nat.le_of_eq (congrArg Clock.elapsed hv.clock).symm
  faults := hv.faults
  store := hv.store.grows
  record {id t r} hl := by
    rcases hv.added hl with hl | ⟨-, -, rfl⟩ | ⟨-, -, rfl⟩
    · exact Or.inl ⟨r, hl, .refl r⟩
    · exact Or.inr (Time.floorTo_time_le _ _)
    · exact Or.inr (Time.floorTo_time_le _ _)
  engine := engine_settle hs.engine v
  system {id t e} he := by
    obtain ⟨j, g, c', hg, hid, hc', he⟩ := he
    have hsuffix : v.environment.store.suffix = w.environment.store.suffix := hv.store.suffix
    replace hid : g.systemKeyId v.environment.store.suffix = id := hid
    rw [hsuffix] at hid
    rcases getElem?_set_of_some hs.systemKeys hc' with ⟨rfl, rfl⟩ | ⟨-, hc'⟩
    · replace hg : w.factories[s.systemKeys]? = some g := hg
      rw [hs.factory] at hg
      cases hg
      rcases hv.systemKeys.entries he with he | ⟨hsince, ht, hk⟩
      · exact Or.inl ⟨s.systemKeys, f, c, hs.factory, hid, hs.systemKeys, he⟩
      · refine Or.inr ⟨hsince, ht, ?_⟩
        rw [← hid, ← hs.isOf.systemKeyId]
        exact hk
    · exact Or.inl ⟨j, g, c', hg, hid, hc', he⟩
  intermediate he := by
    rcases hs.intermediate_settle he with he | ⟨rfl, hid, he⟩
    · exact Or.inl he
    · rcases hv.intermediateKeys.entries he with he | ⟨hsince, ht, hk⟩
      · exact Or.inl ⟨s, hs.engine, hid, he⟩
      · exact Or.inr ⟨hsince, ht, hid ▸ hk⟩

/-- **A world follows** the one before the request. -/
theorem Step.follows (hw : w.Sound m) {q : Request} (h : Step m w q w') : Follows m w w' := by
  cases h with
  | tidied q w' tidy tidies =>
    have hc := tidies.environment.clock
    have hs := tidies.environment.store
    exact {
      elapsed := Nat.le_of_eq (congrArg Clock.elapsed hc).symm
      faults := tidies.environment.faults
      store := hs ▸ .refl _
      engine := tidies.engine
      record := fun hl => Or.inl ⟨_, hs ▸ hl, .refl _⟩
      system := fun he => Or.inl (tidies.system he)
      intermediate := fun he => Or.inl (tidies.intermediate he) }
  | added product service policy w' adds =>
    have holds := fun {id t e} (he : w'.HoldsSystem id t e) => hw.holdsSystem_of_addFactory adds he
    obtain ⟨sessions, rfl, -⟩ := addFactory_eq_ok adds
    exact { Precedes.refl w with
      record := fun hl => Or.inl ⟨_, hl, .refl _⟩
      system := fun he => Or.inl (holds he)
      intermediate := Or.inl }
  | sealed i payload s f c r v seat answer result => exact seat.follows_settle result.evolves
  | opened i text s f c r v seat result =>
    exact seat.follows_settle (seat.sound.evolves_of_opened result)
  | advanced d =>
    exact { Precedes.refl w with
      elapsed := Nat.le_add_right _ _
      record := fun hl => Or.inl ⟨_, hl, .refl _⟩
      system := Or.inl
      intermediate := Or.inl }
  | set now =>
    exact { Precedes.refl w with
      record := fun hl => Or.inl ⟨_, hl, .refl _⟩
      system := Or.inl
      intermediate := Or.inl }
  | revoked keyId created log =>
    have hg := w.environment.store.grows_revoke keyId created
    exact { Precedes.refl w with
      store := hg
      record := fun hl => Or.inl (Store.load?_of_revoke hl)
      system := fun {id t e} he => by
        obtain ⟨j, f, c, hl, hid, hc, he⟩ := he
        replace hid : f.systemKeyId (w.environment.store.revoke keyId created).2.suffix = id :=
          hid
        rw [hg.suffix] at hid
        exact Or.inl ⟨j, f, c, hl, hid, hc, he⟩
      intermediate := Or.inl }

/-- Only the requests that move the clock do. -/
lemma Step.clock {q : Request} (h : Step m w q w') :
    w'.environment.clock = q.tick w.environment.clock := by
  cases h with
  | tidied q w' tidy tidies =>
    rw [tidies.environment.clock]
    cases q <;> first | rfl | cases tidy
  | added product service policy w' adds =>
    obtain ⟨sessions, rfl, -⟩ := addFactory_eq_ok adds
    rfl
  | sealed i payload s f c r v seat answer result => exact result.evolves.clock
  | opened i text s f c r v seat result => exact (seat.sound.evolves_of_opened result).clock
  | advanced d => rfl
  | set now => rfl
  | revoked keyId created log => rfl

/-! ### Whole runs -/

lemma sound_start (m : Key) (suffix : Option String) (clock : Clock) (random : Random) :
    (start m suffix clock random).Sound m where
  keyServices := rfl
  faults := Faults.failing_none
  store := Store.sound_empty suffix m
  length := rfl
  factory h := nomatch h
  systemKeys h := nomatch h
  engine h := nomatch h
  intermediateKeys h := nomatch h
  sessions h := nomatch h

/-- **A run** keeps a world sound, whatever is asked and in whatever order. -/
theorem Sound.run (h : w.Sound m) (requests : List Request) :
    (w.run requests).Sound m ∧ w.Precedes (w.run requests) := by
  induction requests generalizing w with
  | nil => exact ⟨h, .refl w⟩
  | cons q rest ih =>
    obtain ⟨hq, hf⟩ := h.apply q
    obtain ⟨hr, hp⟩ := ih hq
    exact ⟨hr, (hf.follows h).toPrecedes.trans hp⟩

lemma Sound.clock_run (h : w.Sound m) (requests : List Request) :
    (w.run requests).environment.clock = requests.foldl Request.tick w.environment.clock := by
  induction requests generalizing w with
  | nil => rfl
  | cons q rest ih =>
    obtain ⟨hq, hstep⟩ := h.apply q
    rw [run_cons, ih hq, hstep.clock, List.foldl_cons]

/-- No failure is ever planned in a run that starts without any. -/
lemma faults_run (m : Key) (suffix : Option String) (clock : Clock) (random : Random)
    (requests : List Request) :
    ((start m suffix clock random).run requests).environment.faults = .none :=
  ((sound_start m suffix clock random).run requests).2.faults.eq_none

/-- A session that is there goes on sealing, if no failure is planned. -/
lemma Sound.encrypt_later (h : w.Sound m) (hf : w.environment.faults = .none) {i : Nat}
    {s : EngineState} (hs : w.engines[i]? = some s) (requests : List Request) (payload : Bytes)
    (hl : payload.length ≤ Cipher.Siv.maxLength) :
    ∃ text, ((w.run requests).encrypt i payload).map Prod.fst = some (.ok text) := by
  obtain ⟨hw, hp⟩ := h.run requests
  obtain ⟨s', hs', -⟩ := hp.engine hs
  obtain ⟨f, c, hseat⟩ := hw.seat hs'
  obtain ⟨text, v, htext, -⟩ := hw.encrypt_ok (hf ▸ hp.faults).eq_none hseat payload hl
  exact ⟨text, by rw [htext]; rfl⟩

end World

end Envelope
