import Envelope.Proofs.Parentage
import Envelope.Proofs.Refusal
import Envelope.Proofs.Transparency

/-!
Engines that share a store and nothing else.

Each engine has two caches of its own and no factory, so that engines with different suffixes can
work side by side, as in regions that replicate one table. Such a fleet moves as a world with
factories does: every engine mirrors the store, which only grows, and what an engine adds is under
its own two ids.
-/

namespace Envelope

/-- The request asks for a factory. -/
def Request.OpensFactory : Request → Prop
  | .openFactory .. => True
  | _ => False

namespace World

/-- The world with one more engine for each partition and policy, and two caches for each engine. -/
def fleet (w : World) (members : List (Partition × Policy)) : World :=
  members.foldl (fun w x => w.addReader x.1 x.2 0) w

/-- Every engine has its own caches, and they mirror a sound store. -/
structure Apart (m : Key) (w : World) : Prop where
  keyServices : w.keyServices = [.master m]
  factories : w.factories = []
  faults : w.environment.faults = .none
  store : w.environment.store.Sound m
  length : w.systemKeys.length = w.engines.length
  engine : ∀ {i : Nat} {s : EngineState}, w.engines[i]? = some s →
    s.keyService = 0 ∧ s.systemKeys = i
  systemKeys : ∀ {i : Nat} {s : EngineState} {c : KeyCache}, w.engines[i]? = some s →
    w.systemKeys[i]? = some c → c.Mirrors fun t =>
      w.environment.store.systemKey m ⟨s.partition.systemKeyId, t⟩
  intermediateKeys : ∀ {i : Nat} {s : EngineState}, w.engines[i]? = some s →
    s.intermediateKeys.Mirrors fun t =>
      w.environment.store.intermediateKey m ⟨s.partition.intermediateKeyId, t⟩

variable {m : Key} {w w' w'' : World}

/-! ### Gathering -/

lemma apart_start (m : Key) (suffix : Option String) (clock : Clock) (random : Random) :
    (start m suffix clock random).Apart m where
  keyServices := rfl
  factories := rfl
  faults := rfl
  store := Store.sound_empty suffix m
  length := rfl
  engine h := nomatch h
  systemKeys h := nomatch h
  intermediateKeys h := nomatch h

lemma Apart.addReader (h : w.Apart m) (p : Partition) (policy : Policy) :
    (w.addReader p policy 0).Apart m where
  keyServices := h.keyServices
  factories := h.factories
  faults := h.faults
  store := h.store
  length := by
    show (w.systemKeys ++ [_]).length = (w.engines ++ [_]).length
    simp only [List.length_append, h.length, List.length_singleton]
  engine hs := by
    rcases getElem?_append_one hs with hs | ⟨rfl, rfl⟩
    · exact h.engine hs
    · exact ⟨rfl, h.length⟩
  systemKeys hs hc := by
    rcases getElem?_append_one hc with hc | ⟨-, rfl⟩
    · rcases getElem?_append_one hs with hs | ⟨rfl, -⟩
      · exact h.systemKeys hs hc
      · have hlt := (List.getElem?_eq_some_iff.1 hc).1
        exact absurd (h.length ▸ hlt) (Nat.lt_irrefl _)
    · exact KeyCache.mirrors_empty _
  intermediateKeys hs := by
    rcases getElem?_append_one hs with hs | ⟨-, rfl⟩
    · exact h.intermediateKeys hs
    · exact KeyCache.mirrors_empty _

lemma Apart.fleet (h : w.Apart m) (members : List (Partition × Policy)) :
    (w.fleet members).Apart m := by
  induction members generalizing w with
  | nil => exact h
  | cons x rest ih => exact ih (h.addReader x.1 x.2)

/-- Gathering a fleet leaves the environment as it was. -/
lemma environment_fleet (w : World) (members : List (Partition × Policy)) :
    (w.fleet members).environment = w.environment := by
  induction members generalizing w with
  | nil => rfl
  | cons x rest ih => exact ih (w.addReader x.1 x.2 0)

/-- An engine of the fleet was there or is one of the members. -/
lemma partition_of_fleet {members : List (Partition × Policy)} {i : Nat} {s : EngineState}
    (h : (w.fleet members).engines[i]? = some s) :
    w.engines[i]? = some s ∨ ∃ x ∈ members, s.partition = x.1 := by
  induction members generalizing w with
  | nil => exact Or.inl h
  | cons x rest ih =>
    rcases ih h with h | ⟨y, hy, hp⟩
    · rcases getElem?_append_one h with h | ⟨-, rfl⟩
      · exact Or.inl h
      · exact Or.inr ⟨x, List.mem_cons_self, rfl⟩
    · exact Or.inr ⟨y, List.mem_cons_of_mem x hy, hp⟩

/-! ### Engines at work -/

/-- **An engine that stands apart** has a sound workspace. -/
lemma Apart.bench (h : w.Apart m) {i : Nat} {s : EngineState} (hs : w.engines[i]? = some s) :
    ∃ c, Bench m w i s c ∧ (s.engine m).Sound m (w.workspace s c) := by
  obtain ⟨hservice, hkeys⟩ := h.engine hs
  have hlt := (List.getElem?_eq_some_iff.1 hs).1
  rw [← h.length] at hlt
  have hc : w.systemKeys[i]? = some w.systemKeys[i] := List.getElem?_eq_getElem hlt
  refine ⟨w.systemKeys[i], ⟨hs, ?_, ?_⟩, ?_⟩
  · rw [h.keyServices, hservice]
    rfl
  · rw [hkeys, hc]
  · exact {
      service := rfl
      faults := h.faults ▸ Faults.failing_none.truthful
      failing := h.faults ▸ Faults.failing_none
      dated := h.store.dated
      systemKeys := h.systemKeys hs hc
      intermediateKeys := h.intermediateKeys hs
      store := h.store }

/-- The environment may change as long as its store grows. -/
lemma Apart.withEnvironment (h : w.Apart m) {env : Environment} (hf : env.faults = .none)
    (hs : env.store.Sound m) (hg : w.environment.store.Grows env.store) :
    Apart m { w with environment := env } where
  keyServices := h.keyServices
  factories := h.factories
  faults := hf
  store := hs
  length := h.length
  engine := h.engine
  systemKeys hl hc := (h.systemKeys hl hc).mono fun hk => hg.systemKey hk
  intermediateKeys hl := (h.intermediateKeys hl).mono fun hk => hg.intermediateKey hk

lemma Apart.disposeEngine (h : w.Apart m) (i : Nat) : (w.disposeEngine i).Apart m where
  keyServices := h.keyServices
  factories := h.factories
  faults := h.faults
  store := h.store
  length := by
    unfold World.disposeEngine
    rw [List.length_modify]
    exact h.length
  engine hl := by
    obtain ⟨s, hs, rfl | rfl⟩ := getElem?_disposeEngine hl
    · exact h.engine hs
    · obtain ⟨hservice, hkeys⟩ := h.engine hs
      exact ⟨hservice, hkeys⟩
  systemKeys hl hc := by
    obtain ⟨s, hs, rfl | rfl⟩ := getElem?_disposeEngine hl
    · exact h.systemKeys hs hc
    · have hm := h.systemKeys hs hc
      exact hm
  intermediateKeys hl := by
    obtain ⟨s, hs, rfl | rfl⟩ := getElem?_disposeEngine hl
    · exact h.intermediateKeys hs
    · exact KeyCache.mirrors_dispose

/-- Putting a workspace back keeps the engines apart. -/
lemma Apart.settle (h : w.Apart m) {i : Nat} {s : EngineState} {c : KeyCache}
    (hb : Bench m w i s c) (hs : (s.engine m).Sound m (w.workspace s c)) {v : Engine.Workspace}
    (hv : (s.engine m).Advances m (w.workspace s c) v) (hf : v.environment.faults = .none) :
    (w.settle i s v).Apart m := by
  have hw : Apart m { w with environment := v.environment } :=
    h.withEnvironment hf hv.sound hv.store.grows
  obtain ⟨hservice, hkeys⟩ := h.engine hb.engine
  refine ⟨h.keyServices, h.factories, hf, hv.sound, ?_, fun hl => ?_, fun hl hc => ?_,
    fun hl => ?_⟩
  · show (w.systemKeys.set _ _).length = (w.engines.set _ _).length
    rw [List.length_set, List.length_set, h.length]
  · rcases getElem?_set_of_some hb.engine hl with ⟨rfl, rfl⟩ | ⟨-, hl⟩
    · exact ⟨hservice, hkeys⟩
    · exact h.engine hl
  · rcases getElem?_set_of_some hb.systemKeys hc with ⟨hi, rfl⟩ | ⟨hne, hc⟩
    · rcases getElem?_set_of_some hb.engine hl with ⟨-, rfl⟩ | ⟨hj, -⟩
      · exact hs.systemKeys.of_refreshes hv.systemKeys
          fun hk => ⟨_, hv.store.systemKey hk, .refl _⟩
      · exact absurd (hkeys.symm.trans hi) hj
    · rcases getElem?_set_of_some hb.engine hl with ⟨rfl, -⟩ | ⟨-, hl⟩
      · exact absurd hkeys hne
      · exact hw.systemKeys hl hc
  · rcases getElem?_set_of_some hb.engine hl with ⟨rfl, rfl⟩ | ⟨-, hl⟩
    · exact hs.intermediateKeys.of_refreshes hv.intermediateKeys
        fun hk => ⟨_, hv.store.intermediateKey hk, .refl _⟩
    · exact hw.intermediateKeys hl

/-! ### From one world to a later one -/

/-- The second world is the first after work of its engines: they stand apart as before, and new
intermediate records are under the ids of one of them. -/
structure Moves (m : Key) (w w' : World) : Prop where
  apart : w'.Apart m
  precedes : w.Precedes w'
  engine : ∀ {i : Nat} {s' : EngineState}, w'.engines[i]? = some s' →
    ∃ s : EngineState, w.engines[i]? = some s ∧ s.SameSeat s'
  under : ∀ {q id t}, w'.environment.store.IsUnder q id t →
    w.environment.store.IsUnder q id t ∨ ∃ (i : Nat) (s : EngineState), w.engines[i]? = some s ∧
      id = s.partition.intermediateKeyId ∧ q.keyId = s.partition.systemKeyId

lemma Apart.moves (h : w.Apart m) : Moves m w w :=
  ⟨h, .refl w, fun hs => ⟨_, hs, .refl _⟩, Or.inl⟩

lemma Moves.trans (h : Moves m w w') (h' : Moves m w' w'') : Moves m w w'' := by
  refine ⟨h'.apart, h.precedes.trans h'.precedes, fun hs => ?_, fun hu => ?_⟩
  · obtain ⟨s', hs', hseat'⟩ := h'.engine hs
    obtain ⟨s, hs, hseat⟩ := h.engine hs'
    exact ⟨s, hs, hseat.trans hseat'⟩
  · rcases h'.under hu with hu | ⟨i, s', hs', hid, hq⟩
    · exact h.under hu
    · obtain ⟨s, hs, hseat⟩ := h.engine hs'
      rw [hseat.partition] at hid hq
      exact Or.inr ⟨i, s, hs, hid, hq⟩

/-- A change of the environment that adds no record. -/
lemma Apart.moves_withEnvironment (h : w.Apart m) {env : Environment}
    (hclock : w.environment.clock.elapsed ≤ env.clock.elapsed) (hf : env.faults = .none)
    (hs : env.store.Sound m) (hg : w.environment.store.Grows env.store)
    (hu : ∀ {q id t}, env.store.IsUnder q id t → w.environment.store.IsUnder q id t) :
    Moves m w { w with environment := env } where
  apart := h.withEnvironment hf hs hg
  precedes := ⟨hclock, by rw [h.faults, hf]; exact .refl _, hg, fun hs => ⟨_, hs, .refl _⟩⟩
  engine hs := ⟨_, hs, .refl _⟩
  under h := Or.inl (hu h)

lemma Apart.moves_disposeEngine (h : w.Apart m) (i : Nat) : Moves m w (w.disposeEngine i) where
  apart := h.disposeEngine i
  precedes := ⟨Nat.le_refl _, .refl _, .refl _, (w.tidies_disposeEngine i).engine⟩
  engine hs := by
    obtain ⟨s, hl, rfl | rfl⟩ := getElem?_disposeEngine hs
    · exact ⟨_, hl, .refl _⟩
    · exact ⟨s, hl, rfl, rfl, rfl, rfl⟩
  under := Or.inl

/-- **The work of an engine** moves the world. -/
lemma Apart.moves_settle (h : w.Apart m) {i : Nat} {s : EngineState} {c : KeyCache}
    (hb : Bench m w i s c) (hs : (s.engine m).Sound m (w.workspace s c)) {v : Engine.Workspace}
    (hv : (s.engine m).Evolves m (w.workspace s c) v)
    (hu : ∀ {q id t}, v.environment.store.IsUnder q id t →
      w.environment.store.IsUnder q id t ∨ q.keyId = s.partition.systemKeyId) :
    Moves m w (w.settle i s v) := by
  have hf : v.environment.faults = .none := (h.faults ▸ hv.faults : Faults.none.Leaves _).eq_none
  refine ⟨h.settle hb hs hv.advances hf, ⟨Nat.le_of_eq (congrArg Clock.elapsed hv.clock).symm,
    hv.faults, hv.store.grows, engine_settle hb.engine v⟩, fun hl => ?_, fun {q id t} hun => ?_⟩
  · rcases getElem?_set_of_some hb.engine hl with ⟨rfl, rfl⟩ | ⟨-, hl⟩
    · exact ⟨s, hb.engine, rfl, rfl, rfl, rfl⟩
    · exact ⟨_, hl, .refl _⟩
  · rcases hu hun with hold | hq
    · exact Or.inl hold
    · -- a record that points somewhere is not one of a system key
      obtain ⟨r, hl, hp⟩ := hun
      rcases hv.added hl with hl | ⟨rfl, -⟩ | ⟨rfl, -⟩
      · exact Or.inl ⟨r, hl, hp⟩
      · obtain ⟨hnone, -⟩ := hv.sound.system s.partition.isSystemId_systemKeyId hl
        cases hnone.symm.trans hp
      · exact Or.inr ⟨i, s, hb.engine, rfl, hq⟩

/-- **One request** moves a fleet. -/
lemma Apart.apply (h : w.Apart m) {o : Request} (ho : ¬ o.OpensFactory) :
    Moves m w (w.apply o) := by
  cases o with
  | openFactory product service policy => exact absurd trivial ho
  | openSession factory partition =>
    have hnone : w.apply (.openSession factory partition) = w := by
      simp [World.apply, World.session, h.factories]
    rw [hnone]
    exact h.moves
  | encrypt i payload =>
    cases hi : w.engines[i]? with
    | none =>
      have hnone : w.apply (.encrypt i payload) = w := by
        simp [World.apply, World.encrypt, work_of_no_engine hi]
      rw [hnone]
      exact h.moves
    | some s =>
      obtain ⟨c, hb, hs⟩ := h.bench hi
      obtain ⟨r, v, hr, hv⟩ := hb.encrypt hs payload
      rw [apply_encrypt hr]
      refine h.moves_settle hb hs hv.evolves fun hu => (hv.of_isUnder hu).imp_right ?_
      rintro ⟨_, _, -, rfl, -⟩
      rfl
  | decrypt i text =>
    cases hi : w.engines[i]? with
    | none =>
      have hnone : w.apply (.decrypt i text) = w := by
        simp [World.apply, World.decrypt, work_of_no_engine hi]
      rw [hnone]
      exact h.moves
    | some s =>
      obtain ⟨c, hb, hs⟩ := h.bench hi
      obtain ⟨r, v, hr, hv, -⟩ := hb.decrypt hs.toCoherent text
      rw [apply_decrypt hr]
      exact h.moves_settle hb hs (hs.evolves_of_opened hv) fun hu => Or.inl (hv.keeps.store ▸ hu)
  | advance d =>
    exact h.moves_withEnvironment (Nat.le_add_right _ _) h.faults h.store (.refl _) id
  | setWall now =>
    exact h.moves_withEnvironment (Nat.le_refl _) h.faults h.store (.refl _) id
  | revoke keyId created =>
    obtain ⟨log, hlog⟩ := w.apply_revoke keyId created
    rw [hlog]
    exact h.moves_withEnvironment (Nat.le_refl _) h.faults (h.store.revoke keyId created)
      (w.environment.store.grows_revoke keyId created) fun hu => hu.of_revoke
  | closeSession i => exact h.moves_disposeEngine i
  | disposeFactory i =>
    have hnone : w.apply (.disposeFactory i) = w := by
      simp [World.apply, World.disposeFactory, h.factories]
    rw [hnone]
    exact h.moves

/-- **A run** moves a fleet. -/
theorem Apart.run (h : w.Apart m) {requests : List Request}
    (hrequests : ∀ o ∈ requests, ¬ o.OpensFactory) : Moves m w (w.run requests) := by
  induction requests generalizing w with
  | nil => exact h.moves
  | cons o rest ih =>
    have hmoves := h.apply (hrequests o List.mem_cons_self)
    exact hmoves.trans (ih hmoves.apart fun o' ho' => hrequests o' (List.mem_cons_of_mem o ho'))

end World

end Envelope
