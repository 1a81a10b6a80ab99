import Envelope.Proofs.SessionCache
import Envelope.Proofs.Writing
import Envelope.World

/-!
Worlds over one store and one master key.

A world is sound if its store is, and if every cache mirrors it: the system keys of a factory under
the id of its scope, the intermediate keys of an engine under the id of its partition. Opening and
closing keep this and only take cached keys away.
-/

namespace Envelope

/-- The id of the system keys of a factory. -/
def Factory.systemKeyId (f : Factory) (suffix : Option String) : String :=
  (Partition.ofIds "" f.service f.product suffix).systemKeyId

/-- The same factory, but for its sessions and whether it is disposed. -/
structure Factory.SameScope (f f' : Factory) : Prop where
  product : f'.product = f.product
  service : f'.service = f.service
  policy : f'.policy = f.policy
  keyService : f'.keyService = f.keyService
  systemKeys : f'.systemKeys = f.systemKeys

lemma Factory.SameScope.refl (f : Factory) : f.SameScope f := ⟨rfl, rfl, rfl, rfl, rfl⟩

lemma Factory.SameScope.trans {f f' f'' : Factory} (h : f.SameScope f') (h' : f'.SameScope f'') :
    f.SameScope f'' :=
  ⟨h'.product.trans h.product, h'.service.trans h.service, h'.policy.trans h.policy,
    h'.keyService.trans h.keyService, h'.systemKeys.trans h.systemKeys⟩

lemma Factory.SameScope.systemKeyId {f f' : Factory} (h : f.SameScope f')
    (suffix : Option String) : f'.systemKeyId suffix = f.systemKeyId suffix := by
  unfold Factory.systemKeyId
  rw [h.service, h.product]

/-- The engine was made by the factory. -/
structure EngineState.IsOf (s : EngineState) (f : Factory) (suffix : Option String) : Prop where
  policy : s.policy = f.policy
  keyService : s.keyService = f.keyService
  partition : ∃ id, s.partition = .ofIds id f.service f.product suffix
  revokeCheck : s.intermediateKeys.revokeCheck = f.policy.revokeCheck

lemma EngineState.IsOf.systemKeyId {s : EngineState} {f : Factory} {suffix : Option String}
    (h : s.IsOf f suffix) : s.partition.systemKeyId = f.systemKeyId suffix := by
  obtain ⟨id, hp⟩ := h.partition
  rw [hp]
  rfl

lemma EngineState.IsOf.sameScope {s : EngineState} {f f' : Factory} {suffix : Option String}
    (h : s.IsOf f suffix) (hf : f.SameScope f') : s.IsOf f' suffix :=
  ⟨h.policy.trans hf.policy.symm, h.keyService.trans hf.keyService.symm,
    hf.service ▸ hf.product ▸ h.partition, hf.policy ▸ h.revokeCheck⟩

/-- The same engine, but for the intermediate keys it caches. -/
structure EngineState.SameSeat (s s' : EngineState) : Prop where
  partition : s'.partition = s.partition
  policy : s'.policy = s.policy
  keyService : s'.keyService = s.keyService
  systemKeys : s'.systemKeys = s.systemKeys

lemma EngineState.SameSeat.refl (s : EngineState) : s.SameSeat s := ⟨rfl, rfl, rfl, rfl⟩

lemma EngineState.SameSeat.trans {s s' s'' : EngineState} (h : s.SameSeat s')
    (h' : s'.SameSeat s'') : s.SameSeat s'' :=
  ⟨h'.partition.trans h.partition, h'.policy.trans h.policy, h'.keyService.trans h.keyService,
    h'.systemKeys.trans h.systemKeys⟩

namespace World

/-- The sessions that a factory has cached are engines of its own, each for its partition id. -/
def Lists (w : World) (i : Nat) (f : Factory) : Prop :=
  ∀ cache ∈ f.sessions, ∀ x ∈ cache.sessions, ∃ s : EngineState, w.engines[x.engine]? = some s ∧
    s.systemKeys = i ∧
    s.partition = .ofIds x.partition f.service f.product w.environment.store.suffix

/-- Every cache mirrors a sound store. -/
structure Sound (m : Key) (w : World) : Prop where
  keyServices : w.keyServices = [.master m]
  faults : w.environment.faults.Failing
  store : w.environment.store.Sound m
  length : w.systemKeys.length = w.factories.length
  factory : ∀ {i : Nat} {f : Factory}, w.factories[i]? = some f →
    f.keyService = 0 ∧ f.systemKeys = i
  systemKeys : ∀ {i : Nat} {f : Factory}, w.factories[i]? = some f →
    ∃ c : KeyCache, w.systemKeys[i]? = some c ∧ c.revokeCheck = f.policy.revokeCheck ∧
      c.Mirrors fun t =>
        w.environment.store.systemKey m ⟨f.systemKeyId w.environment.store.suffix, t⟩
  engine : ∀ {i : Nat} {s : EngineState}, w.engines[i]? = some s →
    ∃ f, w.factories[s.systemKeys]? = some f ∧ s.IsOf f w.environment.store.suffix
  intermediateKeys : ∀ {i : Nat} {s : EngineState}, w.engines[i]? = some s →
    s.intermediateKeys.Mirrors fun t =>
      w.environment.store.intermediateKey m ⟨s.partition.intermediateKeyId, t⟩
  sessions : ∀ {i : Nat} {f : Factory}, w.factories[i]? = some f → w.Lists i f

/-- Some system key cache for the id holds this at the time. -/
def HoldsSystem (w : World) (id : String) (t : Time) (e : CachedKey) : Prop :=
  ∃ (j : Nat) (f : Factory) (c : KeyCache), w.factories[j]? = some f ∧
    f.systemKeyId w.environment.store.suffix = id ∧ w.systemKeys[j]? = some c ∧
    c.entries.get? t = some e

/-- The engine of the number is for the id and its cache holds this at the time. -/
def HoldsIntermediate (w : World) (i : Nat) (id : String) (t : Time) (e : CachedKey) : Prop :=
  ∃ s : EngineState, w.engines[i]? = some s ∧ s.partition.intermediateKeyId = id ∧
    s.intermediateKeys.entries.get? t = some e

/-- The second world is the first after some opening and closing: factories and engines stay, new
engines hold no keys and old ones hold no others than before. -/
structure Tidies (w w' : World) : Prop where
  environment : w.environment.Keeps w'.environment
  factory : ∀ {i : Nat} {f' : Factory}, w'.factories[i]? = some f' →
    ∃ f, w.factories[i]? = some f ∧ f.SameScope f'
  engine : ∀ {i : Nat} {s : EngineState}, w.engines[i]? = some s →
    ∃ s' : EngineState, w'.engines[i]? = some s' ∧ s.SameSeat s'
  system : ∀ {id t e}, w'.HoldsSystem id t e → w.HoldsSystem id t e
  intermediate : ∀ {i id t e}, w'.HoldsIntermediate i id t e → w.HoldsIntermediate i id t e

variable {m : Key} {w w' w'' : World}

lemma Tidies.refl (w : World) : w.Tidies w :=
  ⟨.refl _, fun h => ⟨_, h, .refl _⟩, fun h => ⟨_, h, .refl _⟩, id, id⟩

lemma Tidies.trans (h : w.Tidies w') (h' : w'.Tidies w'') : w.Tidies w'' := by
  refine ⟨h.environment.trans h'.environment, fun hf => ?_, fun hs => ?_,
    fun he => h.system (h'.system he), fun he => h.intermediate (h'.intermediate he)⟩
  · obtain ⟨f', hf', hs'⟩ := h'.factory hf
    obtain ⟨f, hf, hs⟩ := h.factory hf'
    exact ⟨f, hf, hs.trans hs'⟩
  · obtain ⟨s', hs', hp⟩ := h.engine hs
    obtain ⟨s'', hs'', hp'⟩ := h'.engine hs'
    exact ⟨s'', hs'', hp.trans hp'⟩

/-- Cached sessions stay listed while the engines stay. -/
lemma Lists.mono {i : Nat} {f : Factory} (h : w.Lists i f)
    (hsuffix : w'.environment.store.suffix = w.environment.store.suffix)
    (he : ∀ {i : Nat} {s : EngineState}, w.engines[i]? = some s →
      ∃ s' : EngineState, w'.engines[i]? = some s' ∧ s.SameSeat s') : w'.Lists i f := by
  intro cache hc x hx
  obtain ⟨s, hs, hk, hp⟩ := h cache hc x hx
  obtain ⟨s', hs', hseat⟩ := he hs
  exact ⟨s', hs', hseat.systemKeys.trans hk, by rw [hseat.partition, hp, hsuffix]⟩

/-! ### The environment -/

/-- The environment may change as long as its store grows. -/
lemma Sound.withEnvironment (h : w.Sound m) {env : Environment} (hf : env.faults.Failing)
    (hs : env.store.Sound m) (hg : w.environment.store.Grows env.store) :
    Sound m { w with environment := env } where
  keyServices := h.keyServices
  faults := hf
  store := hs
  length := h.length
  factory := h.factory
  systemKeys hl := by
    obtain ⟨c, hc, hr, hm⟩ := h.systemKeys hl
    refine ⟨c, hc, hr, ?_⟩
    show c.Mirrors fun t => env.store.systemKey m ⟨Factory.systemKeyId _ env.store.suffix, t⟩
    rw [hg.suffix]
    exact hm.mono fun hk => hg.systemKey hk
  engine hl := by
    obtain ⟨f, hf, ho⟩ := h.engine hl
    exact ⟨f, hf, hg.suffix.symm ▸ ho⟩
  intermediateKeys hl := (h.intermediateKeys hl).mono fun hk => hg.intermediateKey hk
  sessions hl := (h.sessions hl).mono hg.suffix fun hs => ⟨_, hs, .refl _⟩

lemma Sound.emit (h : w.Sound m) (event : Event) : (w.emit event).Sound m :=
  h.withEnvironment h.faults h.store (.refl _)

lemma tidies_emit (w : World) (event : Event) : w.Tidies (w.emit event) :=
  ⟨Effect.keeps_log _ event, fun h => ⟨_, h, .refl _⟩, fun h => ⟨_, h, .refl _⟩, id, id⟩

/-! ### Closing -/

lemma getElem?_disposeEngine {i j : Nat} {s' : EngineState}
    (h : (w.disposeEngine i).engines[j]? = some s') :
    ∃ s, w.engines[j]? = some s ∧
      (s' = s ∨ s' = { s with intermediateKeys := s.intermediateKeys.dispose }) := by
  unfold disposeEngine at h
  simp only [List.getElem?_modify] at h
  obtain ⟨s, hs, rfl⟩ := Option.map_eq_some_iff.1 h
  refine ⟨s, hs, ?_⟩
  split
  · exact Or.inr rfl
  · exact Or.inl rfl

lemma tidies_disposeEngine (w : World) (i : Nat) : w.Tidies (w.disposeEngine i) where
  environment := .refl _
  factory hl := ⟨_, hl, .refl _⟩
  engine {j s} hs := by
    unfold disposeEngine
    simp only [List.getElem?_modify, hs]
    refine ⟨_, rfl, ?_⟩
    split <;> exact ⟨rfl, rfl, rfl, rfl⟩
  system he := he
  intermediate he := by
    obtain ⟨s', hs', hid, he⟩ := he
    obtain ⟨s, hs, rfl | rfl⟩ := getElem?_disposeEngine hs'
    · exact ⟨s', hs, hid, he⟩
    · cases he

lemma Sound.disposeEngine (h : w.Sound m) (i : Nat) : (w.disposeEngine i).Sound m where
  keyServices := h.keyServices
  faults := h.faults
  store := h.store
  length := h.length
  factory := h.factory
  systemKeys := h.systemKeys
  engine hl := by
    obtain ⟨s, hs, rfl | rfl⟩ := getElem?_disposeEngine hl
    · exact h.engine hs
    · obtain ⟨f, hf, ho⟩ := h.engine hs
      exact ⟨f, hf, ho.policy, ho.keyService, ho.partition, ho.revokeCheck⟩
  intermediateKeys hl := by
    obtain ⟨s, hs, rfl | rfl⟩ := getElem?_disposeEngine hl
    · exact h.intermediateKeys hs
    · exact KeyCache.mirrors_dispose
  sessions hl := (h.sessions hl).mono rfl (w.tidies_disposeEngine i).engine

lemma getElem?_disposeSystemKeys {i j : Nat} {c' : KeyCache}
    (h : (w.disposeSystemKeys i).systemKeys[j]? = some c') :
    ∃ c, w.systemKeys[j]? = some c ∧ (c' = c ∨ c' = c.dispose) := by
  unfold disposeSystemKeys at h
  simp only [List.getElem?_modify] at h
  obtain ⟨c, hc, rfl⟩ := Option.map_eq_some_iff.1 h
  refine ⟨c, hc, ?_⟩
  split
  · exact Or.inr rfl
  · exact Or.inl rfl

lemma Sound.disposeSystemKeys (h : w.Sound m) (i : Nat) : (w.disposeSystemKeys i).Sound m where
  keyServices := h.keyServices
  faults := h.faults
  store := h.store
  length := by
    unfold World.disposeSystemKeys
    rw [List.length_modify]
    exact h.length
  factory := h.factory
  systemKeys {j f} hl := by
    obtain ⟨c, hc, hr, hm⟩ := h.systemKeys hl
    have hc' : (w.disposeSystemKeys i).systemKeys[j]? =
        some (if i = j then c.dispose else c) := by
      unfold World.disposeSystemKeys
      simp only [List.getElem?_modify, hc]
      split <;> rfl
    refine ⟨_, hc', ?_⟩
    split
    · exact ⟨hr, KeyCache.mirrors_dispose⟩
    · exact ⟨hr, hm⟩
  engine := h.engine
  intermediateKeys := h.intermediateKeys
  sessions := h.sessions

lemma tidies_disposeSystemKeys (w : World) (i : Nat) : w.Tidies (w.disposeSystemKeys i) where
  environment := .refl _
  factory hl := ⟨_, hl, .refl _⟩
  engine hs := ⟨_, hs, .refl _⟩
  system he := by
    obtain ⟨j, f, c', hf, hid, hc', he⟩ := he
    obtain ⟨c, hc, rfl | rfl⟩ := getElem?_disposeSystemKeys hc'
    · exact ⟨j, f, c', hf, hid, hc, he⟩
    · cases he
  intermediate he := he

/-! ### Factories -/

lemma getElem?_set_of_some {α : Type} {l : List α} {i j : Nat} {a b x : α} (hb : l[i]? = some b)
    (h : (l.set i a)[j]? = some x) : (i = j ∧ x = a) ∨ i ≠ j ∧ l[j]? = some x := by
  rw [List.getElem?_set] at h
  split at h
  · next he =>
    subst he
    rw [if_pos (List.getElem?_eq_some_iff.1 hb).1] at h
    exact Or.inl ⟨rfl, (Option.some.inj h).symm⟩
  · next he => exact Or.inr ⟨he, h⟩

lemma set_of_getElem? {α : Type} {l : List α} {i : Nat} {a : α} (h : l[i]? = some a) :
    l.set i a = l := by
  obtain ⟨hi, rfl⟩ := List.getElem?_eq_some_iff.1 h
  exact List.set_getElem_self hi

/-- Puts a factory in the place of another. -/
def setFactory (w : World) (i : Nat) (f : Factory) : World :=
  { w with factories := w.factories.set i f }

lemma getElem?_setFactory {i j : Nat} {f f' f'' : Factory} (hf : w.factories[i]? = some f)
    (hs : f.SameScope f') (h : (w.setFactory i f').factories[j]? = some f'') :
    ∃ f₀, w.factories[j]? = some f₀ ∧ f₀.SameScope f'' := by
  rcases getElem?_set_of_some hf h with ⟨rfl, rfl⟩ | ⟨-, h⟩
  · exact ⟨f, hf, hs⟩
  · exact ⟨f'', h, rfl, rfl, rfl, rfl, rfl⟩

lemma Sound.setFactory (h : w.Sound m) {i : Nat} {f f' : Factory} (hf : w.factories[i]? = some f)
    (hs : f.SameScope f') (hlists : w.Lists i f') : (w.setFactory i f').Sound m where
  keyServices := h.keyServices
  faults := h.faults
  store := h.store
  length := h.length.trans (List.length_set ..).symm
  factory hl := by
    obtain ⟨f₀, hl, hs⟩ := getElem?_setFactory hf hs hl
    rw [hs.keyService, hs.systemKeys]
    exact h.factory hl
  systemKeys hl := by
    obtain ⟨f₀, hl, hs⟩ := getElem?_setFactory hf hs hl
    obtain ⟨c, hc, hr, hm⟩ := h.systemKeys hl
    rw [hs.policy, hs.systemKeyId]
    exact ⟨c, hc, hr, hm⟩
  engine {j s} hl := by
    obtain ⟨f₀, hf₀, ho⟩ := h.engine hl
    show ∃ f₁, (w.factories.set i f')[s.systemKeys]? = some f₁ ∧ _
    by_cases he : i = s.systemKeys
    · subst he
      rw [hf] at hf₀
      cases hf₀
      exact ⟨f', List.getElem?_set_self (List.getElem?_eq_some_iff.1 hf).1, ho.sameScope hs⟩
    · exact ⟨f₀, (List.getElem?_set_ne he).trans hf₀, ho⟩
  intermediateKeys := h.intermediateKeys
  sessions hl := by
    rcases getElem?_set_of_some hf hl with ⟨rfl, rfl⟩ | ⟨-, hl⟩
    · exact hlists
    · exact h.sessions hl

lemma tidies_setFactory {i : Nat} {f f' : Factory} (hf : w.factories[i]? = some f)
    (hs : f.SameScope f') : w.Tidies (w.setFactory i f') where
  environment := .refl _
  factory hl := getElem?_setFactory hf hs hl
  engine hl := ⟨_, hl, .refl _⟩
  system he := by
    obtain ⟨j, f₁, c, hl, hid, hc, he⟩ := he
    obtain ⟨f₀, hl, hs⟩ := getElem?_setFactory hf hs hl
    exact ⟨j, f₀, c, hl, (hs.systemKeyId _).symm.trans hid, hc, he⟩
  intermediate he := he

end World

end Envelope
