import Envelope.Proofs.World

/-!
Factories and sessions come and go in a sound world.

A session that is asked for is an engine that the factory has cached or a new one; a full cache
gives one up. Either way the engine belongs to the partition that was asked for.
-/

namespace Envelope.World

variable {m : Key} {w w' w'' : World}

/-! ### Opening -/

lemma getElem?_append_one {α : Type} {l : List α} {i : Nat} {a x : α}
    (h : (l ++ [a])[i]? = some x) : l[i]? = some x ∨ i = l.length ∧ x = a := by
  rw [List.getElem?_append] at h
  split at h
  · exact Or.inl h
  · next hi =>
    have hlt := (List.getElem?_eq_some_iff.1 h).1
    have hi : i = l.length := by
      simp only [List.length_singleton] at hlt
      omega
    subst hi
    rw [Nat.sub_self] at h
    exact Or.inr ⟨rfl, (Option.some.inj h).symm⟩

lemma getElem?_append_of_some {α : Type} {l : List α} {i : Nat} {x : α} (h : l[i]? = some x)
    (a : α) : (l ++ [a])[i]? = some x := by
  rw [List.getElem?_append_left (List.getElem?_eq_some_iff.1 h).1, h]

lemma tidies_addSession (w : World) (f : Factory) (id : String) :
    w.Tidies (w.addSession f id) where
  environment := Effect.keeps_log _ _
  factory hl := ⟨_, hl, .refl _⟩
  engine hl := ⟨_, getElem?_append_of_some hl _, .refl _⟩
  system he := he
  intermediate he := by
    obtain ⟨s, hl, hid, he⟩ := he
    rcases getElem?_append_one hl with hl | ⟨-, rfl⟩
    · exact ⟨s, hl, hid, he⟩
    · cases he

lemma Sound.addSession (h : w.Sound m) {f : Factory} (hf : w.factories[f.systemKeys]? = some f)
    (id : String) : (w.addSession f id).Sound m where
  keyServices := h.keyServices
  faults := h.faults
  store := h.store
  length := h.length
  factory := h.factory
  systemKeys := h.systemKeys
  engine hl := by
    rcases getElem?_append_one hl with hl | ⟨-, rfl⟩
    · exact h.engine hl
    · exact ⟨f, hf, rfl, rfl, ⟨id, rfl⟩, rfl⟩
  intermediateKeys hl := by
    rcases getElem?_append_one hl with hl | ⟨-, rfl⟩
    · exact h.intermediateKeys hl
    · exact KeyCache.mirrors_empty _
  sessions hl := (h.sessions hl).mono rfl (w.tidies_addSession f id).engine

/-- A new factory stands at the end, with an empty cache of its own. -/
lemma addFactory_eq {product service : String} {policy : Policy} {k : Nat}
    (h : w.addFactory product service policy k = .ok w') : w' = { w with
      systemKeys := w.systemKeys ++ [.empty policy.revokeCheck]
      factories := w.factories ++ [⟨product, service, policy, k, w.systemKeys.length,
        if policy.cachesSessions then some (.empty policy.sessionLimit policy.sessionExpiry)
          else none, false⟩] } := by
  obtain ⟨parts, -, h⟩ := Except.bind_eq_ok_iff.1 h
  cases h
  rfl

lemma addFactory_eq_ok {product service : String} {policy : Policy}
    (h : w.addFactory product service policy 0 = .ok w') :
    ∃ sessions, w' = { w with
      systemKeys := w.systemKeys ++ [.empty policy.revokeCheck]
      factories := w.factories ++
        [⟨product, service, policy, 0, w.systemKeys.length, sessions, false⟩] } ∧
      ∀ cache ∈ sessions, cache.sessions = [] := by
  refine ⟨_, addFactory_eq h, fun cache hcache => ?_⟩
  split at hcache
  · cases hcache
    rfl
  · cases hcache

lemma Sound.addFactory (h : w.Sound m) {product service : String} {policy : Policy}
    (ha : w.addFactory product service policy 0 = .ok w') : w'.Sound m := by
  obtain ⟨sessions, rfl, hempty⟩ := addFactory_eq_ok ha
  refine ⟨h.keyServices, h.faults, h.store, ?_, fun hl => ?_, fun hl => ?_, fun hl => ?_,
    h.intermediateKeys, fun hl => ?_⟩
  · simp only [List.length_append, h.length, List.length_singleton]
  · rcases getElem?_append_one hl with hl | ⟨rfl, rfl⟩
    · exact h.factory hl
    · exact ⟨rfl, h.length⟩
  · rcases getElem?_append_one hl with hl | ⟨rfl, rfl⟩
    · obtain ⟨c, hc, hr, hm⟩ := h.systemKeys hl
      exact ⟨c, getElem?_append_of_some hc _, hr, hm⟩
    · refine ⟨.empty policy.revokeCheck, ?_, rfl, KeyCache.mirrors_empty _⟩
      rw [← h.length, List.getElem?_concat_length]
  · obtain ⟨f, hf, ho⟩ := h.engine hl
    exact ⟨f, getElem?_append_of_some hf _, ho⟩
  · rcases getElem?_append_one hl with hl | ⟨-, rfl⟩
    · exact h.sessions hl
    · intro cache hc x hx
      rw [hempty cache hc] at hx
      cases hx

/-- The cache of a new factory holds no keys. -/
lemma Sound.holdsSystem_of_addFactory (h : w.Sound m) {product service : String} {policy : Policy}
    (ha : w.addFactory product service policy 0 = .ok w') {id : String} {t : Time} {e : CachedKey}
    (he : w'.HoldsSystem id t e) : w.HoldsSystem id t e := by
  obtain ⟨sessions, rfl, -⟩ := addFactory_eq_ok ha
  obtain ⟨j, f, c, hl, hid, hc, he⟩ := he
  rcases getElem?_append_one hc with hc | ⟨-, rfl⟩
  · rcases getElem?_append_one hl with hl | ⟨rfl, -⟩
    · exact ⟨j, f, c, hl, hid, hc, he⟩
    · have := (List.getElem?_eq_some_iff.1 hc).1
      rw [h.length] at this
      exact absurd this (Nat.lt_irrefl _)
  · cases he

/-! ### Requests that open and close -/

/-- The second world is the first after engines and caches have been disposed. -/
structure Closes (m : Key) (w w' : World) : Prop where
  sound : w'.Sound m
  tidies : w.Tidies w'
  factories : w'.factories = w.factories
  length : w'.engines.length = w.engines.length

lemma Closes.trans (h : Closes m w w') (h' : Closes m w' w'') : Closes m w w'' :=
  ⟨h'.sound, h.tidies.trans h'.tidies, h'.factories.trans h.factories, h'.length.trans h.length⟩

lemma Sound.closes (h : w.Sound m) : Closes m w w := ⟨h, .refl w, rfl, rfl⟩

lemma Sound.closes_disposeEngine (h : w.Sound m) (i : Nat) : Closes m w (w.disposeEngine i) :=
  ⟨h.disposeEngine i, w.tidies_disposeEngine i, rfl, List.length_modify ..⟩

lemma Sound.closes_foldl (step : World → CachedSession → World)
    (hstep : ∀ {w}, w.Sound m → ∀ s, Closes m w (step w s)) (h : w.Sound m)
    (l : List CachedSession) : Closes m w (l.foldl step w) := by
  induction l generalizing w with
  | nil => exact h.closes
  | cons s rest ih =>
    have hs := hstep h s
    exact hs.trans (ih hs.sound)

lemma Sound.closes_evict (h : w.Sound m) (a : Admission) : Closes m w (w.evict a) := by
  have release : ∀ {w : World}, w.Sound m → ∀ (event : Event) (i : Nat),
      Closes m w ((w.emit event).disposeEngine i) := by
    intro w h event i
    have he : Closes m w (w.emit event) := ⟨h.emit event, w.tidies_emit event, rfl, rfl⟩
    exact he.trans (he.sound.closes_disposeEngine i)
  have idle := h.closes_foldl
    (fun w s => (w.emit (.idleSessionEvicted s.partition)).disposeEngine s.engine)
    (fun h s => release h _ _) a.idle
  unfold evict
  cases a.oldest with
  | none => exact idle
  | some s => exact idle.trans (release idle.sound _ _)

lemma Sound.disposeFactory (h : w.Sound m) (i : Nat) :
    (w.disposeFactory i).Sound m ∧ w.Tidies (w.disposeFactory i) := by
  unfold World.disposeFactory
  cases hf : w.factories[i]? with
  | none => exact ⟨h, .refl w⟩
  | some f =>
    dsimp only
    split
    · exact ⟨h, .refl w⟩
    · have hkeys : Closes m w (w.disposeSystemKeys f.systemKeys) :=
        ⟨h.disposeSystemKeys _, w.tidies_disposeSystemKeys _, rfl, rfl⟩
      have hclosed := hkeys.trans (hkeys.sound.closes_foldl
        (fun w s => w.disposeEngine s.engine) (fun h s => h.closes_disposeEngine _)
        ((f.sessions.map (·.sessions)).getD []))
      have hscope : f.SameScope { f with
          disposed := true, sessions := f.sessions.map (·.clear) } := ⟨rfl, rfl, rfl, rfl, rfl⟩
      have hf' := (congrArg (·[i]?) hclosed.factories).trans hf
      have hlists : Lists (((f.sessions.map (·.sessions)).getD []).foldl
          (fun w s => w.disposeEngine s.engine) (w.disposeSystemKeys f.systemKeys)) i { f with
            disposed := true, sessions := f.sessions.map (·.clear) } := by
        intro cache hc x hx
        obtain ⟨c, -, rfl⟩ := Option.map_eq_some_iff.1 hc
        cases hx
      exact ⟨(hclosed.sound.setFactory hf' hscope hlists).emit _,
        (hclosed.tidies.trans (tidies_setFactory hf' hscope)).trans (tidies_emit _ _)⟩

/-- The world after a session with a cached engine or a new one. -/
def opened (w : World) (f : Factory) (id : String) (a : Admission) : World :=
  if a.isNew then (w.evict a).addSession f id else w.evict a

lemma Sound.opened (h : w.Sound m) {i : Nat} {f : Factory} (hf : w.factories[i]? = some f)
    {cache : SessionCache} (hc : f.sessions = some cache) (id : String) (now : Nat) :
    let a := cache.request now id w.engines.length
    (w.opened f id a).Sound m ∧ w.Tidies (w.opened f id a) ∧
      (w.opened f id a).factories = w.factories ∧
      (w.opened f id a).Lists i { f with sessions := some a.cache } ∧
      ∃ s, (w.opened f id a).engines[a.engine]? = some s ∧
        s.partition = .ofIds id f.service f.product w.environment.store.suffix := by
  intro a
  have hself : w.factories[f.systemKeys]? = some f := by
    rw [(h.factory hf).2, hf]
  have hevict := h.closes_evict a
  have hsuffix := congrArg Store.suffix hevict.tidies.environment.store
  -- a session that was cached before is still there
  have old : ∀ w', w.Tidies w' → ∀ y ∈ cache.sessions, ∃ s, w'.engines[y.engine]? = some s ∧
      s.systemKeys = i ∧
      s.partition = .ofIds y.partition f.service f.product w.environment.store.suffix := by
    intro w' ht y hy
    obtain ⟨s, hs, hk, hp⟩ := h.sessions hf cache hc y hy
    obtain ⟨s', hs', hseat⟩ := ht.engine hs
    exact ⟨s', hs', hseat.systemKeys.trans hk, hseat.partition.trans hp⟩
  have hlisted := cache.mem_request now id w.engines.length
  rcases cache.request_engine now id w.engines.length with ⟨hnew, heng⟩ | ⟨hnew, y, hy, hyp, hye⟩
  · have hw : w.opened f id a = (w.evict a).addSession f id := by
      unfold World.opened
      exact if_pos hnew
    have htidies := hevict.tidies.trans (tidies_addSession (w.evict a) f id)
    have hfresh : ∃ s, ((w.evict a).addSession f id).engines[w.engines.length]? = some s ∧
        s.systemKeys = i ∧
        s.partition = .ofIds id f.service f.product w.environment.store.suffix := by
      let s : EngineState :=
        ⟨.ofIds id f.service f.product (w.evict a).environment.store.suffix, f.policy,
          f.keyService, f.systemKeys, .empty f.policy.revokeCheck⟩
      refine ⟨s, ?_, (h.factory hf).2, congrArg (Partition.ofIds id f.service f.product) hsuffix⟩
      rw [← hevict.length]
      exact List.getElem?_concat_length ..
    rw [hw]
    refine ⟨hevict.sound.addSession ?_ id, htidies, hevict.factories, ?_, ?_⟩
    · rw [hevict.factories, hself]
    · intro cache' hc' x hx
      cases hc'
      show ∃ s : EngineState, _ ∧ _ ∧
        s.partition = .ofIds _ _ _ (w.evict a).environment.store.suffix
      rw [hsuffix]
      rcases hlisted x hx with ⟨y, hy, hp, he⟩ | ⟨-, hp, he⟩
      · rw [hp, he]
        exact old _ htidies y hy
      · rw [hp, he]
        exact hfresh
    · obtain ⟨s, hs, -, hp⟩ := hfresh
      exact ⟨s, heng ▸ hs, hp⟩
  · have hw : w.opened f id a = w.evict a := by
      unfold World.opened
      exact if_neg (by rw [hnew]; exact Bool.false_ne_true)
    rw [hw]
    refine ⟨hevict.sound, hevict.tidies, hevict.factories, ?_, ?_⟩
    · intro cache' hc' x hx
      cases hc'
      rw [hsuffix]
      rcases hlisted x hx with ⟨y, hy, hp, he⟩ | ⟨hnew', -⟩
      · rw [hp, he]
        exact old _ hevict.tidies y hy
      · rw [hnew] at hnew'
        cases hnew'
    · obtain ⟨s, hs, -, hp⟩ := old _ hevict.tidies y hy
      exact ⟨s, hye ▸ hs, hyp ▸ hp⟩

/-- **A session** that is opened is an engine for its partition. -/
theorem Sound.session (h : w.Sound m) {i : Nat} {id : String} {r : Except Error Nat}
    (hs : w.session i id = some (r, w')) : w'.Sound m ∧ w.Tidies w' ∧
      ∀ n, r = .ok n → ∃ f s, w.factories[i]? = some f ∧ w'.engines[n]? = some s ∧
        s.partition = .ofIds id f.service f.product w.environment.store.suffix := by
  unfold World.session at hs
  cases hf : w.factories[i]? with
  | none =>
    rw [hf] at hs
    cases hs
  | some f =>
    rw [hf] at hs
    dsimp only [Option.bind_eq_bind, Option.bind_some] at hs
    split at hs
    · cases hs
      exact ⟨h, .refl w, nofun⟩
    · split at hs
      · cases hs
        exact ⟨h, .refl w, nofun⟩
      · split at hs
        · cases hs
          have hself : w.factories[f.systemKeys]? = some f := by
            rw [(h.factory hf).2, hf]
          refine ⟨h.addSession hself id, w.tidies_addSession f id, fun n hn => ?_⟩
          cases hn
          exact ⟨f, _, rfl, List.getElem?_concat_length .., rfl⟩
        · next cache hcache =>
          cases hs
          obtain ⟨hsound, htidies, hfactories, hlists, s, hs, hp⟩ :=
            h.opened hf hcache id w.environment.clock.elapsed
          have hf' := (congrArg (·[i]?) hfactories).trans hf
          let a := cache.request w.environment.clock.elapsed id w.engines.length
          have hscope : f.SameScope { f with sessions := some a.cache } :=
            ⟨rfl, rfl, rfl, rfl, rfl⟩
          refine ⟨hsound.setFactory hf' hscope hlists,
            htidies.trans (tidies_setFactory hf' hscope), fun n hn => ?_⟩
          cases hn
          exact ⟨f, s, rfl, hs, hp⟩

end Envelope.World
