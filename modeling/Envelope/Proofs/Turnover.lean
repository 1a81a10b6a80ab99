import Mathlib.Logic.Relation
import Envelope.Proofs.FirstWrite
import Envelope.Proofs.Recency
import Envelope.Proofs.Stewardship

/-!
# Session cache and engines stay in step

What leaves the session cache of a factory, for being idle, for being the least recently used or
because the factory is disposed, is disposed with it and stays so, whoever still has a session of
it and whatever is done afterwards.
-/

namespace Envelope.World

open Relation

variable {w w' : World} {i n : Nat} {f : Factory} {cache : SessionCache} {id : String}

/-! ### Runs -/

/-- Something that is done with factories and sessions: a request, but for the disposal of a single
engine, which no holder of a session has at hand; a session may also be opened with another choice
among those with the least last use. -/
inductive Acts (w : World) : World → Prop
  | applied (q : Request) (hq : ∀ n, q ≠ .closeSession n) : Acts w (w.apply q)
  | opened (i : Nat) (id : String) (r : Except Error Nat) (w' : World)
      (ho : w.Opens i id r w') : Acts w w'

/-- **One step** concerns one factory at most and leaves it in order. -/
theorem Acts.settles (hs : w.Acts w') (h : w.Tended) : ∃ j, w.Settles j w' := by
  have hself : w.Settles 0 w := h.settles_self
  cases hs with
  | opened i id r w' ho => exact ⟨i, ho.settles h⟩
  | applied q hq =>
    cases q with
    | openFactory product service policy =>
      cases ha : w.addFactory product service policy 0 with
      | error err => exact ⟨0, by simpa [apply, ha] using hself⟩
      | ok w' => exact ⟨_, by simpa [apply, ha] using h.settles_addFactory ha⟩
    | openSession i id =>
      cases hf : w.factories[i]? with
      | none => exact ⟨0, by simpa [apply, session, hf] using hself⟩
      | some f =>
        obtain ⟨r, w', hs, ho⟩ := h.session_opens hf id
        exact ⟨i, by simpa [apply, hs] using ho.settles h⟩
    | encrypt n payload =>
      cases he : w.encrypt n payload with
      | none => exact ⟨0, by simpa [apply, he] using hself⟩
      | some result =>
        exact ⟨0, by simpa [apply, he] using h.settles_of_retires (retires_encrypt he)⟩
    | decrypt n text =>
      cases he : w.decrypt n text with
      | none => exact ⟨0, by simpa [apply, he] using hself⟩
      | some result =>
        exact ⟨0, by simpa [apply, he] using h.settles_of_retires (retires_decrypt he)⟩
    | advance d => exact ⟨0, h.settles_withEnvironment (Nat.le_add_right _ _) rfl⟩
    | setWall now => exact ⟨0, h.settles_withEnvironment (Nat.le_refl _) rfl⟩
    | revoke keyId created =>
      obtain ⟨log, hlog⟩ := w.apply_revoke keyId created
      rw [hlog]
      exact ⟨0, h.settles_withEnvironment (Nat.le_refl _)
        (w.environment.store.grows_revoke keyId created).suffix⟩
    | closeSession n => exact absurd rfl (hq n)
    | disposeFactory i => exact ⟨i, h.settles_disposeFactory i⟩

/-- **A run** keeps every factory in order; no factory and no engine comes back from disposal. -/
theorem Tended.run (h : w.Tended) (hr : ReflTransGen Acts w w') :
    w'.Tended ∧ ∀ i, w.Ages i w' := by
  induction hr with
  | refl => exact ⟨h, .refl w⟩
  | tail _ hs ih =>
    obtain ⟨j, hsettles⟩ := hs.settles ih.1
    exact ⟨hsettles.tended ih.1, fun i => (ih.2 i).trans (hsettles.ages_all i)⟩

/-- A run of requests is a run, if it disposes no single engine. -/
lemma acts_run (w : World) {requests : List Request}
    (h : ∀ q ∈ requests, ∀ n, q ≠ .closeSession n) : ReflTransGen Acts w (w.run requests) := by
  induction requests generalizing w with
  | nil => exact .refl
  | cons q rest ih =>
    obtain ⟨hq, hrest⟩ := List.forall_mem_cons.1 h
    exact .head (.applied q hq) (ih (w.apply q) hrest)

lemma tended_start (env : Environment) (service : KeyService) :
    ((ofEnvironment env).addKeyService service).Tended :=
  ⟨rfl, fun _ => ⟨fun _ _ => rfl, fun _ hf => nomatch hf⟩⟩

/-! ### What a factory answers -/

/-- A factory with a session cache answers as a desk does that numbers engines as the world does. -/
theorem session_eq_answer (hf : w.factories[i]? = some f) (hid : id ≠ "")
    (hd : f.disposed = false) (hs : f.sessions = some cache) :
    let d : Desk := ⟨cache, w.engines.length⟩
    let q : Demand := ⟨w.environment.clock.elapsed, id⟩
    ∃ w', w.session i id = some (.ok (d.answer q).engine, w') ∧
      w'.factories[i]? = some { f with sessions := some (d.serve q).cache } ∧
      w'.engines.length = (d.serve q).made := by
  intro d q
  refine ⟨(w.opened f id (d.answer q)).setFactory i { f with sessions := some (d.serve q).cache },
    ?_, getElem?_setFactory_opened hf, ?_⟩
  · simp only [World.session, hf, Option.bind_eq_bind, Option.bind_some, if_neg hid, hd,
      Bool.false_eq_true, if_false, hs]
    rfl
  · have hevict := (w.retires_evict (d.answer q)).length
    show (w.opened f id (d.answer q)).engines.length = if (d.answer q).isNew then _ else _
    unfold World.opened
    split
    · show ((w.evict (d.answer q)).engines ++ [_]).length = _
      rw [List.length_append, hevict]
      rfl
    · exact hevict

/-! ### What that comes to -/

/-- The intermediate keys of an engine have been let go, and it keeps none. -/
def Spent (w : World) (n : Nat) : Prop :=
  ∃ s : EngineState, w.engines[n]? = some s ∧ s.intermediateKeys.isDisposed = true ∧
    s.intermediateKeys.isEmpty = true

/-- Sessions and engines are in step. The engines of a factory are those that share its system key
cache. -/
structure KeepsPace (w : World) (f : Factory) (cache : SessionCache) : Prop where
  size : cache.sessions.length ≤ f.policy.sessionLimit
  once : (cache.sessions.map (·.partition)).Nodup
  listed : ∀ x ∈ cache.sessions, ∃ s : EngineState, w.engines[x.engine]? = some s ∧
    s.systemKeys = f.systemKeys ∧
    s.partition = .ofIds x.partition f.service f.product w.environment.store.suffix
  undisposed : ∀ n s, w.engines[n]? = some s → s.systemKeys = f.systemKeys →
    (s.intermediateKeys.isDisposed = false ↔ ∃ x ∈ cache.sessions, x.engine = n)
  spent : ∀ n s, w.engines[n]? = some s → s.systemKeys = f.systemKeys →
    (∀ x ∈ cache.sessions, x.engine ≠ n) → ∀ w', ReflTransGen Acts w w' → w'.Spent n

/-- The session cache of a factory and its system key cache are empty, and it opens no session. -/
structure Closed (w : World) (i : Nat) (f : Factory) : Prop where
  sessions : ∃ cache, f.sessions = some cache ∧ cache.sessions = []
  systemKeys : ∃ c, w.systemKeys[f.systemKeys]? = some c ∧ c.isDisposed = true ∧ c.isEmpty = true
  session : ∀ id, id ≠ "" → w.session i id = some (.error (.application .factoryDisposed), w)
  opens : ∀ id r w', id ≠ "" → w.Opens i id r w' →
    r = .error (.application .factoryDisposed) ∧ w' = w

lemma spent_of_tenure (h : w.tenure i n = some (p, false)) : w.Spent n := by
  obtain ⟨s, hs, -, -, hheld⟩ := tenure_eq_some.1 h
  exact ⟨s, hs, KeyCache.isEmpty_of_held hheld⟩

/-- A cache in order is in step. -/
lemma Attends.keepsPace (h : w.Attends i f cache) (ht : w.Tended) (hi : f.systemKeys = i)
    (hlimit : 1 ≤ f.policy.sessionLimit) : w.KeepsPace f cache := by
  have hne : cache.limit ≠ 0 := by rw [h.limit]; omega
  subst hi
  refine ⟨h.limit ▸ h.tidy.size, h.tidy.nodup, fun x hx => ?_, fun n s hs hk => ?_,
    fun n s hs hk habsent w' hr => ?_⟩
  · obtain ⟨s, hs, hk, hp, -⟩ := tenure_eq_some.1 (h.listed x hx)
    exact ⟨s, hs, hk, hp⟩
  · constructor
    · intro hd
      refine h.kept hne n s.partition (tenure_eq_some.2 ⟨s, hs, hk, rfl, ?_⟩)
      simpa [KeyCache.isDisposed] using hd
    · rintro ⟨x, hx, rfl⟩
      obtain ⟨s', hs', -, -, hheld⟩ := tenure_eq_some.1 (h.listed x hx)
      cases hs.symm.trans hs'
      simpa [KeyCache.isDisposed] using hheld
  · have htenure : w.tenure f.systemKeys n = some (s.partition, s.intermediateKeys.held.isSome) :=
      tenure_eq_some.2 ⟨s, hs, hk, rfl, rfl⟩
    cases hheld : s.intermediateKeys.held.isSome with
    | true =>
      obtain ⟨x, hx, he⟩ := h.kept hne n _ (hheld ▸ htenure)
      exact absurd he (habsent x hx)
    | false =>
      exact spent_of_tenure (((ht.run hr).2 _).retired n _ (hheld ▸ htenure))

/-- Right after a session has been opened, the other sessions listed are not idle. -/
lemma Opens.listed (ho : w.Opens i id (.ok n) w') (h : w.Tended) (hf : w.factories[i]? = some f)
    (hcaches : f.policy.cachesSessions = true) (hlimit : 1 ≤ f.policy.sessionLimit) :
    ∃ f' cache, w'.factories[i]? = some f' ∧ f'.sessions = some cache ∧
      (∃ x ∈ cache.sessions, x.partition = id ∧ x.engine = n) ∧
      ∀ x ∈ cache.sessions, x.engine ≠ n →
        w'.environment.clock.elapsed - x.lastUsed < f.policy.sessionExpiry.nanos := by
  have ht := (h.orderly i).tends f hf
  cases ho with
  | made f₁ hf₁ _ _ hs =>
    cases hf.symm.trans hf₁
    have hsome := ht.sessions
    rw [hs, hcaches] at hsome
    cases hsome
  | granted f₁ cache a hf₁ _ _ hs g =>
    cases hf.symm.trans hf₁
    have hattends := ht.attends cache hs
    have hne : cache.limit ≠ 0 := by rw [hattends.limit]; omega
    refine ⟨_, a.cache, getElem?_setFactory_opened hf, rfl,
      ⟨_, g.answer_mem hattends.tidy hne, rfl, rfl⟩, fun x hx hxn => ?_⟩
    show (w.opened f id a).environment.clock.elapsed - x.lastUsed < _
    rw [(w.retains_opened f id a).elapsed, ← hattends.expiry]
    rcases g.mem hattends.tidy hne hx with rfl | ⟨halive, -⟩
    · exact absurd rfl hxn
    · exact (SessionCache.mem_alive.1 halive).2

/-- A factory that is disposed is closed. -/
lemma Tends.isClosed (h : w.Tends i f) (hf : w.factories[i]? = some f)
    (hd : f.disposed = true) (hcaches : f.policy.cachesSessions = true) : w.Closed i f := by
  obtain ⟨hempty, hkeys⟩ := h.disposed hd
  refine ⟨?_, ?_, fun id hid => by simp [World.session, hf, hid, hd], fun id r w' hid ho => ?_⟩
  · obtain ⟨cache, hs⟩ := Option.isSome_iff_exists.1 (h.sessions.trans hcaches)
    exact ⟨cache, hs, hempty cache hs⟩
  · obtain ⟨c, hc, hheld⟩ := Option.map_eq_some_iff.1 hkeys
    exact ⟨c, h.number.symm ▸ hc, KeyCache.isEmpty_of_held hheld⟩
  · cases ho with
    | unnamed _ _ hid' => exact absurd hid' hid
    | refused => exact ⟨rfl, rfl⟩
    | made f₁ hf₁ _ hd₁ _ | granted f₁ _ _ hf₁ _ hd₁ _ _ =>
      cases hf.symm.trans hf₁
      rw [hd] at hd₁
      cases hd₁

/-- **Sessions and engines stay in step**, whatever is done in whatever order and whichever of
several sessions with the least last use goes. The engines of a factory that are not disposed are
those it has cached, at most as many as its limit, one for a partition id and of that partition;
an engine that has left the cache holds no keys and never does again. A request for a session is
answered, and leaves no other session listed that has been idle for the expiry time. Once the
factory is disposed it caches neither sessions nor system keys for ever, and opens no session. -/
theorem sessions_in_step (env : Environment) (service : KeyService)
    (hw : ReflTransGen Acts ((ofEnvironment env).addKeyService service) w)
    (hf : w.factories[i]? = some f) (hcaches : f.policy.cachesSessions = true)
    (hlimit : 1 ≤ f.policy.sessionLimit) :
    (∃ cache, f.sessions = some cache ∧ w.KeepsPace f cache) ∧
    (∀ id, (∃ r w', w.session i id = some (r, w') ∧ w.Opens i id r w') ∧
      ∀ n w', w.Opens i id (.ok n) w' →
        ∃ f' cache, w'.factories[i]? = some f' ∧ f'.sessions = some cache ∧
          (∃ x ∈ cache.sessions, x.partition = id ∧ x.engine = n) ∧
          ∀ x ∈ cache.sessions, x.engine ≠ n →
            w'.environment.clock.elapsed - x.lastUsed < f.policy.sessionExpiry.nanos) ∧
    ∀ w', ReflTransGen Acts (w.disposeFactory i) w' →
      ∃ f', w'.factories[i]? = some f' ∧ f.SameScope f' ∧ w'.Closed i f' := by
  have ht : w.Tended := ((tended_start env service).run hw).1
  have htends := (ht.orderly i).tends f hf
  refine ⟨?_, fun id => ⟨ht.session_opens hf id, fun n w' ho => ?_⟩, fun w' hr => ?_⟩
  · obtain ⟨cache, hs⟩ := Option.isSome_iff_exists.1 (htends.sessions.trans hcaches)
    exact ⟨cache, hs, (htends.attends cache hs).keepsPace ht htends.number hlimit⟩
  · exact ho.listed ht hf hcaches hlimit
  · have hdisposed := ht.settles_disposeFactory i
    obtain ⟨ht', hages⟩ := (hdisposed.tended ht).run hr
    obtain ⟨f₁, hf₁, hd₁⟩ := disposed_disposeFactory hf
    obtain ⟨f', hf', hs, hd⟩ := (hages i).factory f₁ hf₁
    obtain ⟨f₂, hf₂, hs₁, -⟩ := hdisposed.ages.factory f hf
    cases hf₁.symm.trans hf₂
    have hscope := hs₁.trans hs
    exact ⟨f', hf', hscope,
      ((ht'.orderly i).tends f' hf').isClosed hf' (hd hd₁) (hscope.policy ▸ hcaches)⟩

/-- A session cache with room for one: the second session drives the first one out. -/
theorem first_session_spent :
    let policy : Policy := { Policy.never with cachesSessions := true, sessionLimit := 1 }
    let w := (start .zeros none .epoch (.ofSeed 0)).run
      [.openFactory "product" "service" policy, .openSession 0 "one", .openSession 0 "other"]
    let f : Factory := ⟨"product", "service", policy, 0, 0,
      some ⟨1, policy.sessionExpiry, [⟨"other", 1, 0⟩]⟩, false⟩
    w.factories[0]? = some f ∧ w.Spent 0 ∧ (∃ r, w.session 0 "one" = some r) ∧
      ∃ f', (w.disposeFactory 0).factories[0]? = some f' ∧ (w.disposeFactory 0).Closed 0 f' := by
  intro policy w f
  have hf : w.factories[0]? = some f := rfl
  have hrun : ReflTransGen Acts (start .zeros none .epoch (.ofSeed 0)) w :=
    acts_run _ (by simp)
  obtain ⟨⟨cache, hs, hstep⟩, hsession, hclosed⟩ :=
    sessions_in_step _ (.master .zeros) hrun hf rfl (Nat.le_refl 1)
  cases hs
  refine ⟨hf, ?_, ?_, ?_⟩
  · exact hstep.spent 0 _ rfl rfl (by decide) w .refl
  · obtain ⟨⟨r, w', hr, -⟩, -⟩ := hsession "one"
    exact ⟨_, hr⟩
  · obtain ⟨f', hf', -, hc⟩ := hclosed _ .refl
    exact ⟨f', hf', hc⟩

end Envelope.World
