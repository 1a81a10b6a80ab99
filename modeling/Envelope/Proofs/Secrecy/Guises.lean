import Envelope.Proofs.Run
import Envelope.Proofs.Secrecy.Outline

/-!
Worlds in disguise.

A guise changes an environment, the keys in caches and the key management services in such a way
that opening, closing, the clocks and revocations do not notice. Two guises are of use: without its
secrets a world looks like any other of its kind, and with another plan of failures it may be known
to be sound.
-/

namespace Envelope

/-- A change of the parts of a world that leaves alone what goes by clocks, ids and times. -/
structure Guise where
  environment : Environment → Environment
  cache : KeyCache → KeyCache
  service : KeyService → KeyService
  clock : ∀ e, (environment e).clock = e.clock
  suffix : ∀ e, (environment e).store.suffix = e.store.suffix
  log : ∀ e event, environment { e with log := e.log ++ [event] } =
    { environment e with log := (environment e).log ++ [event] }
  withClock : ∀ e clock, environment { e with clock } = { environment e with clock }
  revoke : ∀ e id t, environment { e with store := (e.store.revoke id t).2 } =
    { environment e with store := ((environment e).store.revoke id t).2 }
  found : ∀ e id t, ((environment e).store.revoke id t).1 = (e.store.revoke id t).1
  empty : ∀ d, cache (.empty d) = .empty d
  dispose : ∀ c, cache c.dispose = (cache c).dispose

namespace Guise

/-- No secrets. -/
def outline : Guise where
  environment := Environment.outline
  cache := KeyCache.outline
  service _ := .regional []
  clock _ := rfl
  suffix _ := rfl
  log _ _ := rfl
  withClock _ _ := rfl
  revoke e id t := by
    show { e.outline with store := (e.store.revoke id t).2.outline } = _
    rw [Store.outline_revoke]
    rfl
  found e id t := by
    show (e.store.outline.revoke id t).1 = _
    rw [Store.revoke_fst, Store.revoke_fst, Store.load?_outline, Option.isSome_map]
  empty _ := rfl
  dispose _ := rfl

/-- Another plan of failures. -/
def plan (faults : Faults) : Guise where
  environment e := { e with faults }
  cache := id
  service := id
  clock _ := rfl
  suffix _ := rfl
  log _ _ := rfl
  withClock _ _ := rfl
  revoke _ _ _ := rfl
  found _ _ _ := rfl
  empty _ := rfl
  dispose _ := rfl

def engine (g : Guise) (s : EngineState) : EngineState :=
  { s with intermediateKeys := g.cache s.intermediateKeys }

lemma engine_inj {g : Guise} {s s' : EngineState} (h : g.engine s = g.engine s') :
    s'.partition = s.partition ∧ s'.policy = s.policy ∧ s'.systemKeys = s.systemKeys ∧
      g.cache s.intermediateKeys = g.cache s'.intermediateKeys := by
  simp only [engine, EngineState.mk.injEq] at h
  obtain ⟨hp, hpol, -, hkeys, hint⟩ := h
  exact ⟨hp.symm, hpol.symm, hkeys.symm, hint⟩

def workspace (g : Guise) (w : Engine.Workspace) : Engine.Workspace :=
  ⟨g.environment w.environment, g.cache w.systemKeys, g.cache w.intermediateKeys⟩

end Guise

/-- The request leaves payloads and records alone. -/
def Request.IsPlain : Request → Prop
  | .encrypt _ _ | .decrypt _ _ => False
  | _ => True

lemma map_modify {α β : Type} {f : α → β} {g : α → α} {g' : β → β} (h : ∀ a, f (g a) = g' (f a))
    (l : List α) (i : Nat) : (l.modify i g).map f = (l.map f).modify i g' := by
  refine List.ext_getElem? fun j => ?_
  simp only [List.getElem?_map, List.getElem?_modify]
  cases l[j]? with
  | none => rfl
  | some a =>
    simp only [Option.map_some]
    split
    · exact congrArg some (h a)
    · rfl

namespace World

variable (g : Guise) (w : World)

/-- The world in a guise. -/
def under : World where
  environment := g.environment w.environment
  keyServices := w.keyServices.map g.service
  systemKeys := w.systemKeys.map g.cache
  engines := w.engines.map g.engine
  factories := w.factories

/-! ### Closing -/

lemma under_emit (event : Event) : (w.emit event).under g = (w.under g).emit event := by
  simp only [under, emit, g.log]

lemma under_disposeEngine (i : Nat) :
    (w.disposeEngine i).under g = (w.under g).disposeEngine i := by
  simp only [under, disposeEngine, mk.injEq, true_and, and_true]
  refine map_modify (fun s => ?_) w.engines i
  simp only [Guise.engine, g.dispose]

lemma under_disposeSystemKeys (i : Nat) :
    (w.disposeSystemKeys i).under g = (w.under g).disposeSystemKeys i := by
  simp only [under, disposeSystemKeys, mk.injEq, true_and, and_true]
  exact map_modify g.dispose w.systemKeys i

lemma under_evict (a : Admission) : (w.evict a).under g = (w.under g).evict a := by
  have release : ∀ (event : Event) (w : World) (s : CachedSession),
      ((w.under g).emit event).disposeEngine s.engine =
        ((w.emit event).disposeEngine s.engine).under g := fun event w s => by
    rw [under_disposeEngine, under_emit]
  unfold evict
  dsimp only
  rw [List.foldl_hom (under g) fun w s => release (.idleSessionEvicted s.partition) w s]
  cases a.oldest with
  | none => rfl
  | some s => exact (release (.oldestSessionEvicted s.partition) _ s).symm

lemma under_disposeFactory (i : Nat) :
    (w.disposeFactory i).under g = (w.under g).disposeFactory i := by
  have hfactory : (w.under g).factories[i]? = w.factories[i]? := rfl
  unfold disposeFactory
  rw [hfactory]
  cases w.factories[i]? with
  | none => rfl
  | some f =>
    dsimp only
    split
    · rfl
    · rw [under_emit, ← under_disposeSystemKeys]
      have hcached : ∀ (l : List CachedSession) (w : World),
          (l.foldl (fun w s => w.disposeEngine s.engine) w).under g =
            l.foldl (fun w s => w.disposeEngine s.engine) (w.under g) := fun l w =>
        (List.foldl_hom (under g) fun w s => (under_disposeEngine g w s.engine).symm).symm
      exact congrArg (fun w => emit (setFactory w i { f with
        disposed := true, sessions := f.sessions.map (·.clear) })
          (.factoryDisposed f.product f.service)) (hcached _ _)

/-! ### Opening -/

lemma under_addSession (f : Factory) (id : String) :
    (w.addSession f id).under g = (w.under g).addSession f id := by
  have hnew : ∀ p, g.engine ⟨p, f.policy, f.keyService, f.systemKeys, .empty f.policy.revokeCheck⟩ =
      ⟨p, f.policy, f.keyService, f.systemKeys, .empty f.policy.revokeCheck⟩ := fun p => by
    simp only [Guise.engine, g.empty]
  simp only [under, addSession, addEngine, emit, g.log, g.suffix, List.map_append, List.map_cons,
    List.map_nil, hnew]

lemma under_session (i : Nat) (id : String) :
    ((w.session i id).map fun x => (x.1, x.2.under g)) = (w.under g).session i id := by
  unfold session
  show _ = w.factories[i]? >>= _
  cases w.factories[i]? with
  | none => rfl
  | some f =>
    dsimp only [Option.bind_eq_bind, Option.bind_some]
    split
    · rfl
    · split
      · rfl
      · have hlength : (w.under g).engines.length = w.engines.length := List.length_map ..
        have helapsed : (w.under g).environment.clock.elapsed = w.environment.clock.elapsed :=
          congrArg Clock.elapsed (g.clock _)
        rw [hlength, helapsed]
        cases f.sessions with
        | none => simp only [Option.map_some, under_addSession]
        | some cache =>
          let a := cache.request w.environment.clock.elapsed id w.engines.length
          have hopened : (w.opened f id a).under g = (w.under g).opened f id a := by
            unfold opened
            split
            · rw [under_addSession, under_evict]
            · exact under_evict g w a
          exact congrArg (fun w => some (Except.ok a.engine,
            setFactory w i { f with sessions := some a.cache })) hopened

lemma under_addFactory (product service : String) (policy : Policy) :
    (w.addFactory product service policy 0).map (under g) =
      (w.under g).addFactory product service policy 0 := by
  have hkey : (w.under g).keyServices[0]? = (w.keyServices[0]?).map g.service := List.getElem?_map
  unfold addFactory FactorySettings.check
  rw [hkey]
  split
  · rfl
  · split
    · rfl
    · cases w.keyServices[0]? with
      | none => rfl
      | some service =>
        show Except.ok _ = Except.ok _
        refine congrArg Except.ok ?_
        simp only [under, addSystemKeys, List.map_append, List.map_cons, List.map_nil, g.empty,
          List.length_map]

/-! ### Requests -/

/-- **A plain request** does the same in every guise. -/
lemma under_apply {q : Request} (hq : q.IsPlain) : (w.apply q).under g = (w.under g).apply q := by
  have hclock : ∀ clock, under g { w with environment := { w.environment with clock } } =
      { w.under g with environment := { (w.under g).environment with clock } } := fun clock =>
    congrArg (fun e => { w.under g with environment := e }) (g.withClock w.environment clock)
  cases q with
  | openFactory product service policy =>
    unfold apply
    dsimp only
    rw [← under_addFactory]
    cases w.addFactory product service policy 0 <;> rfl
  | openSession factory partition =>
    unfold apply
    dsimp only
    rw [← under_session]
    cases w.session factory partition <;> rfl
  | encrypt session payload => cases hq
  | decrypt session text => cases hq
  | advance d =>
    unfold apply advance
    rw [show (w.under g).environment.clock = w.environment.clock from g.clock _]
    exact hclock _
  | setWall now =>
    unfold apply setWall
    rw [show (w.under g).environment.clock = w.environment.clock from g.clock _]
    exact hclock _
  | revoke keyId created =>
    have hrevoked : under g { w with environment := { w.environment with
        store := (w.environment.store.revoke keyId created).2 } } =
        { w.under g with environment := { (w.under g).environment with
          store := ((w.under g).environment.store.revoke keyId created).2 } } :=
      congrArg (fun e => { w.under g with environment := e })
        (g.revoke w.environment keyId created)
    unfold apply revokeRecord
    dsimp only
    rw [show ((w.under g).environment.store.revoke keyId created).1 = _ from g.found ..,
      ← hrevoked]
    split
    · exact under_emit g _ _
    · rfl
  | closeSession session => exact under_disposeEngine g w session
  | disposeFactory factory => exact under_disposeFactory g w factory

/-- Putting a workspace back does the same in every guise. -/
lemma under_settle (i : Nat) (s : EngineState) (v : Engine.Workspace) :
    (w.settle i s v).under g = (w.under g).settle i (g.engine s) (g.workspace v) := by
  simp only [under, settle, List.map_set]
  rfl

lemma under_plan (faults : Faults) :
    w.under (.plan faults) = { w with environment := { w.environment with faults } } := by
  show World.mk _ (w.keyServices.map id) (w.systemKeys.map id) (w.engines.map id) _ = _
  rw [List.map_id, List.map_id, List.map_id]
  rfl

/-- Plain requests leave the plan of failures alone. -/
lemma faults_apply {q : Request} (hq : q.IsPlain) :
    (w.apply q).environment.faults = w.environment.faults := by
  have happly := under_apply (.plan w.environment.faults) w hq
  rw [under_plan, under_plan] at happly
  exact congrArg (fun w => w.environment.faults) happly.symm

end World

end Envelope
