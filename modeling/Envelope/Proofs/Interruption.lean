import Envelope.Proofs.Collaborators

/-!
Planned failures cut a computation short and do nothing else to it.

Run under a plan, a computation of an engine either meets no failure and goes as if none was
planned, or ends with the first one it meets. In the second case all it has stored by then is what
it would have stored without a plan.
-/

namespace Envelope

open Envelope.Action

/-! ### Plans -/

/-- The calls that led from the first queue to the second went through. -/
def Spent {α : Type} (l l' : List (Option α)) : Prop := ∃ n, l = List.replicate n none ++ l'

lemma Spent.refl {α : Type} (l : List (Option α)) : Spent l l := ⟨0, rfl⟩

lemma Spent.trans {α : Type} {l l' l'' : List (Option α)} (h : Spent l l') (h' : Spent l' l'') :
    Spent l l'' := by
  obtain ⟨n, rfl⟩ := h
  obtain ⟨k, rfl⟩ := h'
  exact ⟨n + k, by rw [← List.append_assoc, List.replicate_append_replicate]⟩

lemma spent_nextFault {α : Type} {l : List (Option α)} (h : (nextFault l).1 = none) :
    Spent l (nextFault l).2 := by
  cases l with
  | nil => exact .refl _
  | cons x rest =>
    obtain rfl : x = none := h
    exact ⟨1, rfl⟩

lemma eq_cons_of_nextFault {α : Type} {l : List (Option α)} {x : α}
    (h : (nextFault l).1 = some x) : l = some x :: (nextFault l).2 := by
  cases l with
  | nil => cases h
  | cons y rest =>
    obtain rfl : y = some x := h
    rfl

namespace Faults

/-- The second plan is what the first leaves after calls of any kind that all went through. -/
structure Clears (f f' : Faults) : Prop where
  latest : Spent f.latest f'.latest
  load : Spent f.load f'.load
  insert : Spent f.insert f'.insert
  wrap : Spent f.wrap f'.wrap
  unwrap : Spent f.unwrap f'.unwrap

/-- The next call of some kind fails with the error and leaves the second plan. -/
inductive Strikes (f : Faults) (err : Error) : Faults → Prop where
  | latest (rest : List (Option LookupFault)) (next : f.latest = some (.fail err) :: rest) :
    Strikes f err { f with latest := rest }
  | load (rest : List (Option LookupFault)) (next : f.load = some (.fail err) :: rest) :
    Strikes f err { f with load := rest }
  | insert (rest : List (Option InsertFault)) (next : f.insert = some (.fail err) :: rest) :
    Strikes f err { f with insert := rest }
  | refused (rest : List (Option InsertFault)) (next : f.insert = some (.refused err) :: rest) :
    Strikes f err { f with insert := rest }
  | wrap (rest : List (Option Error)) (next : f.wrap = some err :: rest) :
    Strikes f err { f with wrap := rest }
  | unwrap (rest : List (Option Error)) (next : f.unwrap = some err :: rest) :
    Strikes f err { f with unwrap := rest }

/-- After calls that went through, one failed with the error. -/
def Halts (f : Faults) (err : Error) (f' : Faults) : Prop := ∃ g, f.Clears g ∧ g.Strikes err f'

variable {f f' f'' : Faults} {err : Error}

lemma Clears.refl (f : Faults) : f.Clears f := ⟨.refl _, .refl _, .refl _, .refl _, .refl _⟩

lemma Clears.trans (h : f.Clears f') (h' : f'.Clears f'') : f.Clears f'' :=
  ⟨h.latest.trans h'.latest, h.load.trans h'.load, h.insert.trans h'.insert,
    h.wrap.trans h'.wrap, h.unwrap.trans h'.unwrap⟩

lemma Clears.halts (h : f.Clears f') (h' : f'.Halts err f'') : f.Halts err f'' := by
  obtain ⟨g, hg, hstrike⟩ := h'
  exact ⟨g, h.trans hg, hstrike⟩

lemma Strikes.halts (h : f.Strikes err f') : f.Halts err f' := ⟨f, .refl f, h⟩

lemma Clears.leaves (h : f.Clears f') : f.Leaves f' := by
  have suffix : ∀ {α : Type} {l l' : List (Option α)}, Spent l l' → l' <:+ l := by
    rintro α l l' ⟨n, rfl⟩
    exact List.suffix_append _ _
  exact ⟨suffix h.latest, suffix h.load, suffix h.insert, suffix h.wrap, suffix h.unwrap⟩

/-- Without a plan, none comes up. -/
lemma Clears.eq_none (h : Faults.none.Clears f) : f = .none := h.leaves.eq_none

/-- Without a plan, no call fails. -/
lemma not_halts_none (err : Error) (f : Faults) : ¬ Faults.none.Halts err f := by
  rintro ⟨g, hg, hstrike⟩
  obtain rfl := hg.eq_none
  cases hstrike <;> next h => cases h

end Faults

/-! ### Computations under a plan -/

/-- States that have an environment and can do without the failures planned in it. -/
class Planned (σ : Type) where
  environment : σ → Environment
  /-- The same state with no failure planned. -/
  calm : σ → σ
  environment_calm : ∀ s, environment (calm s) = { environment s with faults := .none }

instance : Planned Environment where
  environment := id
  calm e := { e with faults := .none }
  environment_calm _ := rfl

instance : Planned Engine.Workspace where
  environment w := w.environment
  calm w := { w with environment := { w.environment with faults := .none } }
  environment_calm _ := rfl

open Planned (environment calm environment_calm)

/-- How a run goes under a plan, beside the run from the same state without one. -/
inductive Cut {σ α : Type} [Planned σ] (s : σ) (run calmRun : Except Error α × σ) : Prop where
  | through (clears : (environment s).faults.Clears (environment run.2).faults)
      (same : calmRun = (run.1, calm run.2))
  | short (err : Error) (error : run.1 = .error err)
      (halts : (environment s).faults.Halts err (environment run.2).faults)
      (store : (environment run.2).store.Extends (environment calmRun.2).store)

/-- A planned failure ends the computation where it meets it. The store only grows. -/
def Abrupt {σ α : Type} [Planned σ] (a : Action σ Error α) : Prop :=
  ∀ s : σ, (environment s).faults.Failing →
    (environment s).store.Extends (environment (a.outcome s).2).store ∧
      Cut s (a.outcome s) (a.outcome (calm s))

section Composition

variable {σ α β : Type} [Planned σ] {s : σ}

lemma store_calm (s : σ) : (environment (calm s)).store = (environment s).store := by
  rw [environment_calm]

lemma faults_calm (s : σ) : (environment (calm s)).faults = .none := by
  rw [environment_calm]

/-- A computation that knows nothing of plans and leaves the store alone. -/
lemma abrupt_of_quiet {a : Action σ Error α}
    (hstore : ∀ s, (environment (a.outcome s).2).store = (environment s).store)
    (hfaults : ∀ s, (environment (a.outcome s).2).faults = (environment s).faults)
    (hcalm : ∀ s, a.outcome (calm s) = ((a.outcome s).1, calm (a.outcome s).2)) : Abrupt a :=
  fun s _ => ⟨hstore s ▸ .refl _, .through (hfaults s ▸ .refl _) (hcalm s)⟩

lemma abrupt_pure (x : α) : Abrupt (pure x : Action σ Error α) :=
  abrupt_of_quiet (fun _ => rfl) (fun _ => rfl) fun _ => rfl

lemma abrupt_throw (err : Error) : Abrupt (throw err : Action σ Error α) :=
  abrupt_of_quiet (fun _ => rfl) (fun _ => rfl) fun _ => rfl

lemma abrupt_ofExcept (r : Except Error α) : Abrupt (Action.ofExcept r : Action σ Error α) :=
  abrupt_of_quiet (fun _ => rfl) (fun _ => rfl) fun _ => rfl

/-- **One computation after another**: a failure met in the first is the end of both, and what the
second would have stored comes on top. -/
lemma Abrupt.bind {a : Action σ Error β} {f : β → Action σ Error α} (ha : Abrupt a)
    (hf : ∀ x, Abrupt (f x)) : Abrupt (a >>= f) := by
  intro s hs
  -- whatever comes after the first computation, the store has grown from where that left it
  have later : ∀ s, (environment (a.outcome s).2).faults.Failing →
      (environment (a.outcome s).2).store.Extends
        (environment ((a >>= f).outcome s).2).store := by
    intro s ht
    rw [outcome_bind]
    rcases hrun : a.outcome s with ⟨_ | x, t⟩ <;> rw [hrun] at ht
    · exact .refl _
    · exact (hf x t ht).1
  obtain ⟨hstore, hcut⟩ := ha s hs
  cases hcut with
  | through clears same =>
    have ht := clears.leaves.failing hs
    refine ⟨hstore.trans (later s ht), ?_⟩
    rw [outcome_bind, outcome_bind, same]
    rcases hrun : a.outcome s with ⟨err | x, t⟩ <;> rw [hrun] at clears ht
    · exact .through clears rfl
    · obtain ⟨-, hcut⟩ := hf x t ht
      cases hcut with
      | through clears' same' => exact .through (clears.trans clears') same'
      | short err error halts store => exact .short err error (clears.halts halts) store
  | short err error halts store =>
    have hbind : (a >>= f).outcome s = (.error err, (a.outcome s).2) := by
      rw [outcome_bind]
      rcases hrun : a.outcome s with ⟨_ | x, t⟩ <;> rw [hrun] at error <;> cases error
      rfl
    have hnone : (environment (calm s)).faults.Failing := faults_calm s ▸ Faults.failing_none
    have hcalm : (environment (a.outcome (calm s)).2).faults.Failing := by
      cases (ha (calm s) hnone).2 with
      | through clears same => exact clears.leaves.failing hnone
      | short err error halts store =>
        rw [faults_calm] at halts
        exact absurd halts (Faults.not_halts_none _ _)
    rw [hbind]
    exact ⟨hstore, .short err rfl halts (store.trans (later _ hcalm))⟩

end Composition

namespace Effect

/-! ### Collaborators -/

/-- The computation takes the next planned failure of some kind, if there is one. `P` says with
which error the call fails then. -/
structure Draws {β : Type} (next : Effect (Option β)) (P : β → Error → Prop) : Prop where
  idle : ∀ e : Environment, next.outcome (calm e) = (.ok none, calm e)
  draws : ∀ e : Environment, e.faults.Failing → ∃ faults,
    (next.outcome e = (.ok none, { e with faults }) ∧ e.faults.Clears faults) ∨
      ∃ x err, next.outcome e = (.ok (some x), { e with faults }) ∧ P x err ∧
        e.faults.Strikes err faults

lemma draws_of_queue {β : Type} {next : Effect (Option β)} {P : β → Error → Prop}
    (queue : Faults → List (Option β)) (rest : Faults → Faults)
    (hnext : ∀ e, next.outcome e =
      (.ok (nextFault (queue e.faults)).1, { e with faults := rest e.faults }))
    (hidle : ∀ e : Environment, next.outcome (calm e) = (.ok none, calm e))
    (hclears : ∀ f, (nextFault (queue f)).1 = none → f.Clears (rest f))
    (hstrikes : ∀ f x, f.Failing → (nextFault (queue f)).1 = some x →
      ∃ err, P x err ∧ f.Strikes err (rest f)) : Draws next P where
  idle := hidle
  draws e he := by
    refine ⟨rest e.faults, ?_⟩
    rw [hnext]
    cases hn : (nextFault (queue e.faults)).1 with
    | none => exact .inl ⟨rfl, hclears _ hn⟩
    | some x =>
      obtain ⟨err, hx, hstrikes⟩ := hstrikes _ x he hn
      exact .inr ⟨x, err, rfl, hx, hstrikes⟩

lemma draws_latest : Draws nextLatestFault fun x err => x = .fail err := by
  refine draws_of_queue (·.latest) (fun f => { f with latest := (nextFault f.latest).2 })
    (fun _ => rfl) (fun _ => rfl) (fun f hn => ?_) fun f x hf hn => ?_
  · exact { Faults.Clears.refl f with latest := spent_nextFault hn }
  · obtain ⟨err, rfl⟩ := hf.latest x (mem_of_nextFault hn)
    exact ⟨err, rfl, .latest _ (eq_cons_of_nextFault hn)⟩

lemma draws_load : Draws nextLoadFault fun x err => x = .fail err := by
  refine draws_of_queue (·.load) (fun f => { f with load := (nextFault f.load).2 })
    (fun _ => rfl) (fun _ => rfl) (fun f hn => ?_) fun f x hf hn => ?_
  · exact { Faults.Clears.refl f with load := spent_nextFault hn }
  · obtain ⟨err, rfl⟩ := hf.load x (mem_of_nextFault hn)
    exact ⟨err, rfl, .load _ (eq_cons_of_nextFault hn)⟩

lemma draws_insert : Draws nextInsertFault fun x err => x = .fail err ∨ x = .refused err := by
  refine draws_of_queue (·.insert) (fun f => { f with insert := (nextFault f.insert).2 })
    (fun _ => rfl) (fun _ => rfl) (fun f hn => ?_) fun f x hf hn => ?_
  · exact { Faults.Clears.refl f with insert := spent_nextFault hn }
  · obtain ⟨err, hx⟩ := hf.insert x (mem_of_nextFault hn)
    refine ⟨err, hx, ?_⟩
    rcases hx with rfl | rfl
    · exact .insert _ (eq_cons_of_nextFault hn)
    · exact .refused _ (eq_cons_of_nextFault hn)

lemma draws_wrap : Draws nextWrapFault fun x err => x = err := by
  refine draws_of_queue (·.wrap) (fun f => { f with wrap := (nextFault f.wrap).2 })
    (fun _ => rfl) (fun _ => rfl) (fun f hn => ?_) fun f x _ hn => ?_
  · exact { Faults.Clears.refl f with wrap := spent_nextFault hn }
  · exact ⟨x, rfl, .wrap _ (eq_cons_of_nextFault hn)⟩

lemma draws_unwrap : Draws nextUnwrapFault fun x err => x = err := by
  refine draws_of_queue (·.unwrap) (fun f => { f with unwrap := (nextFault f.unwrap).2 })
    (fun _ => rfl) (fun _ => rfl) (fun f hn => ?_) fun f x _ hn => ?_
  · exact { Faults.Clears.refl f with unwrap := spent_nextFault hn }
  · exact ⟨x, rfl, .unwrap _ (eq_cons_of_nextFault hn)⟩

/-- **A call** that meets a planned failure does nothing but fail with it. -/
lemma Draws.abrupt {α β : Type} {next : Effect (Option β)} {P : β → Error → Prop}
    (h : Draws next P) {f : Option β → Effect α} (hnone : Abrupt (f none))
    (hsome : ∀ x err, P x err → ∀ e, ∃ calls,
      (f (some x)).outcome e = (.error err, { e with calls })) : Abrupt (next >>= f) := by
  intro e he
  have hcalm : (next >>= f).outcome (calm e) = (f none).outcome (calm e) := by
    rw [outcome_bind, h.idle]
  obtain ⟨faults, ⟨hrun, hclears⟩ | ⟨x, err, hrun, hx, hstrikes⟩⟩ := h.draws e he
  · obtain ⟨hstore, hcut⟩ := hnone { e with faults } (hclears.leaves.failing he)
    rw [hcalm, outcome_bind, hrun]
    refine ⟨hstore, ?_⟩
    cases hcut with
    | through clears same => exact .through (hclears.trans clears) same
    | short err error halts store => exact .short err error (hclears.halts halts) store
  · obtain ⟨calls, hfails⟩ := hsome x err hx { e with faults }
    have hbind : (next >>= f).outcome e = (.error err, { e with faults, calls }) := by
      rw [outcome_bind, hrun]
      exact hfails
    rw [hcalm, hbind]
    exact ⟨.refl _, .short err rfl hstrikes.halts (hnone (calm e) Faults.failing_none).1⟩

/-! ### Calls -/

lemma abrupt_now : Abrupt now := abrupt_of_quiet (fun _ => rfl) (fun _ => rfl) fun _ => rfl

lemma abrupt_emit (event : Event) : Abrupt (emit event) :=
  abrupt_of_quiet (fun _ => rfl) (fun _ => rfl) fun _ => rfl

lemma abrupt_note (call : Call) : Abrupt (note call) :=
  abrupt_of_quiet (fun _ => rfl) (fun _ => rfl) fun _ => rfl

lemma abrupt_sealing {α : Type} (a : Sealing α) : Abrupt (sealing a) :=
  abrupt_of_quiet (fun _ => rfl) (fun _ => rfl) fun _ => rfl

lemma abrupt_opened {α : Type} (r : Except CipherFault α) : Abrupt (opened r) := abrupt_ofExcept _

lemma abrupt_latestRecord (keyId : String) : Abrupt (latestRecord keyId) := by
  refine draws_latest.abrupt
    (abrupt_of_quiet (fun _ => rfl) (fun _ => rfl) fun _ => rfl) ?_
  rintro _ err rfl e
  exact ⟨_, rfl⟩

lemma abrupt_loadRecord (p : KeyMeta) : Abrupt (loadRecord p) := by
  refine draws_load.abrupt (abrupt_of_quiet (fun _ => rfl) (fun _ => rfl) fun _ => rfl) ?_
  rintro _ err rfl e
  exact ⟨_, rfl⟩

lemma abrupt_insertRecord (keyId : String) (r : KeyRecord) : Abrupt (insertRecord keyId r) := by
  refine draws_insert.abrupt
    (fun e _ => ⟨Store.extends_insert _ _ _ _, .through (.refl _) rfl⟩) ?_
  rintro _ err (rfl | rfl) e
  · exact ⟨_, rfl⟩
  · exact ⟨_, rfl⟩

lemma abrupt_callWrap (m key : Key) : Abrupt ((KeyService.master m).callWrap key) := by
  unfold KeyService.callWrap
  refine (abrupt_note _).bind fun _ => draws_wrap.abrupt (abrupt_sealing _) ?_
  rintro _ err rfl e
  exact ⟨_, rfl⟩

lemma abrupt_callUnwrap (m : Key) (wrapped : Bytes) (created : Stamp) (revoked : Bool) :
    Abrupt ((KeyService.master m).callUnwrap wrapped created revoked) := by
  unfold KeyService.callUnwrap
  refine (abrupt_note _).bind fun _ => draws_unwrap.abrupt (abrupt_opened _) ?_
  rintro _ err rfl e
  exact ⟨_, rfl⟩

end Effect

namespace Engine

open Effect

variable {e : Engine} {m : Key}

/-- What happens in the environment of an engine. -/
lemma abrupt_lift {α : Type} {a : Effect α} (h : Abrupt a) : Abrupt (liftM a : Work α) := by
  intro w hw
  obtain ⟨hstore, hcut⟩ := h w.environment hw
  refine ⟨hstore, ?_⟩
  cases hcut with
  | through clears same =>
    refine .through clears ?_
    show ((a.outcome (calm w.environment)).1,
      { w with environment := (a.outcome (calm w.environment)).2 }) = _
    rw [same]
    rfl
  | short err error halts store => exact .short err error halts store

/-- A change of the state that is not one of the environment. -/
lemma abrupt_ofState {α : Type} {f : Workspace → α × Workspace}
    (h : ∀ w, (f w).2.environment = w.environment)
    (hcalm : ∀ w, f (calm w) = ((f w).1, calm (f w).2)) : Abrupt (ofState f : Work α) := by
  refine abrupt_of_quiet (fun w => congrArg _ (h w)) (fun w => congrArg _ (h w)) fun w => ?_
  show (Except.ok (f (calm w)).1, (f (calm w)).2) = _
  rw [hcalm]
  rfl

/-! ### System keys -/

lemma abrupt_isUsable (keyId : String) (created : Stamp) (revoked : Bool) :
    Abrupt (e.isUsable keyId created revoked) := by
  unfold isUsable
  split
  · exact abrupt_pure _
  · refine abrupt_now.bind fun now => ?_
    split
    · exact abrupt_pure _
    · split
      · exact (abrupt_emit _).bind fun _ => abrupt_pure _
      · exact abrupt_pure _

lemma abrupt_retainSystemKey (k : Key) : Abrupt (e.retainSystemKey k) := by
  unfold retainSystemKey
  split
  · exact abrupt_ofState (fun _ => rfl) fun _ => rfl
  · exact abrupt_pure _

lemma abrupt_retainIntermediateKey (k : Key) : Abrupt (e.retainIntermediateKey k) := by
  unfold retainIntermediateKey
  split
  · exact abrupt_ofState (fun _ => rfl) fun _ => rfl
  · exact abrupt_pure _

lemma abrupt_openIntermediateRecord (r : KeyRecord) (outer : Key) :
    Abrupt (openIntermediateRecord r outer) :=
  (abrupt_ofExcept _).bind fun _ => abrupt_opened _

section Master

variable (hs : e.service = .master m)

include hs

lemma abrupt_openSystemRecord (r : KeyRecord) : Abrupt (e.openSystemRecord r) := by
  unfold openSystemRecord
  rw [hs]
  exact (abrupt_ofExcept _).bind fun wrapped => abrupt_callUnwrap m wrapped _ _

lemma abrupt_createSystemKey : Abrupt e.createSystemKey := by
  unfold createSystemKey
  rw [hs]
  refine abrupt_now.bind fun now => (abrupt_sealing _).bind fun key =>
    (abrupt_callWrap m key).bind fun wrapped => (abrupt_insertRecord _ _).bind fun added => ?_
  split
  · exact (abrupt_emit _).bind fun _ => abrupt_pure _
  · refine (abrupt_emit _).bind fun _ => (abrupt_latestRecord _).bind fun found => ?_
    cases found with
    | none => exact abrupt_throw _
    | some r => exact abrupt_openSystemRecord hs r

lemma abrupt_latestOrNewSystemKey : Abrupt e.latestOrNewSystemKey := by
  have create := abrupt_createSystemKey hs
  unfold latestOrNewSystemKey
  refine (abrupt_latestRecord _).bind fun found => ?_
  cases found with
  | none => exact create
  | some r =>
    refine (abrupt_isUsable _ _ _).bind fun b => ?_
    split
    · exact abrupt_openSystemRecord hs r
    · exact create

lemma abrupt_systemKeyForWrite : Abrupt e.systemKeyForWrite := by
  have resolve : Abrupt (do
      let key ← liftM e.latestOrNewSystemKey
      e.retainSystemKey key : Work KeyHandle) :=
    (abrupt_lift (abrupt_latestOrNewSystemKey hs)).bind fun k => abrupt_retainSystemKey k
  unfold systemKeyForWrite
  dsimp only
  split
  · refine (abrupt_ofState (fun _ => rfl) fun _ => rfl : Abrupt latestSystemKey?).bind
      fun found => ?_
    cases found with
    | none => exact resolve
    | some k =>
      refine (abrupt_lift (abrupt_isUsable _ _ _)).bind fun b => ?_
      split
      · exact abrupt_pure _
      · exact resolve
  · exact resolve

lemma abrupt_loadSystemKey (p : KeyMeta) (forWrite : Bool) :
    Abrupt (e.loadSystemKey p forWrite) := by
  unfold loadSystemKey
  refine (abrupt_lift (abrupt_loadRecord p)).bind fun found => ?_
  cases found with
  | none => exact abrupt_pure _
  | some r =>
    dsimp only
    have opens : Abrupt (do
        let key ← liftM (e.openSystemRecord r)
        if e.cachesSystemKey p = true then do
          let handle ← e.retainSystemKey key
          pure (Lookup.found handle)
        else pure (Lookup.found (.owned key)) : Work Lookup) := by
      refine (abrupt_lift (abrupt_openSystemRecord hs r)).bind fun key => ?_
      split
      · exact (abrupt_retainSystemKey key).bind fun _ => abrupt_pure _
      · exact abrupt_pure _
    cases forWrite with
    | true =>
      refine (abrupt_lift (abrupt_isUsable _ _ _)).bind fun b => ?_
      split
      · exact opens
      · exact abrupt_pure _
    | false => exact opens

lemma abrupt_systemKey (p : KeyMeta) (forWrite : Bool) : Abrupt (e.systemKey p forWrite) := by
  unfold systemKey
  split
  · refine (abrupt_ofState (fun _ => rfl) fun _ => rfl : Abrupt (cachedSystemKey? _)).bind
      fun found => ?_
    cases found with
    | none => exact abrupt_loadSystemKey hs p forWrite
    | some k =>
      cases forWrite with
      | true =>
        refine (abrupt_lift (abrupt_isUsable _ _ _)).bind fun b => ?_
        dsimp only
        split <;> exact abrupt_pure _
      | false => exact abrupt_pure _
  · exact abrupt_loadSystemKey hs p forWrite

lemma abrupt_systemKeyForRead (p : KeyMeta) : Abrupt (e.systemKeyForRead p) := by
  unfold systemKeyForRead
  refine (abrupt_systemKey hs p false).bind fun found => ?_
  cases found with
  | found handle =>
    dsimp only
    split
    · refine (abrupt_lift abrupt_now).bind fun now => ?_
      split
      · exact (abrupt_lift (abrupt_emit _)).bind fun _ => abrupt_pure _
      · exact abrupt_pure _
    · exact abrupt_pure _
  | unusable => exact abrupt_throw _
  | notFound => exact abrupt_throw _

/-! ### Intermediate keys -/

lemma abrupt_reloadIntermediateKey : Abrupt e.reloadIntermediateKey := by
  unfold reloadIntermediateKey
  refine (abrupt_lift (abrupt_latestRecord _)).bind fun found => ?_
  cases found with
  | none => exact abrupt_throw _
  | some r =>
    dsimp only
    cases r.parent with
    | none => exact abrupt_throw _
    | some parent =>
      exact (abrupt_systemKeyForRead hs parent).bind
        fun _ => abrupt_lift (abrupt_openIntermediateRecord r _)

lemma abrupt_createIntermediateKey : Abrupt e.createIntermediateKey := by
  unfold createIntermediateKey
  refine (abrupt_lift abrupt_now).bind fun now => (abrupt_lift (abrupt_sealing _)).bind
    fun key => (abrupt_systemKeyForWrite hs).bind fun systemKey =>
    (abrupt_lift (abrupt_sealing _)).bind fun wrapped =>
    (abrupt_lift (abrupt_insertRecord _ _)).bind fun added => ?_
  split
  · exact (abrupt_lift (abrupt_emit _)).bind fun _ => abrupt_pure _
  · exact (abrupt_lift (abrupt_emit _)).bind fun _ => abrupt_reloadIntermediateKey hs

lemma abrupt_latestOrNewIntermediateKey : Abrupt e.latestOrNewIntermediateKey := by
  have create := abrupt_createIntermediateKey hs
  unfold latestOrNewIntermediateKey
  refine (abrupt_lift (abrupt_latestRecord _)).bind fun found => ?_
  cases found with
  | none => exact create
  | some r =>
    refine (abrupt_lift (abrupt_isUsable _ _ _)).bind fun b => ?_
    split
    · cases r.parent with
      | none => exact (abrupt_lift (abrupt_emit _)).bind fun _ => create
      | some parent =>
        refine (abrupt_systemKey hs parent true).bind fun found => ?_
        cases found with
        | found handle => exact abrupt_lift (abrupt_openIntermediateRecord _ _)
        | unusable => exact (abrupt_lift (abrupt_emit _)).bind fun _ => create
        | notFound => exact (abrupt_lift (abrupt_emit _)).bind fun _ => create
    · exact create

lemma abrupt_intermediateKeyForWrite : Abrupt e.intermediateKeyForWrite := by
  have resolve : Abrupt (do
      let key ← e.latestOrNewIntermediateKey
      e.retainIntermediateKey key : Work KeyHandle) :=
    (abrupt_latestOrNewIntermediateKey hs).bind fun k => abrupt_retainIntermediateKey k
  unfold intermediateKeyForWrite
  dsimp only
  split
  · refine (abrupt_ofState (fun _ => rfl) fun _ => rfl : Abrupt latestIntermediateKey?).bind
      fun found => ?_
    cases found with
    | none => exact resolve
    | some k =>
      refine (abrupt_lift (abrupt_isUsable _ _ _)).bind fun b => ?_
      split
      · exact abrupt_pure _
      · exact resolve
  · exact resolve

/-- **Writing** meets the failures that are planned, or goes as if none was. -/
theorem abrupt_encrypt (payload : Bytes) : Abrupt (e.encrypt payload) := by
  unfold encrypt
  exact (abrupt_intermediateKeyForWrite hs).bind fun handle => (abrupt_lift abrupt_now).bind
    fun now => (abrupt_lift (abrupt_sealing _)).bind fun _ => abrupt_pure _

end Master

end Engine

end Envelope
