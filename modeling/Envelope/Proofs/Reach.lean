import Envelope.Proofs.Reading

/-!
What an engine asks its collaborators for.

Every call on the store is about a key id. Which ids an engine asks for follows from its own two and
from what the records it reads point to, so it can be bounded without knowing what is in the caches,
whether the store is sound or which calls fail.
-/

namespace Envelope

open Envelope.Action

/-- The key id that a call on the store is about. -/
def Call.keyId? : Call → Option String
  | .latest id _ | .load id _ _ | .insert id _ _ => some id
  | _ => none

/-- An insert that was answered: where its record was to stand, and whether it won. -/
structure Insertion where
  keyId : String
  created : Stamp
  won : Bool
deriving DecidableEq

/-- The answered insert that a call is, if it is one. -/
def Call.insertion? : Call → Option Insertion
  | .insert id created (.ok won) => some ⟨id, created, won⟩
  | _ => none

namespace Environment

/-- The answered inserts in the trace. -/
def insertions (e : Environment) : List Insertion := e.calls.filterMap Call.insertion?

/-- No insert was made. -/
structure Still (e e' : Environment) : Prop where
  store : e'.store = e.store
  insert : e'.faults.insert = e.faults.insert
  insertions : e'.insertions = e.insertions

variable {e e' e'' : Environment}

lemma Still.refl (e : Environment) : e.Still e := ⟨rfl, rfl, rfl⟩

lemma Still.trans (h : e.Still e') (h' : e'.Still e'') : e.Still e'' :=
  ⟨h'.store.trans h.store, h'.insert.trans h.insert, h'.insertions.trans h.insertions⟩

/-- The trace after one more call. -/
lemma insertions_append {call : Call} (h : e'.calls = e.calls ++ [call]) :
    e'.insertions = e.insertions ++ call.insertion?.toList := by
  unfold insertions
  rw [h, List.filterMap_append]
  cases hc : call.insertion? <;> simp [hc]

end Environment

/-- A bound on what may be asked for: the intermediate keys that a partition accepts and the system
keys of some ids, in a store that is fixed or may grow. -/
structure Reach where
  partition : Partition
  system : String → Prop
  fixed : Prop

namespace Reach

/-- The id may be asked for. -/
def Allows (R : Reach) (id : String) : Prop := R.partition.Accepts id ∨ R.system id

/-- What intermediate records point to is within reach. -/
structure Closed (R : Reach) (e : Environment) : Prop where
  store : ∀ {id t r q}, R.partition.Accepts id → e.store.load? id t = some r →
    r.parent = some q → R.system q.keyId
  rival : ∀ {r q}, some (.winner r) ∈ e.faults.insert → r.parent = some q → R.system q.keyId

/-- The second environment comes after calls within reach. -/
structure Goes (R : Reach) (e e' : Environment) : Prop where
  closed : R.Closed e'
  still : R.fixed → e.Still e'
  calls : ∃ made, e'.calls = e.calls ++ made ∧ ∀ c ∈ made, ∀ id ∈ c.keyId?, R.Allows id

/-- A computation stays within reach, and what it returns satisfies `Q`. -/
def Bounds (R : Reach) {σ α : Type} (part : σ → Environment) (a : Action σ Error α)
    (Q : α → Prop) : Prop :=
  ∀ s, R.Closed (part s) → a.Yields s (fun x t => Q x ∧ R.Goes (part s) (part t))
    fun _ t => R.Goes (part s) (part t)

variable {R : Reach} {σ α β : Type} {part : σ → Environment} {e e' e'' : Environment}

lemma Closed.goes (h : R.Closed e) : R.Goes e e := ⟨h, fun _ => .refl e, [], by simp⟩

lemma Goes.trans (h : R.Goes e e') (h' : R.Goes e' e'') : R.Goes e e'' := by
  obtain ⟨made, hmade, hall⟩ := h.calls
  obtain ⟨made', hmade', hall'⟩ := h'.calls
  refine ⟨h'.closed, fun hf => (h.still hf).trans (h'.still hf), made ++ made', ?_, fun c hc => ?_⟩
  · rw [hmade', hmade, List.append_assoc]
  · rcases List.mem_append.1 hc with hc | hc
    · exact hall c hc
    · exact hall' c hc

/-- The trace of inserts only goes on. -/
lemma Goes.insertions (h : R.Goes e e') : ∃ made, e'.insertions = e.insertions ++ made := by
  obtain ⟨calls, hcalls, -⟩ := h.calls
  refine ⟨calls.filterMap Call.insertion?, ?_⟩
  unfold Environment.insertions
  rw [hcalls, List.filterMap_append]

/-! ### Composition -/

lemma bounds_pure {x : α} {Q : α → Prop} (h : Q x) :
    R.Bounds part (pure x : Action σ Error α) Q :=
  fun _ hs => ⟨h, hs.goes⟩

lemma bounds_throw (err : Error) {Q : α → Prop} : R.Bounds part (throw err : Action σ Error α) Q :=
  fun _ hs => hs.goes

lemma bounds_ofExcept (r : Except Error α) :
    R.Bounds part (Action.ofExcept r : Action σ Error α) fun _ => True :=
  fun _ hs => yields_ofExcept (fun _ _ => ⟨trivial, hs.goes⟩) fun _ _ => hs.goes

/-- A change of the state that is not one of the environment. -/
lemma bounds_ofState {f : σ → α × σ} (h : ∀ s, part (f s).2 = part s) :
    R.Bounds part (ofState f : Action σ Error α) fun _ => True := by
  intro s hs
  refine ⟨trivial, ?_⟩
  rw [h]
  exact hs.goes

lemma Bounds.bind {a : Action σ Error β} {f : β → Action σ Error α} {P : β → Prop}
    {Q : α → Prop} (h : R.Bounds part a P) (hf : ∀ x, P x → R.Bounds part (f x) Q) :
    R.Bounds part (a >>= f) Q := by
  intro s hs
  refine (h s hs).bind (fun x t ht => ?_) fun _ _ ht => ht
  obtain ⟨hx, ht⟩ := ht
  exact (hf x hx t ht.closed).mono (fun _ _ hu => ⟨hu.1, ht.trans hu.2⟩) fun _ _ hu => ht.trans hu

lemma Bounds.mono {a : Action σ Error α} {P Q : α → Prop} (h : R.Bounds part a P)
    (hPQ : ∀ x, P x → Q x) : R.Bounds part a Q :=
  fun s hs => (h s hs).mono (fun _ _ ht => ⟨hPQ _ ht.1, ht.2⟩) fun _ _ ht => ht

/-- What happens in the environment of an engine. -/
lemma Bounds.lift {a : Effect α} {Q : α → Prop} (h : R.Bounds id a Q) :
    R.Bounds (·.environment) (liftM a : Engine.Work α) Q :=
  fun w hw => Engine.yields_lift.2 (h w.environment hw)

end Reach

namespace Effect

open Reach

variable {R : Reach}

/-- A call within reach that is no insert and leaves the records and the planned rivals alone. -/
lemma goes_of_call {e e' : Environment} (he : R.Closed e) {call : Call}
    (hcalls : e'.calls = e.calls ++ [call]) (hcall : ∀ id ∈ call.keyId?, R.Allows id)
    (hnone : call.insertion? = none) (hstore : e'.store = e.store)
    (hinsert : e'.faults.insert = e.faults.insert) : R.Goes e e' := by
  refine ⟨⟨hstore ▸ he.store, hinsert ▸ he.rival⟩, fun _ => ⟨hstore, hinsert, ?_⟩, [call], hcalls,
    by simpa using hcall⟩
  rw [Environment.insertions_append hcalls, hnone]
  exact List.append_nil _

/-- A change of the environment that makes no call. -/
lemma bounds_quiet {α : Type} {f : Environment → α × Environment}
    (h : ∀ e, (f e).2.store = e.store ∧ (f e).2.faults.insert = e.faults.insert ∧
      (f e).2.calls = e.calls) : R.Bounds id (ofState f : Effect α) fun _ => True := by
  intro e he
  obtain ⟨hstore, hinsert, hcalls⟩ := h e
  exact ⟨trivial, ⟨hstore ▸ he.store, hinsert ▸ he.rival⟩,
    fun _ => ⟨hstore, hinsert, congrArg (List.filterMap Call.insertion?) hcalls⟩, [],
    by simpa using hcalls⟩

lemma bounds_now : R.Bounds id now fun _ => True := bounds_quiet fun _ => ⟨rfl, rfl, rfl⟩

lemma bounds_emit (event : Event) : R.Bounds id (emit event) fun _ => True :=
  bounds_quiet fun _ => ⟨rfl, rfl, rfl⟩

lemma bounds_note {call : Call} (h : ∀ id ∈ call.keyId?, R.Allows id)
    (hnone : call.insertion? = none) : R.Bounds id (note call) fun _ => True :=
  fun _ he => ⟨trivial, goes_of_call he rfl h hnone rfl rfl⟩

lemma bounds_sealing {α : Type} (a : Sealing α) : R.Bounds id (sealing a) fun _ => True := by
  intro e he
  have h : (sealing a).Yields e (fun _ e' => ∃ r, e' = { e with random := r })
      fun _ e' => ∃ r, e' = { e with random := r } := by
    unfold sealing
    rw [yields_zoom, yields_mapError]
    unfold Action.Yields
    rcases a.outcome e.random with ⟨_ | _, r⟩ <;> exact ⟨r, rfl⟩
  have goes : ∀ r, R.Goes e { e with random := r } := fun r =>
    ⟨⟨he.store, he.rival⟩, fun _ => ⟨rfl, rfl, rfl⟩, [], by simp⟩
  refine h.mono (fun _ _ h => ?_) fun _ _ h => ?_
  · obtain ⟨r, rfl⟩ := h
    exact ⟨trivial, goes r⟩
  · obtain ⟨r, rfl⟩ := h
    exact goes r

lemma bounds_opened {α : Type} (r : Except CipherFault α) :
    R.Bounds id (opened r) fun _ => True :=
  bounds_ofExcept _

/-! ### The store -/

/-- A look-up finds nothing or what is there. -/
lemma lookupOutcome_eq_some {held : Option KeyRecord} {fault : Option LookupFault} {r : KeyRecord}
    (h : lookupOutcome held fault = .ok (some r)) : held = some r := by
  rcases fault with _ | _ | _ <;> cases h
  rfl

/-- What is found under an id points within reach, if the partition accepts the id. -/
def PointsWithin (R : Reach) (id : String) (found : Option KeyRecord) : Prop :=
  R.partition.Accepts id → ∀ r q, found = some r → r.parent = some q → R.system q.keyId

lemma bounds_latestRecord {keyId : String} (h : R.Allows keyId) :
    R.Bounds id (latestRecord keyId) (PointsWithin R keyId) := by
  intro e he
  have goes : ∀ outcome, R.Goes e { e with
      faults := { e.faults with latest := (nextFault e.faults.latest).2 }
      calls := e.calls ++ [.latest keyId outcome] } := fun outcome =>
    goes_of_call he rfl (by rintro _ ⟨⟩; exact h) rfl rfl rfl
  unfold latestRecord nextLatestFault
  simp only [yields_bind, yields_ofState, yields_note]
  refine yields_ofExcept (fun found hfound => ⟨fun hacc r q hr hq => ?_, goes _⟩) fun _ _ => goes _
  subst hr
  obtain ⟨t, ht, -⟩ := Store.latest?_eq_some (lookupOutcome_eq_some hfound)
  exact he.store hacc ht hq

lemma bounds_loadRecord {p : KeyMeta} (h : R.Allows p.keyId) :
    R.Bounds id (loadRecord p) (PointsWithin R p.keyId) := by
  intro e he
  have goes : ∀ outcome, R.Goes e { e with
      faults := { e.faults with load := (nextFault e.faults.load).2 }
      calls := e.calls ++ [.load p.keyId p.created outcome] } := fun outcome =>
    goes_of_call he rfl (by rintro _ ⟨⟩; exact h) rfl rfl rfl
  unfold loadRecord nextLoadFault
  simp only [yields_bind, yields_ofState, yields_note]
  refine yields_ofExcept (fun found hfound => ⟨fun hacc r q hr hq => ?_, goes _⟩) fun _ _ => goes _
  subst hr
  exact he.store hacc (lookupOutcome_eq_some hfound) hq

/-- A record that points within reach may be added. -/
lemma closed_of_insert {e e' : Environment} (he : R.Closed e) {keyId : String} {r : KeyRecord}
    (hr : ∀ q, r.parent = some q → R.system q.keyId)
    (hstore : e'.store = (e.store.insert keyId r.created.time r).2)
    (hinsert : e'.faults.insert <:+ e.faults.insert) : R.Closed e' where
  store hacc hl hq := by
    rw [hstore] at hl
    rcases Store.load?_of_insert hl with hl | ⟨-, -, rfl, -⟩
    · exact he.store hacc hl hq
    · exact hr _ hq
  rival hmem hq := he.rival (hinsert.subset hmem) hq

lemma bounds_insertRecord (hf : ¬ R.fixed) {keyId : String} {r : KeyRecord}
    (h : R.Allows keyId) (hr : ∀ q, r.parent = some q → R.system q.keyId) :
    R.Bounds id (insertRecord keyId r) fun _ => True := by
  intro e he
  have hsuffix : (nextFault e.faults.insert).2 <:+ e.faults.insert := nextFault_suffix _
  -- the insert is noted after the store has changed, if it has
  have goes : ∀ (s : Store) (outcome : Except Error Bool),
      R.Closed { e with
        store := s, faults := { e.faults with insert := (nextFault e.faults.insert).2 } } →
      R.Goes e { e with
        store := s, faults := { e.faults with insert := (nextFault e.faults.insert).2 }
        calls := e.calls ++ [.insert keyId r.created outcome] } := fun s outcome hc =>
    ⟨⟨hc.store, hc.rival⟩, fun h => absurd h hf, [.insert keyId r.created outcome], rfl,
      by simpa [Call.keyId?] using h⟩
  have same : R.Closed { e with
      faults := { e.faults with insert := (nextFault e.faults.insert).2 } } :=
    ⟨he.store, fun hmem hq => he.rival (hsuffix.subset hmem) hq⟩
  unfold insertRecord nextInsertFault
  simp only [yields_bind, yields_ofState]
  rcases hn : (nextFault e.faults.insert).1 with _ | x
  · simp only [insertOutcome, storeInsert, yields_bind, yields_ofState, yields_pure, yields_note]
    exact ⟨trivial, goes _ _ (closed_of_insert he hr rfl hsuffix)⟩
  · cases x with
    | fail err =>
      simp only [insertOutcome, yields_pure, yields_note]
      exact goes _ _ same
    | refused err => exact ⟨same, fun h => absurd h hf, [], by simp [id], by simp⟩
    | conflict =>
      simp only [insertOutcome, storeInsert, yields_bind, yields_ofState, yields_pure, yields_note]
      exact ⟨trivial, goes _ _ (closed_of_insert he hr rfl hsuffix)⟩
    | lost =>
      simp only [insertOutcome, yields_pure, yields_note]
      exact ⟨trivial, goes _ _ same⟩
    | winner other =>
      simp only [insertOutcome, storeInsert, yields_bind, yields_ofState, yields_pure, yields_note]
      exact ⟨trivial, goes _ _ (closed_of_insert he
        (fun q hq => he.rival (mem_of_nextFault hn) hq) rfl hsuffix)⟩

/-! ### The key management service -/

lemma bounds_callWrap (m key : Key) :
    R.Bounds id ((KeyService.master m).callWrap key) fun _ => True := by
  unfold KeyService.callWrap
  refine (bounds_note (by rintro _ ⟨⟩) rfl).bind fun _ _ => ?_
  refine (bounds_quiet fun _ => ⟨rfl, rfl, rfl⟩ : R.Bounds id nextWrapFault _).bind
    fun fault _ => ?_
  cases fault with
  | none => exact bounds_sealing _
  | some err => exact bounds_throw err

lemma bounds_callUnwrap (m : Key) (wrapped : Bytes) (created : Stamp) (revoked : Bool) :
    R.Bounds id ((KeyService.master m).callUnwrap wrapped created revoked) fun _ => True := by
  unfold KeyService.callUnwrap
  refine (bounds_note (by rintro _ ⟨⟩) rfl).bind fun _ _ => ?_
  refine (bounds_quiet fun _ => ⟨rfl, rfl, rfl⟩ : R.Bounds id nextUnwrapFault _).bind
    fun fault _ => ?_
  cases fault with
  | none => exact bounds_opened _
  | some err => exact bounds_throw err

end Effect

namespace Engine

open Effect Reach

variable {R : Reach} {e : Engine} {m : Key}

/-! ### Reading -/

lemma bounds_isUsable (keyId : String) (created : Stamp) (revoked : Bool) :
    R.Bounds id (e.isUsable keyId created revoked) fun _ => True := by
  unfold isUsable
  split
  · exact bounds_pure trivial
  · refine bounds_now.bind fun now _ => ?_
    split
    · exact bounds_pure trivial
    · split
      · exact (bounds_emit _).bind fun _ _ => bounds_pure trivial
      · exact bounds_pure trivial

lemma bounds_openSystemRecord (hs : e.service = .master m) (r : KeyRecord) :
    R.Bounds id (e.openSystemRecord r) fun _ => True := by
  unfold openSystemRecord
  rw [hs]
  exact (bounds_ofExcept _).bind fun wrapped _ => bounds_callUnwrap m wrapped _ _

lemma bounds_openIntermediateRecord (r : KeyRecord) (outer : Key) :
    R.Bounds id (openIntermediateRecord r outer) fun _ => True :=
  (bounds_ofExcept _).bind fun _ _ => bounds_opened _

lemma bounds_retainSystemKey (k : Key) :
    R.Bounds (·.environment) (e.retainSystemKey k) fun _ => True := by
  unfold retainSystemKey
  split
  · exact bounds_ofState fun _ => rfl
  · exact bounds_pure trivial

lemma bounds_retainIntermediateKey (k : Key) :
    R.Bounds (·.environment) (e.retainIntermediateKey k) fun _ => True := by
  unfold retainIntermediateKey
  split
  · exact bounds_ofState fun _ => rfl
  · exact bounds_pure trivial

lemma bounds_loadSystemKey (hs : e.service = .master m) {p : KeyMeta} (hp : R.Allows p.keyId)
    (forWrite : Bool) :
    R.Bounds (·.environment) (e.loadSystemKey p forWrite) fun _ => True := by
  unfold loadSystemKey
  refine (bounds_loadRecord hp).lift.bind fun found _ => ?_
  cases found with
  | none => exact bounds_pure trivial
  | some r =>
    dsimp only
    have opens : R.Bounds (·.environment) (do
        let key ← liftM (e.openSystemRecord r)
        if e.cachesSystemKey p = true then do
          let handle ← e.retainSystemKey key
          pure (Lookup.found handle)
        else pure (Lookup.found (.owned key)) : Work Lookup) fun _ => True := by
      refine (bounds_openSystemRecord hs r).lift.bind fun key _ => ?_
      split
      · exact (bounds_retainSystemKey key).bind fun _ _ => bounds_pure trivial
      · exact bounds_pure trivial
    cases forWrite with
    | true =>
      refine (bounds_isUsable _ _ _).lift.bind fun b _ => ?_
      split
      · exact opens
      · exact bounds_pure trivial
    | false => exact opens

lemma bounds_systemKey (hs : e.service = .master m) {p : KeyMeta} (hp : R.Allows p.keyId)
    (forWrite : Bool) : R.Bounds (·.environment) (e.systemKey p forWrite) fun _ => True := by
  unfold systemKey
  split
  · refine (bounds_ofState fun _ => rfl : R.Bounds _ (cachedSystemKey? _) _).bind fun found _ => ?_
    cases found with
    | none => exact bounds_loadSystemKey hs hp forWrite
    | some k =>
      cases forWrite with
      | true =>
        refine (bounds_isUsable _ _ _).lift.bind fun b _ => ?_
        dsimp only
        split <;> exact bounds_pure trivial
      | false => exact bounds_pure trivial
  · exact bounds_loadSystemKey hs hp forWrite

lemma bounds_systemKeyForRead (hs : e.service = .master m) {p : KeyMeta}
    (hp : R.Allows p.keyId) : R.Bounds (·.environment) (e.systemKeyForRead p) fun _ => True := by
  unfold systemKeyForRead
  refine (bounds_systemKey hs hp false).bind fun found _ => ?_
  cases found with
  | found handle =>
    dsimp only
    split
    · refine bounds_now.lift.bind fun now _ => ?_
      split
      · exact (bounds_emit _).lift.bind fun _ _ => bounds_pure trivial
      · exact bounds_pure trivial
    · exact bounds_pure trivial
  | unusable => exact bounds_throw _
  | notFound => exact bounds_throw _

/-- A record opened with the key that it points to. -/
lemma bounds_openThrough (hs : e.service = .master m) {p : KeyMeta} (hp : R.Allows p.keyId)
    (r : KeyRecord) : R.Bounds (·.environment) (do
      let systemKey ← e.systemKeyForRead p
      liftM (openIntermediateRecord r systemKey.key) : Work Key) fun _ => True :=
  (bounds_systemKeyForRead hs hp).bind fun _ _ => (bounds_openIntermediateRecord _ _).lift

lemma bounds_loadIntermediateKey (hs : e.service = .master m) {p : KeyMeta}
    (hp : R.partition.Accepts p.keyId) :
    R.Bounds (·.environment) (e.loadIntermediateKey p) fun _ => True := by
  unfold loadIntermediateKey
  refine (bounds_loadRecord (Or.inl hp)).lift.bind fun found hfound => ?_
  cases found with
  | none => exact bounds_throw _
  | some r =>
    dsimp only
    cases hparent : r.parent with
    | none => exact bounds_throw _
    | some parent => exact bounds_openThrough hs (Or.inr (hfound hp r parent rfl hparent)) r

lemma bounds_intermediateKeyForRead (hs : e.service = .master m) {p : KeyMeta}
    (hp : R.partition.Accepts p.keyId) :
    R.Bounds (·.environment) (e.intermediateKeyForRead p) fun _ => True := by
  have load := bounds_loadIntermediateKey hs hp
  unfold intermediateKeyForRead
  refine Bounds.bind (P := fun _ => True) ?_ fun handle _ => ?_
  · split
    · refine (bounds_ofState fun _ => rfl : R.Bounds _ (cachedIntermediateKey? _) _).bind
        fun found _ => ?_
      cases found with
      | some k => exact bounds_pure trivial
      | none => exact load.bind fun k _ => bounds_retainIntermediateKey k
    · exact load.bind fun _ _ => bounds_pure trivial
  · dsimp only
    split
    · refine bounds_now.lift.bind fun now _ => ?_
      split
      · exact (bounds_emit _).lift.bind fun _ _ => bounds_pure trivial
      · exact bounds_pure trivial
    · exact bounds_pure trivial

/-- **Reading** asks for the ids that the partition accepts and for what their records point to. -/
theorem bounds_decrypt (hs : e.service = .master m) (hp : R.partition = e.partition)
    (text : Bytes) : R.Bounds (·.environment) (e.decrypt text) fun _ => True := by
  unfold decrypt
  refine (bounds_ofExcept _).bind fun row _ => ?_
  intro w hw
  refine yields_bind.2 (yields_ofExcept (fun rd hrd => ?_) fun _ _ => hw.goes)
  have hacc := hp ▸ (pointer?_of_readable hrd).2
  exact ((bounds_intermediateKeyForRead hs hacc).bind fun _ _ => (bounds_opened _).lift) w hw

/-- After a lost insert, **nothing is asked for but the latest record** and what it points to, and
the store stays as it is. -/
lemma bounds_reloadIntermediateKey (hs : e.service = .master m) (hp : R.partition = e.partition) :
    R.Bounds (·.environment) e.reloadIntermediateKey fun _ => True := by
  have hown : R.partition.Accepts e.partition.intermediateKeyId :=
    hp ▸ e.partition.accepts_intermediateKeyId
  unfold reloadIntermediateKey
  refine (bounds_latestRecord (Or.inl hown)).lift.bind fun found hfound => ?_
  cases found with
  | none => exact bounds_throw _
  | some r =>
    dsimp only
    cases hparent : r.parent with
    | none => exact bounds_throw _
    | some parent => exact bounds_openThrough hs (Or.inr (hfound hown r parent rfl hparent)) r

/-! ### Writing -/

section Writing

variable (hs : e.service = .master m) (hf : ¬ R.fixed) (hp : R.partition = e.partition)
  (hsystem : R.system e.partition.systemKeyId)

include hs hsystem in
/-- After a lost insert, the latest record is asked for. -/
lemma bounds_reloadSystemKey : R.Bounds id (do
    Effect.emit (.raceLost .system e.partition.systemKeyId)
    match ← Effect.latestRecord e.partition.systemKeyId with
    | some r => e.openSystemRecord r
    | none => throw (.application (.unresolvedConflict .system e.partition.systemKeyId))
      : Effect Key) fun _ => True := by
  refine (bounds_emit _).bind fun _ _ => (bounds_latestRecord (Or.inr hsystem)).bind
    fun found _ => ?_
  cases found with
  | none => exact bounds_throw _
  | some r => exact bounds_openSystemRecord hs r

include hs hf hsystem in
lemma bounds_createSystemKey : R.Bounds id e.createSystemKey fun _ => True := by
  unfold createSystemKey
  rw [hs]
  refine bounds_now.bind fun now _ => (bounds_sealing _).bind fun key _ =>
    (bounds_callWrap m key).bind fun wrapped _ => ?_
  refine (bounds_insertRecord hf (Or.inr hsystem) (by rintro _ ⟨⟩)).bind fun added _ => ?_
  split
  · exact (bounds_emit _).bind fun _ _ => bounds_pure trivial
  · exact bounds_reloadSystemKey hs hsystem

include hs hf hsystem in
lemma bounds_latestOrNewSystemKey : R.Bounds id e.latestOrNewSystemKey fun _ => True := by
  have create := bounds_createSystemKey hs hf hsystem
  unfold latestOrNewSystemKey
  refine (bounds_latestRecord (Or.inr hsystem)).bind fun found _ => ?_
  cases found with
  | none => exact create
  | some r =>
    refine (bounds_isUsable _ _ _).bind fun b _ => ?_
    split
    · exact bounds_openSystemRecord hs r
    · exact create

include hs hf hsystem in
lemma bounds_systemKeyForWrite :
    R.Bounds (·.environment) e.systemKeyForWrite fun _ => True := by
  have resolve : R.Bounds (·.environment) (do
      let key ← liftM e.latestOrNewSystemKey
      e.retainSystemKey key : Work KeyHandle) fun _ => True :=
    (bounds_latestOrNewSystemKey hs hf hsystem).lift.bind fun k _ => bounds_retainSystemKey k
  unfold systemKeyForWrite
  dsimp only
  split
  · refine (bounds_ofState fun _ => rfl : R.Bounds _ latestSystemKey? _).bind fun found _ => ?_
    cases found with
    | none => exact resolve
    | some k =>
      refine (bounds_isUsable _ _ _).lift.bind fun b _ => ?_
      split
      · exact bounds_pure trivial
      · exact resolve
  · exact resolve

include hs hf hp hsystem in
/-- A new intermediate key is wrapped and inserted. -/
lemma bounds_insertIntermediate (key : Key) (systemKey : KeyHandle) :
    R.Bounds (·.environment) (do
      let wrapped ← liftM (Effect.sealing (systemKey.key.wrap key))
      if ← liftM (Effect.insertRecord e.partition.intermediateKeyId
          (.intermediate key.created wrapped (some false)
            ⟨e.partition.systemKeyId, systemKey.key.created⟩)) then
        liftM (Effect.emit (.keyCreated .intermediate e.partition.intermediateKeyId key.created))
        return key
      else
        liftM (Effect.emit (.raceLost .intermediate e.partition.intermediateKeyId))
        e.reloadIntermediateKey : Work Key) fun _ => True := by
  have hown : R.Allows e.partition.intermediateKeyId :=
    Or.inl (hp ▸ e.partition.accepts_intermediateKeyId)
  refine (bounds_sealing _).lift.bind fun wrapped _ => ?_
  refine (bounds_insertRecord hf hown ?_).lift.bind fun added _ => ?_
  · rintro q ⟨⟩
    exact hsystem
  · split
    · exact (bounds_emit _).lift.bind fun _ _ => bounds_pure trivial
    · exact (bounds_emit _).lift.bind fun _ _ => bounds_reloadIntermediateKey hs hp

include hs hf hp hsystem in
lemma bounds_createIntermediateKey :
    R.Bounds (·.environment) e.createIntermediateKey fun _ => True := by
  unfold createIntermediateKey
  exact bounds_now.lift.bind fun now _ => (bounds_sealing _).lift.bind fun key _ =>
    (bounds_systemKeyForWrite hs hf hsystem).bind fun systemKey _ =>
    bounds_insertIntermediate hs hf hp hsystem key systemKey

include hs hf hp hsystem in
lemma bounds_latestOrNewIntermediateKey :
    R.Bounds (·.environment) e.latestOrNewIntermediateKey fun _ => True := by
  have hown : R.partition.Accepts e.partition.intermediateKeyId :=
    hp ▸ e.partition.accepts_intermediateKeyId
  have create := bounds_createIntermediateKey hs hf hp hsystem
  unfold latestOrNewIntermediateKey
  refine (bounds_latestRecord (Or.inl hown)).lift.bind fun found hfound => ?_
  cases found with
  | none => exact create
  | some r =>
    refine (bounds_isUsable _ _ _).lift.bind fun b _ => ?_
    split
    · cases hparent : r.parent with
      | none => exact (bounds_emit _).lift.bind fun _ _ => create
      | some parent =>
        have hreach : R.Allows parent.keyId := Or.inr (hfound hown r parent rfl hparent)
        refine (bounds_systemKey hs hreach true).bind fun found _ => ?_
        cases found with
        | found handle => exact (bounds_openIntermediateRecord _ _).lift
        | unusable => exact (bounds_emit _).lift.bind fun _ _ => create
        | notFound => exact (bounds_emit _).lift.bind fun _ _ => create
    · exact create

include hs hf hp hsystem in
/-- **Writing** asks for the ids of the partition and for what its records point to. -/
theorem bounds_encrypt (payload : Bytes) :
    R.Bounds (·.environment) (e.encrypt payload) fun _ => True := by
  have resolve : R.Bounds (·.environment) (do
      let key ← e.latestOrNewIntermediateKey
      e.retainIntermediateKey key : Work KeyHandle) fun _ => True :=
    (bounds_latestOrNewIntermediateKey hs hf hp hsystem).bind
      fun k _ => bounds_retainIntermediateKey k
  unfold encrypt
  refine Bounds.bind (P := fun _ => True) ?_ fun handle _ => bounds_now.lift.bind fun now _ =>
    (bounds_sealing _).lift.bind fun _ _ => bounds_pure trivial
  unfold intermediateKeyForWrite
  dsimp only
  split
  · refine (bounds_ofState fun _ => rfl : R.Bounds _ latestIntermediateKey? _).bind
      fun found _ => ?_
    cases found with
    | none => exact resolve
    | some k =>
      refine (bounds_isUsable _ _ _).lift.bind fun b _ => ?_
      split
      · exact bounds_pure trivial
      · exact resolve
  · exact resolve

end Writing

end Engine

end Envelope
