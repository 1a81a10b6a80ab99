import Mathlib.Order.Defs.Unbundled
import Envelope.Proofs.Computation

/-!
# What a computation does to its state, whatever comes of it

A preorder on states that every single step keeps is kept by the whole computation, whether it ends
with a result or with a failure. An engine is a composition of few kinds of steps. A relation that
those keep is kept by its reads and writes, for any key management service, any planned failures
and any caches; each function of the engine has one lemma here, and what the relation is about is
left open.
-/

namespace Envelope

namespace Action

variable {σ τ ε α β : Type}

/-- However the computation ends, the state it leaves is related to the one it began in. -/
def Respects (a : Action σ ε α) (R : σ → σ → Prop) : Prop := ∀ s, R s (a.outcome s).2

variable {R S : σ → σ → Prop}

lemma Respects.mono {a : Action σ ε α} (h : a.Respects R) (hRS : ∀ s t, R s t → S s t) :
    a.Respects S :=
  fun s => hRS _ _ (h s)

lemma respects_ofState {f : σ → α × σ} (h : ∀ s, R s (f s).2) :
    (ofState f : Action σ ε α).Respects R := h

lemma respects_zoom {part : σ → τ} {put : τ → σ → σ} {T : τ → τ → Prop} {a : Action τ ε α}
    (h : a.Respects T) (hR : ∀ s t, T (part s) t → R s (put t s)) :
    (a.zoom part put).Respects R :=
  fun s => hR s _ (h (part s))

section

variable [IsPreorder σ R]

lemma respects_pure (x : α) : (pure x : Action σ ε α).Respects R := fun s => refl_of R s

lemma respects_throw (e : ε) : (throw e : Action σ ε α).Respects R := fun s => refl_of R s

lemma respects_ofExcept (r : Except ε α) : (ofExcept r : Action σ ε α).Respects R :=
  fun s => refl_of R s

lemma Respects.bind {a : Action σ ε β} {f : β → Action σ ε α} (h : a.Respects R)
    (hf : ∀ x, (f x).Respects R) : (a >>= f).Respects R := by
  intro s
  rw [outcome_bind]
  have hs := h s
  rcases ha : a.outcome s with ⟨e | x, t⟩ <;> rw [ha] at hs
  · exact hs
  · exact trans_of R hs (hf x t)

end

end Action

namespace Engine

open Envelope.Action

/-- The steps of which an engine's reads are made keep a relation on environments, and with it one
on workspaces. -/
structure ReadsWithin (e : Engine) (E : Environment → Environment → Prop)
    (R : Workspace → Workspace → Prop) : Prop where
  lift : ∀ w env, E w.environment env → R w { w with environment := env }
  emit : ∀ event, (Effect.emit event).Respects E
  loadRecord : ∀ pointer, (Effect.loadRecord pointer).Respects E
  openSystemRecord : ∀ r, (e.openSystemRecord r).Respects E
  retainSystemKey : ∀ key, (e.retainSystemKey key).Respects R
  retainIntermediateKey : ∀ key, (e.retainIntermediateKey key).Respects R

namespace ReadsWithin

variable {e : Engine} {E : Environment → Environment → Prop} {R : Workspace → Workspace → Prop}

lemma liftM (h : e.ReadsWithin E R) {α : Type} {a : Effect α} (ha : a.Respects E) :
    (liftM a : Work α).Respects R :=
  respects_zoom ha h.lift

lemma isUsable [IsPreorder Environment E] (h : e.ReadsWithin E R) (keyId : String)
    (created : Stamp) (revoked : Bool) : (e.isUsable keyId created revoked).Respects E := by
  unfold Engine.isUsable
  split
  · exact respects_pure _
  · refine (respects_ofState fun env => refl_of E env).bind fun now => ?_
    split
    · exact respects_pure _
    · split
      · exact (h.emit _).bind fun _ => respects_pure _
      · exact respects_pure _

variable [IsPreorder Environment E] [IsPreorder Workspace R]

/-! ### Reads -/

/-- A read with an expired key is told of, if that is wanted. -/
lemma notice (h : e.ReadsWithin E R) (notifies : Bool) (t : Time) (event : Event)
    (handle : KeyHandle) : (do
      if notifies then
        if e.policy.IsExpired (← Effect.now) t then
          Effect.emit event
      return handle : Work KeyHandle).Respects R := by
  dsimp only
  split
  · refine (h.liftM (respects_ofState fun env => refl_of E env)).bind fun now => ?_
    split
    · exact (h.liftM (h.emit event)).bind fun _ => respects_pure _
    · exact respects_pure _
  · exact respects_pure _

/-- Whether a key is usable is asked only for a write. -/
lemma usability (h : e.ReadsWithin E R) (forWrite : Bool) (keyId : String) (created : Stamp)
    (revoked : Bool) {rest : Bool → Work Lookup} (hrest : ∀ usable, (rest usable).Respects R) :
    (if forWrite then (inEnvironment (e.isUsable keyId created revoked) : Work Bool) >>= rest
      else pure true >>= rest).Respects R := by
  split
  · exact (h.liftM (h.isUsable keyId created revoked)).bind hrest
  · exact (respects_pure true).bind hrest

lemma loadSystemKey (h : e.ReadsWithin E R) (pointer : KeyMeta) (forWrite : Bool) :
    (e.loadSystemKey pointer forWrite).Respects R := by
  unfold Engine.loadSystemKey
  refine (h.liftM (h.loadRecord pointer)).bind fun found => ?_
  cases found with
  | none => exact respects_pure _
  | some r =>
    dsimp only
    refine h.usability forWrite _ _ _ fun usable => ?_
    split
    · refine (h.liftM (h.openSystemRecord r)).bind fun key => ?_
      split
      · exact (h.retainSystemKey key).bind fun _ => respects_pure _
      · exact respects_pure _
    · exact respects_pure _

lemma systemKey (h : e.ReadsWithin E R) (pointer : KeyMeta) (forWrite : Bool) :
    (e.systemKey pointer forWrite).Respects R := by
  unfold Engine.systemKey
  split
  · refine (respects_ofState fun w => refl_of R w).bind fun cached => ?_
    cases cached with
    | none => exact h.loadSystemKey pointer forWrite
    | some key =>
      dsimp only
      refine h.usability forWrite _ _ _ fun usable => ?_
      split <;> exact respects_pure _
  · exact h.loadSystemKey pointer forWrite

lemma systemKeyForRead (h : e.ReadsWithin E R) (pointer : KeyMeta) :
    (e.systemKeyForRead pointer).Respects R := by
  unfold Engine.systemKeyForRead
  refine (h.systemKey pointer false).bind fun found => ?_
  cases found with
  | found handle =>
    exact h.notice _ _ _ handle
  | unusable => exact respects_throw _
  | notFound => exact respects_throw _

omit [IsPreorder Workspace R] in
lemma openIntermediateRecord (_ : e.ReadsWithin E R) (r : KeyRecord) (systemKey : Key) :
    (Engine.openIntermediateRecord r systemKey).Respects E :=
  (respects_ofExcept _).bind fun _ => respects_ofExcept _

/-- A record is opened with the system key that a pointer names. -/
lemma openThrough (h : e.ReadsWithin E R) (r : KeyRecord) (pointer : KeyMeta) : (do
      let systemKey ← e.systemKeyForRead pointer
      Engine.openIntermediateRecord r systemKey.key : Work Key).Respects R :=
  (h.systemKeyForRead pointer).bind fun systemKey =>
    h.liftM (h.openIntermediateRecord r systemKey.key)

lemma loadIntermediateKey (h : e.ReadsWithin E R) (pointer : KeyMeta) :
    (e.loadIntermediateKey pointer).Respects R := by
  unfold Engine.loadIntermediateKey
  refine (h.liftM (h.loadRecord pointer)).bind fun found => ?_
  cases found with
  | none => exact respects_throw _
  | some r =>
    dsimp only
    cases r.parent with
    | none => exact respects_throw _
    | some parent => exact h.openThrough r parent

lemma intermediateKeyForRead (h : e.ReadsWithin E R) (pointer : KeyMeta) :
    (e.intermediateKeyForRead pointer).Respects R := by
  unfold Engine.intermediateKeyForRead
  refine Respects.bind ?_ fun handle => ?_
  · split
    · refine (respects_ofState fun w => refl_of R w).bind fun cached => ?_
      cases cached with
      | none => exact (h.loadIntermediateKey pointer).bind h.retainIntermediateKey
      | some key => exact respects_pure _
    · exact (h.loadIntermediateKey pointer).bind fun _ => respects_pure _
  · exact h.notice _ _ _ handle

lemma decrypt (h : e.ReadsWithin E R) (text : Bytes) : (e.decrypt text).Respects R := by
  unfold Engine.decrypt
  refine (respects_ofExcept _).bind fun row => (respects_ofExcept _).bind fun rd => ?_
  refine (h.intermediateKeyForRead rd.pointer).bind fun key => ?_
  exact h.liftM (respects_ofExcept _)

end ReadsWithin

/-- The steps of which an engine's writes are made keep the relations too. -/
structure WorksWithin (e : Engine) (E : Environment → Environment → Prop)
    (R : Workspace → Workspace → Prop) : Prop extends e.ReadsWithin E R where
  latestRecord : ∀ keyId, (Effect.latestRecord keyId).Respects E
  insertRecord : ∀ keyId r, (Effect.insertRecord keyId r).Respects E
  sealing : ∀ {α : Type} (a : Sealing α), (Effect.sealing a).Respects E
  callWrap : ∀ key, (e.service.callWrap key).Respects E

namespace WorksWithin

variable {e : Engine} {E : Environment → Environment → Prop} {R : Workspace → Workspace → Prop}
  [IsPreorder Environment E]

/-! ### Writes -/

lemma now (_ : e.WorksWithin E R) : Effect.now.Respects E :=
  respects_ofState fun env => refl_of E env

lemma createSystemKey (h : e.WorksWithin E R) : e.createSystemKey.Respects E := by
  unfold Engine.createSystemKey
  refine h.now.bind fun now => (h.sealing _).bind fun key => ?_
  refine (h.callWrap key).bind fun wrapped => (h.insertRecord _ _).bind fun won => ?_
  split
  · exact (h.emit _).bind fun _ => respects_pure _
  · refine (h.emit _).bind fun _ => (h.latestRecord _).bind fun found => ?_
    cases found with
    | none => exact respects_throw _
    | some r => exact h.openSystemRecord r

lemma latestOrNewSystemKey (h : e.WorksWithin E R) : e.latestOrNewSystemKey.Respects E := by
  unfold Engine.latestOrNewSystemKey
  refine (h.latestRecord _).bind fun found => ?_
  cases found with
  | none => exact h.createSystemKey
  | some r =>
    refine (h.isUsable _ _ _).bind fun usable => ?_
    split
    · exact h.openSystemRecord r
    · exact h.createSystemKey

variable [IsPreorder Workspace R]

lemma systemKeyForWrite (h : e.WorksWithin E R) : e.systemKeyForWrite.Respects R := by
  have hresolve : (do e.retainSystemKey (← e.latestOrNewSystemKey) : Work KeyHandle).Respects R :=
    (h.liftM h.latestOrNewSystemKey).bind h.retainSystemKey
  unfold Engine.systemKeyForWrite
  dsimp only
  split
  · refine (respects_ofState fun w => refl_of R w).bind fun cached => ?_
    cases cached with
    | none => exact hresolve
    | some key =>
      refine (h.liftM (h.isUsable _ _ _)).bind fun usable => ?_
      split
      · exact respects_pure _
      · exact hresolve
  · exact hresolve

lemma reloadIntermediateKey (h : e.WorksWithin E R) : e.reloadIntermediateKey.Respects R := by
  unfold Engine.reloadIntermediateKey
  refine (h.liftM (h.latestRecord _)).bind fun found => ?_
  cases found with
  | none => exact respects_throw _
  | some r =>
    dsimp only
    cases r.parent with
    | none => exact respects_throw _
    | some pointer => exact h.openThrough r pointer

lemma createIntermediateKey (h : e.WorksWithin E R) : e.createIntermediateKey.Respects R := by
  unfold Engine.createIntermediateKey
  refine (h.liftM h.now).bind fun now => (h.liftM (h.sealing _)).bind fun key => ?_
  refine h.systemKeyForWrite.bind fun systemKey => (h.liftM (h.sealing _)).bind fun wrapped => ?_
  refine (h.liftM (h.insertRecord _ _)).bind fun won => ?_
  split
  · exact (h.liftM (h.emit _)).bind fun _ => respects_pure _
  · exact (h.liftM (h.emit _)).bind fun _ => h.reloadIntermediateKey

lemma latestOrNewIntermediateKey (h : e.WorksWithin E R) :
    e.latestOrNewIntermediateKey.Respects R := by
  have hcreate (event : Event) : (do
      Effect.emit event
      e.createIntermediateKey : Work Key).Respects R :=
    (h.liftM (h.emit event)).bind fun _ => h.createIntermediateKey
  unfold Engine.latestOrNewIntermediateKey
  refine (h.liftM (h.latestRecord _)).bind fun found => ?_
  cases found with
  | none => exact h.createIntermediateKey
  | some r =>
    refine (h.liftM (h.isUsable _ _ _)).bind fun usable => ?_
    split
    · cases r.parent with
      | none => exact hcreate _
      | some pointer =>
        refine (h.systemKey pointer true).bind fun found => ?_
        cases found with
        | found systemKey => exact h.liftM (h.openIntermediateRecord r systemKey.key)
        | unusable => exact hcreate _
        | notFound => exact hcreate _
    · exact h.createIntermediateKey

lemma intermediateKeyForWrite (h : e.WorksWithin E R) : e.intermediateKeyForWrite.Respects R := by
  have hresolve : (do
      e.retainIntermediateKey (← e.latestOrNewIntermediateKey) : Work KeyHandle).Respects R :=
    h.latestOrNewIntermediateKey.bind h.retainIntermediateKey
  unfold Engine.intermediateKeyForWrite
  dsimp only
  split
  · refine (respects_ofState fun w => refl_of R w).bind fun cached => ?_
    cases cached with
    | none => exact hresolve
    | some key =>
      refine (h.liftM (h.isUsable _ _ _)).bind fun usable => ?_
      split
      · exact respects_pure _
      · exact hresolve
  · exact hresolve

lemma encrypt (h : e.WorksWithin E R) (payload : Bytes) : (e.encrypt payload).Respects R := by
  unfold Engine.encrypt
  refine h.intermediateKeyForWrite.bind fun key => (h.liftM h.now).bind fun now => ?_
  exact (h.liftM (h.sealing _)).bind fun _ => respects_pure _

end WorksWithin

end Engine

end Envelope
