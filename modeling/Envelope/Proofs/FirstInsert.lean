import Envelope.Proofs.Rivals
import Envelope.Proofs.Writing

/-!
The first insert of a write.

Without records of its partition, a write creates a system key before it creates anything else. No
rival is met until then, so this is so whoever comes after.
-/

namespace Envelope

open Envelope.Action

/-- The trace goes on with an insert under the id, of this creation time. -/
def Environment.Begins (e e' : Environment) (keyId : String) (created : Stamp) : Prop :=
  ∃ won rest, e'.insertions = e.insertions ++ ⟨keyId, created, won⟩ :: rest

/-- However it ends, the computation makes such an insert before any other. -/
def Begins {σ α : Type} (part : σ → Environment) (a : Action σ Error α) (s : σ) (keyId : String)
    (created : Stamp) : Prop :=
  a.Yields s (fun _ t => (part s).Begins (part t) keyId created)
    fun _ t => (part s).Begins (part t) keyId created

variable {σ α β : Type} {part : σ → Environment} {p : Partition} {t : σ} {keyId : String}
  {created : Stamp} {rivals : List (Option Rival)}

lemma Environment.Begins.of_still {e e' e'' : Environment} (h : e'.Begins e'' keyId created)
    (hstill : e.Still e') : e.Begins e'' keyId created := by
  obtain ⟨won, rest, hrest⟩ := h
  exact ⟨won, rest, hstill.insertions ▸ hrest⟩

/-- What only reads may come before. -/
lemma Observes.begins_bind {a : Action σ Error β} {f : β → Action σ Error α}
    {A : β → σ → Prop} (ha : Observes part a t A) (hf : (part t).faults = .rivals rivals)
    (hnext : ∀ x u, A x u → (part u).faults = .rivals rivals →
      Begins part (f x) u keyId created) :
    Begins part (a >>= f) t keyId created :=
  ha.bind hf fun x u hx hstill hfu => Yields.mono (hnext x u hx hfu)
    (fun _ _ h => h.of_still hstill) fun _ _ h => h.of_still hstill

lemma Observes.begins_lift_bind {a : Effect β} {f : β → Engine.Work α} {w : Engine.Workspace}
    {A : β → Environment → Prop} (ha : Observes id a w.environment A)
    (hf : w.environment.faults = .rivals rivals)
    (hnext : ∀ x env, A x env → env.faults = .rivals rivals →
      Begins (·.environment) (f x) { w with environment := env } keyId created) :
    Begins (·.environment) (liftM a >>= f) w keyId created :=
  ha.lift_bind hf fun x env hx hstill hfu => Yields.mono (hnext x env hx hfu)
    (fun _ _ h => h.of_still hstill) fun _ _ h => h.of_still hstill

/-- Anything may come after. -/
lemma Begins.bind {a : Action σ Error β} {f : β → Action σ Error α} {X : α → Prop}
    (h : Begins part a t keyId created) (hb : ∀ x, (Reach.writing p).Bounds part (f x) X) :
    Begins part (a >>= f) t keyId created := by
  refine Yields.bind h (fun x u hu => ?_) fun _ _ hu => hu
  obtain ⟨won, rest, hrest⟩ := hu
  have after : ∀ v, (Reach.writing p).Goes (part u) (part v) →
      (part t).Begins (part v) keyId created := by
    intro v hv
    obtain ⟨made, hmade⟩ := hv.insertions
    exact ⟨won, rest ++ made, by rw [hmade, hrest, List.append_assoc, List.cons_append]⟩
  exact (hb x u (closed_writing p _)).mono (fun _ v hv => after v hv.2) fun _ v hv => after v hv

/-- What happens in the environment of an engine. -/
lemma Begins.lift {a : Effect α} {w : Engine.Workspace}
    (h : Begins id a w.environment keyId created) :
    Begins (·.environment) (liftM a : Engine.Work α) w keyId created :=
  Engine.yields_lift.2 h

namespace Engine

variable {e : Engine} {m : Key} {env : Environment} {w : Workspace}

/-- A system key is created at the present step. -/
lemma begins_createSystemKey (hs : e.service = .master m) (hf : env.faults = .rivals rivals) :
    Begins id e.createSystemKey env e.partition.systemKeyId
      (e.policy.systemStamp env.clock.wall) := by
  unfold createSystemKey
  rw [hs]
  refine yields_bind.2 ?_
  refine (Effect.observes_generateKey _ _).begins_bind hf fun key env₁ h hf₁ => ?_
  obtain ⟨⟨hcreated, -⟩, -⟩ := h
  refine (Effect.observes_callWrap hf₁ m key).begins_bind hf₁ fun wrapped env₂ h hf₂ => ?_
  have hinsert : Begins id (Effect.insertRecord e.partition.systemKeyId
      (.system key.created wrapped (some false))) env₂ e.partition.systemKeyId
      (e.policy.systemStamp env.clock.wall) :=
    Yields.mono (Effect.yields_insertRecord_rivals (m := m) hf₂ _ _)
      (fun won _ h => ⟨won, [], hcreated ▸ h.insertions⟩) fun _ _ h => h.elim
  refine hinsert.bind (p := e.partition) (X := fun _ => True) fun won => ?_
  split
  · exact (Effect.bounds_emit _).bind fun _ _ => Reach.bounds_pure trivial
  · exact bounds_reloadSystemKey hs trivial

/-! ### Without records of the partition -/

section Fresh

variable (hw : e.Grounded m w) (hf : w.environment.faults = .rivals rivals)
  (hsystem : ∀ t, w.environment.store.load? e.partition.systemKeyId t = none)

lemma begins_latestOrNewSystemKey (hs : e.service = .master m) (hsound : env.store.Sound m)
    (hf : env.faults = .rivals rivals)
    (hsystem : ∀ t, env.store.load? e.partition.systemKeyId t = none) :
    Begins id e.latestOrNewSystemKey env e.partition.systemKeyId
      (e.policy.systemStamp env.clock.wall) := by
  unfold latestOrNewSystemKey
  refine (Effect.observes_latestRecord hf _).begins_bind hf fun found env₁ h hf₁ => ?_
  obtain ⟨hfound, hk⟩ := h
  cases found with
  | none => exact hk.clock ▸ begins_createSystemKey hs hf₁
  | some r => exact absurd (hsound.dated.latest? hfound.symm).1 (by simp [hsystem])

include hw hf hsystem

lemma begins_systemKeyForWrite : Begins (·.environment) e.systemKeyForWrite w
    e.partition.systemKeyId (e.policy.systemStamp w.environment.clock.wall) := by
  have resolve : Begins (·.environment) (do
      let key ← liftM e.latestOrNewSystemKey
      e.retainSystemKey key : Work KeyHandle) w e.partition.systemKeyId
      (e.policy.systemStamp w.environment.clock.wall) :=
    (begins_latestOrNewSystemKey hw.service hw.store hf hsystem).lift.bind (p := e.partition)
      fun k => bounds_retainSystemKey k
  unfold systemKeyForWrite
  dsimp only
  split
  · unfold latestSystemKey?
    refine yields_bind.2 ?_
    cases hl : w.systemKeys.latest? w.environment.clock.elapsed with
    | none =>
      simp only [yields_ofState, hl]
      exact resolve
    | some tk =>
      obtain ⟨-, k, hk, -⟩ := hw.systemKeys.latest? hl
      obtain ⟨r, hr, -⟩ := Store.systemKey_eq_ok hk
      exact absurd hr (by simp [hsystem])
  · exact resolve

lemma begins_createIntermediateKey : Begins (·.environment) e.createIntermediateKey w
    e.partition.systemKeyId (e.policy.systemStamp w.environment.clock.wall) := by
  unfold createIntermediateKey
  refine yields_bind.2 (yields_lift.2 ?_)
  rw [Effect.yields_now]
  refine (Effect.observes_generateKey _ _).begins_lift_bind hf fun key env h hf₁ => ?_
  obtain ⟨-, hk⟩ := h
  have hreads : e.Reads m w { w with environment := env } := .of_keeps hk
  have hbegins := begins_systemKeyForWrite (hw.reads hreads) hf₁ (by rw [hk.store]; exact hsystem)
  rw [hk.clock] at hbegins
  exact hbegins.bind (p := e.partition) fun systemKey =>
    bounds_insertIntermediate hw.service id rfl trivial key systemKey

variable (hintermediate : ∀ t, w.environment.store.load? e.partition.intermediateKeyId t = none)

include hintermediate

/-- **Without records of the partition**, a write creates a system key first. -/
theorem begins_encrypt (payload : Bytes) : Begins (·.environment) (e.encrypt payload) w
    e.partition.systemKeyId (e.policy.systemStamp w.environment.clock.wall) := by
  have newest : Begins (·.environment) e.latestOrNewIntermediateKey w e.partition.systemKeyId
      (e.policy.systemStamp w.environment.clock.wall) := by
    unfold latestOrNewIntermediateKey
    refine (Effect.observes_latestRecord hf _).begins_lift_bind hf fun found env h hf₁ => ?_
    obtain ⟨hfound, hk⟩ := h
    cases found with
    | none =>
      have hreads : e.Reads m w { w with environment := env } := .of_keeps hk
      exact hk.clock ▸
        begins_createIntermediateKey (hw.reads hreads) hf₁ (by rw [hk.store]; exact hsystem)
    | some r => exact absurd (hw.dated.latest? hfound.symm).1 (by simp [hintermediate])
  have resolve : Begins (·.environment) (do
      let key ← e.latestOrNewIntermediateKey
      e.retainIntermediateKey key : Work KeyHandle) w e.partition.systemKeyId
      (e.policy.systemStamp w.environment.clock.wall) :=
    newest.bind (p := e.partition) fun k => bounds_retainIntermediateKey k
  unfold encrypt
  refine Begins.bind (p := e.partition) (X := fun _ => True) ?_ fun handle =>
    Effect.bounds_now.lift.bind fun _ _ => (Effect.bounds_sealing _).lift.bind
      fun _ _ => Reach.bounds_pure trivial
  unfold intermediateKeyForWrite
  dsimp only
  split
  · unfold latestIntermediateKey?
    refine yields_bind.2 ?_
    cases hl : w.intermediateKeys.latest? w.environment.clock.elapsed with
    | none =>
      simp only [yields_ofState, hl]
      exact resolve
    | some tk =>
      obtain ⟨-, k, hk, -⟩ := hw.intermediateKeys.latest? hl
      obtain ⟨r, _, _, hr, -⟩ := Store.intermediateKey_eq_ok hk
      exact absurd hr (by simp [hintermediate])
  · exact resolve

end Fresh

end Engine

end Envelope
