import Envelope.Engine
import Envelope.Proofs.Computation
import Envelope.Proofs.Store

/-!
The calls of an engine on its clock, its store and its key management service.

Planned failures are errors without effect here: a call that meets one fails with that very error.
A call keeps the clock, takes failures off the plan and, but for an insert, keeps the store.
-/

namespace Envelope

open Envelope.Action

/-! ### Planned failures -/

namespace Faults

/-- Every look-up fails or finds what is there. -/
structure Truthful (f : Faults) : Prop where
  latest : ∀ x, some x ∈ f.latest → ∃ err, x = .fail err
  load : ∀ x, some x ∈ f.load → ∃ err, x = .fail err

/-- Every planned failure is an error without effect. -/
structure Failing (f : Faults) : Prop where
  latest : ∀ x, some x ∈ f.latest → ∃ err, x = .fail err
  load : ∀ x, some x ∈ f.load → ∃ err, x = .fail err
  insert : ∀ x, some x ∈ f.insert → ∃ err, x = .fail err ∨ x = .refused err

lemma Failing.truthful {f : Faults} (h : f.Failing) : f.Truthful := ⟨h.latest, h.load⟩

/-- One of the planned failures is this error. -/
def Plans (f : Faults) (err : Error) : Prop :=
  some (.fail err) ∈ f.latest ∨ some (.fail err) ∈ f.load ∨
    (some (.fail err) ∈ f.insert ∨ some (.refused err) ∈ f.insert) ∨
    some err ∈ f.wrap ∨ some err ∈ f.unwrap

/-- The second plan is what is left of the first. -/
structure Leaves (f f' : Faults) : Prop where
  latest : f'.latest <:+ f.latest
  load : f'.load <:+ f.load
  insert : f'.insert <:+ f.insert
  wrap : f'.wrap <:+ f.wrap
  unwrap : f'.unwrap <:+ f.unwrap

variable {f f' f'' : Faults}

lemma Leaves.refl (f : Faults) : f.Leaves f :=
  ⟨List.suffix_refl _, List.suffix_refl _, List.suffix_refl _, List.suffix_refl _,
    List.suffix_refl _⟩

lemma Leaves.trans (h : f.Leaves f') (h' : f'.Leaves f'') : f.Leaves f'' :=
  ⟨h'.latest.trans h.latest, h'.load.trans h.load, h'.insert.trans h.insert,
    h'.wrap.trans h.wrap, h'.unwrap.trans h.unwrap⟩

lemma Leaves.truthful (h : f.Leaves f') (hf : f.Truthful) : f'.Truthful :=
  ⟨fun x hx => hf.latest x (h.latest.subset hx), fun x hx => hf.load x (h.load.subset hx)⟩

lemma Leaves.failing (h : f.Leaves f') (hf : f.Failing) : f'.Failing :=
  ⟨fun x hx => hf.latest x (h.latest.subset hx), fun x hx => hf.load x (h.load.subset hx),
    fun x hx => hf.insert x (h.insert.subset hx)⟩

lemma Leaves.plans (h : f.Leaves f') {err : Error} (hp : f'.Plans err) : f.Plans err := by
  rcases hp with hp | hp | (hp | hp) | hp | hp
  · exact Or.inl (h.latest.subset hp)
  · exact Or.inr (Or.inl (h.load.subset hp))
  · exact Or.inr (Or.inr (Or.inl (Or.inl (h.insert.subset hp))))
  · exact Or.inr (Or.inr (Or.inl (Or.inr (h.insert.subset hp))))
  · exact Or.inr (Or.inr (Or.inr (Or.inl (h.wrap.subset hp))))
  · exact Or.inr (Or.inr (Or.inr (Or.inr (h.unwrap.subset hp))))

lemma failing_none : Faults.none.Failing := by
  constructor <;> intro x hx <;> cases hx

lemma not_plans_none (err : Error) : ¬ Faults.none.Plans err := by
  simp [Plans, Faults.none]

lemma Leaves.eq_none (h : Faults.none.Leaves f) : f = .none := by
  obtain ⟨a, b, c, d, e⟩ := f
  obtain ⟨h1, h2, h3, h4, h5⟩ := h
  simp only [Faults.none, List.suffix_nil] at h1 h2 h3 h4 h5 ⊢
  simp only [h1, h2, h3, h4, h5]

end Faults

lemma nextFault_suffix {α : Type} (l : List (Option α)) : (nextFault l).2 <:+ l := by
  cases l with
  | nil => exact List.suffix_refl _
  | cons f rest => exact List.suffix_cons f rest

lemma mem_of_nextFault {α : Type} {l : List (Option α)} {x : α} (h : (nextFault l).1 = some x) :
    some x ∈ l := by
  cases l with
  | nil => cases h
  | cons f rest => exact h ▸ List.mem_cons_self

/-! ### What a call does to the environment -/

namespace Environment

/-- The clock and the store are as before, and no failure is planned that was not. -/
structure Keeps (e e' : Environment) : Prop where
  clock : e'.clock = e.clock
  store : e'.store = e.store
  faults : e.faults.Leaves e'.faults

/-- The clock is as before, records may be new, and no failure is planned that was not. -/
structure Proceeds (e e' : Environment) : Prop where
  clock : e'.clock = e.clock
  store : e.store.Extends e'.store
  faults : e.faults.Leaves e'.faults

variable {e e' e'' : Environment}

lemma Keeps.refl (e : Environment) : e.Keeps e := ⟨rfl, rfl, .refl _⟩

lemma Keeps.trans (h : e.Keeps e') (h' : e'.Keeps e'') : e.Keeps e'' :=
  ⟨h'.clock.trans h.clock, h'.store.trans h.store, h.faults.trans h'.faults⟩

end Environment

namespace Effect

variable {e : Environment}

@[simp] lemma yields_now {Q : Time → Environment → Prop} {E : Error → Environment → Prop} :
    now.Yields e Q E ↔ Q e.clock.wall e := Iff.rfl

@[simp] lemma yields_emit {event : Event} {Q : Unit → Environment → Prop}
    {E : Error → Environment → Prop} :
    (emit event).Yields e Q E ↔ Q () { e with log := e.log ++ [event] } := Iff.rfl

@[simp] lemma yields_note {call : Call} {Q : Unit → Environment → Prop}
    {E : Error → Environment → Prop} :
    (note call).Yields e Q E ↔ Q () { e with calls := e.calls ++ [call] } := Iff.rfl

lemma keeps_log (e : Environment) (event : Event) :
    e.Keeps { e with log := e.log ++ [event] } := ⟨rfl, rfl, .refl _⟩

/-! ### Random bytes -/

lemma yields_sealing {α : Type} {a : Sealing α} {Q : α → Prop} {F : CipherFault → Prop}
    (h : a.Yields e.random (fun x _ => Q x) fun fault _ => F fault) :
    (sealing a).Yields e (fun x e' => Q x ∧ e.Keeps e')
      (fun err e' => (∃ fault, err = .ofCipher fault ∧ F fault) ∧ e.Keeps e') := by
  unfold sealing
  refine yields_zoom.2 (yields_mapError.2 (h.mono (fun x _ hx => ?_) fun fault _ hf => ?_))
  · exact ⟨hx, rfl, rfl, .refl _⟩
  · exact ⟨⟨fault, rfl, hf⟩, rfl, rfl, .refl _⟩

lemma yields_generateKey (created : Stamp) :
    (generateKey created).Yields e
      (fun k e' => (k.created = created ∧ k.revoked = false) ∧ e.Keeps e') (fun _ _ => False) := by
  refine (yields_sealing (Q := fun k => k.created = created ∧ k.revoked = false)
    (F := fun _ => False) ?_).mono (fun _ _ h => h) fun _ _ h => ?_
  · exact ⟨rfl, rfl⟩
  · obtain ⟨⟨_, _, h⟩, _⟩ := h
    exact h

lemma yields_opened {α : Type} (r : Except CipherFault α) :
    (opened r).Yields e (fun x e' => r.mapError Error.ofCipher = .ok x ∧ e' = e)
      (fun err e' => r.mapError Error.ofCipher = .error err ∧ e' = e) :=
  yields_ofExcept (fun _ h => ⟨h, rfl⟩) fun _ h => ⟨h, rfl⟩

/-! ### The store -/

/-- **The latest record**, or a planned failure. -/
lemma yields_latestRecord (hf : e.faults.Truthful) (id : String) :
    (latestRecord id).Yields e (fun r e' => r = e.store.latest? id ∧ e.Keeps e')
      (fun err e' => e.faults.Plans err ∧ e.Keeps e') := by
  have keeps : ∀ calls, e.Keeps { e with
      faults := { e.faults with latest := (nextFault e.faults.latest).2 }, calls } := fun _ =>
    ⟨rfl, rfl, { Faults.Leaves.refl e.faults with latest := nextFault_suffix _ }⟩
  unfold latestRecord nextLatestFault
  simp only [yields_bind, yields_ofState, yields_note]
  cases hn : (nextFault e.faults.latest).1 with
  | none =>
    refine yields_ofExcept (fun _ h => ?_) fun _ h => by cases h
    cases h
    exact ⟨rfl, keeps _⟩
  | some x =>
    obtain ⟨err, rfl⟩ := hf.latest x (mem_of_nextFault hn)
    refine yields_ofExcept (fun _ h => by cases h) fun _ h => ?_
    cases h
    exact ⟨Or.inl (mem_of_nextFault hn), keeps _⟩

/-- **The record that a pointer names**, or a planned failure. -/
lemma yields_loadRecord (hf : e.faults.Truthful) (p : KeyMeta) :
    (loadRecord p).Yields e
      (fun r e' => r = e.store.load? p.keyId p.created.time ∧ e.Keeps e')
      (fun err e' => e.faults.Plans err ∧ e.Keeps e') := by
  have keeps : ∀ calls, e.Keeps { e with
      faults := { e.faults with load := (nextFault e.faults.load).2 }, calls } := fun _ =>
    ⟨rfl, rfl, { Faults.Leaves.refl e.faults with load := nextFault_suffix _ }⟩
  unfold loadRecord nextLoadFault
  simp only [yields_bind, yields_ofState, yields_note]
  cases hn : (nextFault e.faults.load).1 with
  | none =>
    refine yields_ofExcept (fun _ h => ?_) fun _ h => by cases h
    cases h
    exact ⟨rfl, keeps _⟩
  | some x =>
    obtain ⟨err, rfl⟩ := hf.load x (mem_of_nextFault hn)
    refine yields_ofExcept (fun _ h => by cases h) fun _ h => ?_
    cases h
    exact ⟨Or.inr (Or.inl (mem_of_nextFault hn)), keeps _⟩

/-- **An insert** is made if the place is free, unless it meets a planned failure. -/
lemma yields_insertRecord (hf : e.faults.Failing) (id : String) (r : KeyRecord) :
    (insertRecord id r).Yields e
      (fun added e' => added = (e.store.load? id r.created.time).isNone ∧
        e'.store = (e.store.insert id r.created.time r).2 ∧ e.Proceeds e')
      (fun err e' => e.faults.Plans err ∧ e.Keeps e') := by
  have leaves : e.faults.Leaves { e.faults with insert := (nextFault e.faults.insert).2 } :=
    { Faults.Leaves.refl e.faults with insert := nextFault_suffix _ }
  unfold insertRecord nextInsertFault
  simp only [yields_bind, yields_ofState]
  cases hn : (nextFault e.faults.insert).1 with
  | none =>
    simp only [insertOutcome, storeInsert, yields_bind, yields_ofState, yields_pure, yields_note]
    refine yields_ofExcept (fun _ h => ?_) fun _ h => by cases h
    cases h
    exact ⟨rfl, rfl, rfl, Store.extends_insert _ _ _ _, leaves⟩
  | some x =>
    obtain ⟨err, rfl | rfl⟩ := hf.insert x (mem_of_nextFault hn)
    · simp only [insertOutcome, yields_pure, yields_note]
      refine yields_ofExcept (fun _ h => by cases h) fun _ h => ?_
      cases h
      exact ⟨Or.inr (Or.inr (Or.inl (Or.inl (mem_of_nextFault hn)))), rfl, rfl, leaves⟩
    · simp only [insertOutcome, yields_throw]
      exact ⟨Or.inr (Or.inr (Or.inl (Or.inr (mem_of_nextFault hn)))), rfl, rfl, leaves⟩

/-! ### The key management service of a master key -/

variable (m : Key)

/-- **A key is wrapped** so that the master key opens it, unless a planned failure is met. -/
lemma yields_callWrap (key : Key) :
    ((KeyService.master m).callWrap key).Yields e
      (fun wrapped e' => m.decrypt wrapped = .ok key.secret ∧ e.Keeps e')
      (fun err e' => e.faults.Plans err ∧ e.Keeps e') := by
  have leaves : e.faults.Leaves { e.faults with wrap := (nextFault e.faults.wrap).2 } :=
    { Faults.Leaves.refl e.faults with wrap := nextFault_suffix _ }
  unfold KeyService.callWrap nextWrapFault
  simp only [yields_bind, yields_ofState, yields_note]
  cases hn : (nextFault e.faults.wrap).1 with
  | none =>
    refine (yields_sealing (Key.wrap_yields m key _)).mono (fun _ _ h => ?_) fun _ _ h => ?_
    · exact ⟨h.1, h.2.clock, h.2.store, leaves.trans h.2.faults⟩
    · obtain ⟨⟨_, _, h⟩, _⟩ := h
      exact h.elim
  | some err =>
    exact ⟨Or.inr (Or.inr (Or.inr (Or.inl (mem_of_nextFault hn)))), rfl, rfl, leaves⟩

/-- **A key is unwrapped** with the master key, unless a planned failure is met. -/
lemma yields_callUnwrap (wrapped : Bytes) (created : Stamp) (revoked : Bool) :
    ((KeyService.master m).callUnwrap wrapped created revoked).Yields e
      (fun k e' => (m.unwrap wrapped created revoked).mapError Error.ofCipher = .ok k ∧
        e.Keeps e')
      (fun err e' => (e.faults.Plans err ∨
        (m.unwrap wrapped created revoked).mapError Error.ofCipher = .error err) ∧
        e.Keeps e') := by
  have leaves : e.faults.Leaves { e.faults with unwrap := (nextFault e.faults.unwrap).2 } :=
    { Faults.Leaves.refl e.faults with unwrap := nextFault_suffix _ }
  unfold KeyService.callUnwrap nextUnwrapFault
  simp only [yields_bind, yields_ofState, yields_note]
  cases hn : (nextFault e.faults.unwrap).1 with
  | none =>
    refine (yields_opened _).mono (fun _ _ h => ?_) fun _ _ h => ?_
    · exact ⟨h.1, h.2 ▸ ⟨rfl, rfl, leaves⟩⟩
    · exact ⟨Or.inr h.1, h.2 ▸ ⟨rfl, rfl, leaves⟩⟩
  | some err =>
    refine ⟨Or.inl ?_, rfl, rfl, leaves⟩
    exact Or.inr (Or.inr (Or.inr (Or.inr (mem_of_nextFault hn))))

end Effect

end Envelope
