import Envelope.Proofs.Secrecy.Guises
import Envelope.Proofs.Secrecy.Payloads

/-!
Two worlds that differ in their secrets.

Such worlds are twins: without their secrets they are the same, and each is sound for its own master
key, whatever failures are planned. Requests keep them twins, and what is sealed in both differs in
ciphertexts alone.
-/

namespace Envelope

open Envelope.Action Kinship Engine

namespace World

variable {m n : Key} {w w' : World} {α : Type}

/-- The world with no failure planned. -/
def calm (w : World) : World := { w with environment := { w.environment with faults := .none } }

lemma under_plan_none (w : World) : w.under (.plan .none) = w.calm := w.under_plan .none

/-- The worlds are sound and have one outline. -/
structure Twins (m n : Key) (w w' : World) : Prop where
  outline : w.under .outline = w'.under .outline
  left : w.calm.Sound m
  right : w'.calm.Sound n
  alone : w.environment.faults.Alone

/-! ### Plain requests -/

lemma Twins.faults (h : w.Twins m n w') : w.environment.faults = w'.environment.faults := by
  have hfaults : (w.under .outline).environment.faults =
      (w'.under .outline).environment.faults := by
    rw [h.outline]
  exact hfaults

/-- **A plain request** keeps twins alike, and their stores grow. -/
lemma Twins.apply (h : w.Twins m n w') {q : Request} (hq : q.IsPlain) :
    (w.apply q).Twins m n (w'.apply q) ∧
      w.environment.store.Grows (w.apply q).environment.store ∧
      w'.environment.store.Grows (w'.apply q).environment.store := by
  have calmed : ∀ (w : World), (w.apply q).calm = w.calm.apply q := fun w => by
    rw [← under_plan_none, ← under_plan_none, under_apply _ _ hq]
  have grows : ∀ {m : Key} {w : World}, w.calm.Sound m →
      w.environment.store.Grows (w.apply q).environment.store := by
    intro m w hw
    have hgrows := ((hw.apply q).2.follows hw).store
    rw [← calmed] at hgrows
    exact hgrows
  refine ⟨⟨?_, ?_, ?_, ?_⟩, grows h.left, grows h.right⟩
  · rw [under_apply _ _ hq, under_apply _ _ hq, h.outline]
  · rw [calmed]
    exact (h.left.apply q).1
  · rw [calmed]
    exact (h.right.apply q).1
  · rw [faults_apply w hq]
    exact h.alone

/-- The same failures planned in both. -/
lemma Twins.plan (h : w.Twins m n w') {faults : Faults} (hf : faults.Alone) :
    Twins m n { w with environment := { w.environment with faults } }
      { w' with environment := { w'.environment with faults } } where
  outline := congrArg (fun w : World =>
    { w with environment := { w.environment with faults } }) h.outline
  left := h.left
  right := h.right
  alone := hf

/-! ### Engines at work -/

/-- Engines of one number in both worlds, with the caches they share. -/
structure Seats (m n : Key) (w w' : World) (i : Nat) (s s' : EngineState) (c c' : KeyCache) :
    Prop where
  left : ∃ f, Seat m w.calm i s f c
  right : ∃ f, Seat n w'.calm i s' f c'
  engine : Guise.outline.engine s = Guise.outline.engine s'
  systemKeys : c.outline = c'.outline

lemma Twins.seats (h : w.Twins m n w') (i : Nat) :
    w.engines[i]? = none ∧ w'.engines[i]? = none ∨ ∃ s s' c c', Seats m n w w' i s s' c c' := by
  have hengine : (w.engines[i]?).map Guise.outline.engine =
      (w'.engines[i]?).map Guise.outline.engine := by
    rw [← List.getElem?_map, ← List.getElem?_map]
    exact congrArg (fun w : World => w.engines[i]?) h.outline
  cases hi : w.engines[i]? with
  | none =>
    rw [hi] at hengine
    exact Or.inl ⟨rfl, Option.map_eq_none_iff.1 hengine.symm⟩
  | some s =>
    rw [hi] at hengine
    obtain ⟨s', hi', hs⟩ := Option.map_eq_some_iff.1 hengine.symm
    obtain ⟨f, c, hseat⟩ := h.left.seat hi
    obtain ⟨f', c', hseat'⟩ := h.right.seat hi'
    refine Or.inr ⟨s, s', c, c', ⟨f, hseat⟩, ⟨f', hseat'⟩, hs.symm, ?_⟩
    obtain ⟨-, -, hnumber, -⟩ := Guise.engine_inj hs.symm
    have hcache : (w.systemKeys[s.systemKeys]?).map KeyCache.outline =
        (w'.systemKeys[s.systemKeys]?).map KeyCache.outline := by
      rw [← List.getElem?_map, ← List.getElem?_map]
      exact congrArg (fun w : World => w.systemKeys[s.systemKeys]?) h.outline
    have hc : w.systemKeys[s.systemKeys]? = some c := hseat.systemKeys
    have hc' : w'.systemKeys[s'.systemKeys]? = some c' := hseat'.systemKeys
    rw [hc, ← hnumber, hc'] at hcache
    exact Option.some.inj hcache

lemma Seats.twins {i : Nat} {s s' : EngineState} {c c' : KeyCache}
    (hs : Seats m n w w' i s s' c c') (h : w.Twins m n w') :
    (w.workspace s c).Twins s.partition s.policy m n (w'.workspace s' c') := by
  obtain ⟨f, hseat⟩ := hs.left
  obtain ⟨f', hseat'⟩ := hs.right
  obtain ⟨hp, hpol, -, hint⟩ := Guise.engine_inj hs.engine
  have henv : w.environment.outline = w'.environment.outline :=
    congrArg World.environment h.outline
  refine ⟨⟨henv, h.left.store, h.right.store, h.alone⟩, hs.systemKeys, hint, ?_, ?_⟩
  · exact ⟨hseat.sound.systemKeys, hseat.sound.intermediateKeys,
      hseat.revokeCheck.trans (congrArg _ hseat.isOf.policy.symm),
      hseat.isOf.revokeCheck.trans (congrArg _ hseat.isOf.policy.symm)⟩
  · rw [← hp, ← hpol]
    exact ⟨hseat'.sound.systemKeys, hseat'.sound.intermediateKeys,
      hseat'.revokeCheck.trans (congrArg _ hseat'.isOf.policy.symm),
      hseat'.isOf.revokeCheck.trans (congrArg _ hseat'.isOf.policy.symm)⟩

/-- Putting a workspace back keeps a world sound, whatever failures are planned. -/
lemma Seat.settle_calm {i : Nat} {s : EngineState} {f : Factory} {c : KeyCache}
    (hs : Seat m w.calm i s f c) (h : w.calm.Sound m) {v : Workspace}
    (hv : v.Mirrors s.partition s.policy m) (hsound : v.environment.store.Sound m)
    (hstore : w.environment.store.Extends v.environment.store) : (w.settle i s v).calm.Sound m :=
  h.settle_mirrors (v := { v with environment := { v.environment with faults := .none } }) hs
    hsound hstore Faults.failing_none
    ⟨hv.systemCheck.trans ((congrArg _ hs.isOf.policy).trans hs.revokeCheck.symm), hv.systemKeys⟩
    ⟨hv.intermediateCheck.trans ((congrArg _ hs.isOf.policy).trans hs.isOf.revokeCheck.symm),
      hv.intermediateKeys⟩

/-- Putting twin workspaces back keeps worlds twins. -/
lemma Seats.settle {i : Nat} {s s' : EngineState} {c c' : KeyCache}
    (hs : Seats m n w w' i s s' c c') (h : w.Twins m n w') (v v' : Workspace)
    (hv : (Workspace.kinship s.partition s.policy m n).After (w.workspace s c) (w'.workspace s' c')
      v v') : (w.settle i s v).Twins m n (w'.settle i s' v') := by
  obtain ⟨f, hseat⟩ := hs.left
  obtain ⟨f', hseat'⟩ := hs.right
  obtain ⟨hp, hpol, -, -⟩ := Guise.engine_inj hs.engine
  have htwins := hv.twins
  have hworkspace : Guise.outline.workspace v = Guise.outline.workspace v' := by
    unfold Guise.workspace
    rw [show Guise.outline.environment v.environment = _ from htwins.environment.outline,
      show Guise.outline.cache v.systemKeys = _ from htwins.systemKeys,
      show Guise.outline.cache v.intermediateKeys = _ from htwins.intermediateKeys]
    rfl
  refine ⟨?_, ?_, ?_, htwins.environment.alone⟩
  · rw [under_settle, under_settle, h.outline, hs.engine, hworkspace]
  · exact hseat.settle_calm h.left htwins.left htwins.environment.left hv.left
  · exact hseat'.settle_calm h.right (hp ▸ hpol ▸ htwins.right) htwins.environment.right hv.right

/-- What work of engines in both worlds comes to. -/
inductive WorksAlike (m n : Key) (w w' : World) (Q : α → α → Store → Store → Prop) :
    Option (Except Error α × World) → Option (Except Error α × World) → Prop where
  | none : WorksAlike m n w w' Q none none
  | ok (x y : α) (u u' : World) (twins : u.Twins m n u')
      (left : w.environment.store.Grows u.environment.store)
      (right : w'.environment.store.Grows u'.environment.store)
      (result : Q x y u.environment.store u'.environment.store) :
      WorksAlike m n w w' Q (some (.ok x, u)) (some (.ok y, u'))
  | error (err : Error) (u u' : World) (twins : u.Twins m n u')
      (left : w.environment.store.Grows u.environment.store)
      (right : w'.environment.store.Grows u'.environment.store) :
      WorksAlike m n w w' Q (some (.error err, u)) (some (.error err, u'))

/-- **Work of engines** keeps twins alike if it agrees in twin workspaces. -/
lemma Twins.work (h : w.Twins m n w') (i : Nat) {a b : Engine → Work α}
    {Q : α → α → Store → Store → Prop}
    (hab : ∀ {p policy v v'}, v.Twins p policy m n v' → v.environment = w.environment →
      v'.environment = w'.environment → (Workspace.kinship p policy m n).Agrees
        (a ⟨p, policy, .master m⟩) (b ⟨p, policy, .master n⟩) v v' Q) :
    WorksAlike m n w w' Q (w.work i a) (w'.work i b) := by
  rcases h.seats i with ⟨hi, hi'⟩ | ⟨s, s', c, c', hs⟩
  · rw [work_of_no_engine hi, work_of_no_engine hi']
    exact .none
  · have hagrees := hab (hs.twins h) rfl rfl
    have hsettle := hs.settle h
    obtain ⟨⟨f, hseat⟩, ⟨f', hseat'⟩, hengine, -⟩ := hs
    obtain ⟨hp, hpol, -, -⟩ := Guise.engine_inj hengine
    have hb : Bench m w i s c := ⟨hseat.engine, (h.left.bench hseat).service, hseat.systemKeys⟩
    have hb' : Bench n w' i s' c' :=
      ⟨hseat'.engine, (h.right.bench hseat').service, hseat'.systemKeys⟩
    have hself : s.engine m = ⟨s.partition, s.policy, .master m⟩ := rfl
    have hpeer : s'.engine n = ⟨s.partition, s.policy, .master n⟩ := by
      unfold EngineState.engine
      rw [hp, hpol]
    rw [hb.work_eq, hb'.work_eq, hself, hpeer]
    unfold Agrees Pairs at hagrees
    rcases ha : (a ⟨s.partition, s.policy, .master m⟩).outcome (w.workspace s c) with
      ⟨err | x, v⟩ <;>
      rcases hb : (b ⟨s.partition, s.policy, .master n⟩).outcome (w'.workspace s' c') with
        ⟨err' | y, v'⟩ <;> rw [ha, hb] at hagrees
    · obtain ⟨rfl, hafter⟩ := hagrees
      exact .error err _ _ (hsettle v v' hafter) hafter.left.grows hafter.right.grows
    · exact hagrees.elim
    · exact hagrees.elim
    · obtain ⟨hQ, hafter⟩ := hagrees
      exact .ok x y _ _ (hsettle v v' hafter) hafter.left.grows hafter.right.grows hQ

/-- The texts of records that differ in ciphertexts alone. -/
def TextsAlike (m n : Key) (text text' : Bytes) (s s' : Store) : Prop :=
  ∃ rd rd' : Readable, text = rd.row.toJson ∧ text' = rd'.row.toJson ∧ RowsAlike m n s s' rd rd'

lemma TextsAlike.mono {text text' : Bytes} {s s' t t' : Store}
    (h : TextsAlike m n text text' s s') (hl : s.Grows t) (hr : s'.Grows t') :
    TextsAlike m n text text' t t' := by
  obtain ⟨rd, rd', htext, htext', hrows⟩ := h
  exact ⟨rd, rd', htext, htext', hrows.mono hl hr⟩

lemma Twins.encrypt (h : w.Twins m n w') (i : Nat) (payload : Bytes) :
    WorksAlike m n w w' (TextsAlike m n) (w.encrypt i payload) (w'.encrypt i payload) := by
  refine h.work i fun htwins _ _ => ?_
  refine (agrees_encrypt htwins payload).bind fun row row' s s' hrows hafter => ?_
  obtain ⟨rd, rd', rfl, rfl, hrows⟩ := hrows
  exact agrees_pure hafter.twins ⟨rd, rd', rfl, rfl, hrows⟩

lemma Twins.decrypt (h : w.Twins m n w') (i : Nat) {text text' : Bytes}
    (htexts : TextsAlike m n text text' w.environment.store w'.environment.store) :
    WorksAlike m n w w' (fun x y _ _ => x = y) (w.decrypt i text) (w'.decrypt i text') := by
  obtain ⟨rd, rd', rfl, rfl, hrows⟩ := htexts
  refine h.work i fun htwins hv hv' => ?_
  exact agrees_decrypt htwins (hv ▸ hv' ▸ hrows)

end World

end Envelope
