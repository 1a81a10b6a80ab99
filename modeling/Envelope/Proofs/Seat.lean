import Envelope.Proofs.Sessions

/-!
Engines at work in a sound world.

An engine works on a workspace of its own, which is then put back into the world. What it answers,
and that the world stays sound, follows from what is known about the workspace.
-/

namespace Envelope

open Envelope.Action

/-! ### Work of an engine -/

/-- An engine with the master key for its key management service. -/
def EngineState.engine (s : EngineState) (m : Key) : Engine := ⟨s.partition, s.policy, .master m⟩

namespace World

variable {m : Key} {w w' w'' : World}

/-- The workspace of an engine, given its system key cache. -/
def workspace (w : World) (s : EngineState) (c : KeyCache) : Engine.Workspace :=
  ⟨w.environment, c, s.intermediateKeys⟩

/-- The world with the workspace of an engine put back. -/
def settle (w : World) (i : Nat) (s : EngineState) (v : Engine.Workspace) : World :=
  { w with
    environment := v.environment
    systemKeys := w.systemKeys.set s.systemKeys v.systemKeys
    engines := w.engines.set i { s with intermediateKeys := v.intermediateKeys } }

/-- An engine with the system key cache it shares, over the master key. -/
structure Bench (m : Key) (w : World) (i : Nat) (s : EngineState) (c : KeyCache) : Prop where
  engine : w.engines[i]? = some s
  service : w.keyServices[s.keyService]? = some (.master m)
  systemKeys : w.systemKeys[s.systemKeys]? = some c

/-- Everything there is to an engine of a sound world. -/
structure Seat (m : Key) (w : World) (i : Nat) (s : EngineState) (f : Factory) (c : KeyCache) :
    Prop where
  engine : w.engines[i]? = some s
  factory : w.factories[s.systemKeys]? = some f
  systemKeys : w.systemKeys[s.systemKeys]? = some c
  isOf : s.IsOf f w.environment.store.suffix
  revokeCheck : c.revokeCheck = f.policy.revokeCheck
  sound : (s.engine m).Sound m (w.workspace s c)

lemma Sound.seat (h : w.Sound m) {i : Nat} {s : EngineState} (hs : w.engines[i]? = some s) :
    ∃ f c, Seat m w i s f c := by
  obtain ⟨f, hf, ho⟩ := h.engine hs
  obtain ⟨c, hc, hr, hm⟩ := h.systemKeys hf
  refine ⟨f, c, hs, hf, hc, ho, hr, ?_⟩
  exact {
    service := rfl
    faults := h.faults.truthful
    failing := h.faults
    dated := h.store.dated
    systemKeys := ho.systemKeyId ▸ hm
    intermediateKeys := h.intermediateKeys hs
    store := h.store }

lemma work_of_no_engine {i : Nat} (h : w.engines[i]? = none) {α : Type}
    (a : Engine → Engine.Work α) : w.work i a = none := by
  unfold work
  rw [h]
  rfl

lemma Sound.bench (h : w.Sound m) {i : Nat} {s : EngineState} {f : Factory} {c : KeyCache}
    (hs : Seat m w i s f c) : Bench m w i s c where
  engine := hs.engine
  service := by
    rw [h.keyServices, hs.isOf.keyService, (h.factory hs.factory).1]
    rfl
  systemKeys := hs.systemKeys

/-- The work of an engine, as its outcome on the workspace of the engine. -/
lemma Bench.work_eq {i : Nat} {s : EngineState} {c : KeyCache} (hb : Bench m w i s c) {α : Type}
    (a : Engine → Engine.Work α) :
    w.work i a = some (((a (s.engine m)).outcome (w.workspace s c)).1,
      w.settle i s ((a (s.engine m)).outcome (w.workspace s c)).2) := by
  unfold work
  rw [hb.engine]
  simp only [Option.bind_eq_bind, Option.bind_some, hb.service, hb.systemKeys]
  rfl

/-- A workspace that has not changed is put back as it was. -/
lemma Bench.settle_workspace {i : Nat} {s : EngineState} {c : KeyCache} (hb : Bench m w i s c) :
    w.settle i s (w.workspace s c) = w := by
  show { w with systemKeys := w.systemKeys.set s.systemKeys c, engines := w.engines.set i s } = w
  rw [set_of_getElem? hb.systemKeys, set_of_getElem? hb.engine]

/-- The engines stay when a workspace is put back. -/
lemma engine_settle {i : Nat} {s : EngineState} (hs : w.engines[i]? = some s)
    (v : Engine.Workspace) {j : Nat} {s₀ : EngineState} (hl : w.engines[j]? = some s₀) :
    ∃ s', (w.settle i s v).engines[j]? = some s' ∧ s₀.SameSeat s' := by
  show ∃ s', (w.engines.set i { s with intermediateKeys := v.intermediateKeys })[j]? = some s' ∧ _
  by_cases hj : i = j
  · subst hj
    cases hs.symm.trans hl
    exact ⟨_, List.getElem?_set_self (List.getElem?_eq_some_iff.1 hl).1, rfl, rfl, rfl, rfl⟩
  · exact ⟨s₀, (List.getElem?_set_ne hj).trans hl, .refl _⟩

/-- Putting a workspace back keeps the world sound if its caches mirror the store it comes with. -/
lemma Sound.settle_mirrors (h : w.Sound m) {i : Nat} {s : EngineState} {f : Factory}
    {c : KeyCache} (hs : Seat m w i s f c) {v : Engine.Workspace}
    (hsound : v.environment.store.Sound m)
    (hstore : w.environment.store.Extends v.environment.store)
    (hf : v.environment.faults.Failing)
    (hsystem : v.systemKeys.revokeCheck = c.revokeCheck ∧ v.systemKeys.Mirrors fun t =>
      v.environment.store.systemKey m ⟨s.partition.systemKeyId, t⟩)
    (hintermediate : v.intermediateKeys.revokeCheck = s.intermediateKeys.revokeCheck ∧
      v.intermediateKeys.Mirrors fun t =>
        v.environment.store.intermediateKey m ⟨s.partition.intermediateKeyId, t⟩) :
    (w.settle i s v).Sound m := by
  have hg : w.environment.store.Grows v.environment.store := hstore.grows
  have hsuffix : v.environment.store.suffix = w.environment.store.suffix := hg.suffix
  have hw : Sound m { w with environment := v.environment } := h.withEnvironment hf hsound hg
  refine ⟨h.keyServices, hw.faults, hw.store, ?_, h.factory, fun {j g} hl => ?_, fun hl => ?_,
    fun hl => ?_, fun hl => (hw.sessions hl).mono rfl (engine_settle hs.engine v)⟩
  · exact (List.length_set ..).trans h.length
  · show ∃ c', (w.systemKeys.set s.systemKeys v.systemKeys)[j]? = some c' ∧ _
    by_cases hj : s.systemKeys = j
    · subst hj
      replace hl : w.factories[s.systemKeys]? = some g := hl
      rw [hs.factory] at hl
      cases hl
      refine ⟨v.systemKeys, List.getElem?_set_self (List.getElem?_eq_some_iff.1 hs.systemKeys).1,
        hsystem.1.trans hs.revokeCheck, ?_⟩
      show v.systemKeys.Mirrors fun t =>
        v.environment.store.systemKey m ⟨f.systemKeyId v.environment.store.suffix, t⟩
      rw [hsuffix, ← hs.isOf.systemKeyId]
      exact hsystem.2
    · obtain ⟨c', hc', hr, hm⟩ := hw.systemKeys hl
      exact ⟨c', (List.getElem?_set_ne hj).trans hc', hr, hm⟩
  · rcases getElem?_set_of_some hs.engine hl with ⟨rfl, rfl⟩ | ⟨-, hl⟩
    · refine ⟨f, hs.factory, hs.isOf.policy, hs.isOf.keyService, ?_,
        hintermediate.1.trans hs.isOf.revokeCheck⟩
      show ∃ id, s.partition = .ofIds id f.service f.product v.environment.store.suffix
      rw [hsuffix]
      exact hs.isOf.partition
    · exact hw.engine hl
  · rcases getElem?_set_of_some hs.engine hl with ⟨rfl, rfl⟩ | ⟨-, hl⟩
    · exact hintermediate.2
    · exact hw.intermediateKeys hl

lemma Sound.settle_advances (h : w.Sound m) {i : Nat} {s : EngineState} {f : Factory}
    {c : KeyCache} (hs : Seat m w i s f c) {v : Engine.Workspace}
    (hv : (s.engine m).Advances m (w.workspace s c) v) (hf : v.environment.faults.Failing) :
    (w.settle i s v).Sound m :=
  h.settle_mirrors hs hv.sound hv.store hf
    ⟨hv.systemKeys.revokeCheck, hs.sound.systemKeys.of_refreshes hv.systemKeys
      fun hk => ⟨_, hv.store.systemKey hk, .refl _⟩⟩
    ⟨hv.intermediateKeys.revokeCheck, hs.sound.intermediateKeys.of_refreshes hv.intermediateKeys
      fun hk => ⟨_, hv.store.intermediateKey hk, .refl _⟩⟩

lemma Sound.settle (h : w.Sound m) {i : Nat} {s : EngineState} {f : Factory} {c : KeyCache}
    (hs : Seat m w i s f c) {v : Engine.Workspace}
    (hv : (s.engine m).Evolves m (w.workspace s c) v) : (w.settle i s v).Sound m :=
  h.settle_advances hs hv.advances (hv.faults.failing h.faults)

/-- A cached intermediate key was cached before, or the engine at work caches it now. -/
lemma Seat.intermediate_settle {i : Nat} {s : EngineState} {f : Factory} {c : KeyCache}
    (hs : Seat m w i s f c) {v : Engine.Workspace} {j : Nat} {id : String} {t : Time}
    {e : CachedKey} (he : (w.settle i s v).HoldsIntermediate j id t e) :
    w.HoldsIntermediate j id t e ∨ j = i ∧ s.partition.intermediateKeyId = id ∧
      v.intermediateKeys.entries.get? t = some e := by
  obtain ⟨s', hs', hid, he⟩ := he
  rcases getElem?_set_of_some hs.engine hs' with ⟨rfl, rfl⟩ | ⟨-, hs'⟩
  · exact Or.inr ⟨rfl, hid, he⟩
  · exact Or.inl ⟨s', hs', hid, he⟩

/-- What sealing a payload comes to: a record that opens to the payload and names the intermediate
key it was sealed under, or a failure. -/
inductive Sealed (m : Key) (w : World) (s : EngineState) (c : KeyCache) (payload : Bytes) :
    Except Error Bytes → Engine.Workspace → Prop where
  | record (text : Bytes) (k : Key) (v : Engine.Workspace)
      (writes : (s.engine m).Writes m (w.workspace s c) k v)
      (named : DataRow.named? text = some ⟨s.partition.intermediateKeyId, k.created⟩)
      (opens : ∀ p : Partition, p.Accepts s.partition.intermediateKeyId →
        v.environment.store.openRow m p text = .ok payload) :
      Sealed m w s c payload (.ok text) v
  | failed (err : Error) (v : Engine.Workspace) (planned : w.environment.faults.Plans err)
      (prepares : (s.engine m).Prepares m (w.workspace s c) v) :
      Sealed m w s c payload (.error err) v
  | tooLong (k : Key) (v : Engine.Workspace) (long : Cipher.Siv.maxLength < payload.length)
      (writes : (s.engine m).Writes m (w.workspace s c) k v) :
      Sealed m w s c payload (.error (.ofCipher .aeadFailure)) v

lemma Sealed.writes_or_prepares {s : EngineState} {c : KeyCache} {payload : Bytes}
    {r : Except Error Bytes} {v : Engine.Workspace} (h : Sealed m w s c payload r v) :
    (∃ k, (s.engine m).Writes m (w.workspace s c) k v) ∨
      (s.engine m).Prepares m (w.workspace s c) v := by
  cases h with
  | record text k v writes => exact Or.inl ⟨k, writes⟩
  | failed err v planned prepares => exact Or.inr prepares
  | tooLong k v long writes => exact Or.inl ⟨k, writes⟩

lemma Sealed.evolves {s : EngineState} {c : KeyCache} {payload : Bytes}
    {r : Except Error Bytes} {v : Engine.Workspace} (h : Sealed m w s c payload r v) :
    (s.engine m).Evolves m (w.workspace s c) v := by
  rcases h.writes_or_prepares with ⟨k, writes⟩ | prepares
  · exact writes.evolves
  · exact prepares.evolves

/-- **An engine seals** a payload, if its workspace is sound. -/
lemma Bench.encrypt {i : Nat} {s : EngineState} {c : KeyCache} (hb : Bench m w i s c)
    (hs : (s.engine m).Sound m (w.workspace s c)) (payload : Bytes) :
    ∃ r v, w.encrypt i payload = some (r, w.settle i s v) ∧ Sealed m w s c payload r v := by
  have hy : (do return (← (s.engine m).encrypt payload).toJson : Engine.Work Bytes).Yields
      (w.workspace s c) (fun text v => Sealed m w s c payload (.ok text) v)
      (fun err v => Sealed m w s c payload (.error err) v) := by
    refine (Engine.yields_encrypt hs payload).bind (fun row v hr => ?_) fun err v he => ?_
    · obtain ⟨k, hw, hp, ho⟩ := hr
      exact .record _ k v hw ((DataRow.named?_toJson row).trans hp) ho
    · rcases he with ⟨hp, hv⟩ | ⟨⟨rfl, hl⟩, k, hw⟩
      · exact .failed err v hp hv
      · exact .tooLong k v hl hw
  exact ⟨_, _, hb.work_eq _, hy.outcome⟩

/-- **An engine of a sound world seals** a payload. -/
theorem Sound.encrypt (h : w.Sound m) {i : Nat} {s : EngineState} {f : Factory} {c : KeyCache}
    (hs : Seat m w i s f c) (payload : Bytes) :
    ∃ r v, w.encrypt i payload = some (r, w.settle i s v) ∧ Sealed m w s c payload r v :=
  (h.bench hs).encrypt hs.sound payload

/-- What a session answers is what it has sealed. -/
lemma Sound.sealed_of_encrypt (h : w.Sound m) {i : Nat} {payload : Bytes} {r : Except Error Bytes}
    {w' : World} (he : w.encrypt i payload = some (r, w')) :
    ∃ s f c v, Seat m w i s f c ∧ w' = w.settle i s v ∧ Sealed m w s c payload r v := by
  cases hi : w.engines[i]? with
  | none =>
    rw [World.encrypt, work_of_no_engine hi] at he
    cases he
  | some s =>
    obtain ⟨f, c, hseat⟩ := h.seat hi
    obtain ⟨r', v, hr, hsealed⟩ := h.encrypt hseat payload
    cases hr.symm.trans he
    exact ⟨s, f, c, v, hseat, rfl, hsealed⟩

/-- If no failure is planned, an engine seals any payload that the cipher takes. -/
lemma Bench.encrypt_cases {i : Nat} {s : EngineState} {c : KeyCache} (hb : Bench m w i s c)
    (hs : (s.engine m).Sound m (w.workspace s c)) (hf : w.environment.faults = .none)
    (payload : Bytes) :
    (∃ text v, w.encrypt i payload = some (.ok text, w.settle i s v) ∧
      Sealed m w s c payload (.ok text) v) ∨
    Cipher.Siv.maxLength < payload.length ∧
      (w.encrypt i payload).map Prod.fst = some (.error (.ofCipher .aeadFailure)) := by
  obtain ⟨r, v, hr, hsealed⟩ := hb.encrypt hs payload
  cases hsealed with
  | record text k v writes named opens =>
    exact Or.inl ⟨text, v, hr, .record text k v writes named opens⟩
  | failed err v planned prepares => exact absurd planned (hf ▸ Faults.not_plans_none err)
  | tooLong k v long writes => exact Or.inr ⟨long, by rw [hr]; rfl⟩

/-- If no failure is planned, any payload is sealed that the cipher takes. -/
lemma Sound.encrypt_ok (h : w.Sound m) (hf : w.environment.faults = .none) {i : Nat}
    {s : EngineState} {f : Factory} {c : KeyCache} (hs : Seat m w i s f c) (payload : Bytes)
    (hl : payload.length ≤ Cipher.Siv.maxLength) :
    ∃ text v, w.encrypt i payload = some (.ok text, w.settle i s v) ∧
      Sealed m w s c payload (.ok text) v := by
  rcases (h.bench hs).encrypt_cases hs.sound hf payload with hok | ⟨hlong, -⟩
  · exact hok
  · exact absurd hlong (Nat.not_lt.2 hl)

/-- **An engine opens** a record to what the store says, if its workspace is coherent. -/
lemma Bench.decrypt {i : Nat} {s : EngineState} {c : KeyCache} (hb : Bench m w i s c)
    (hs : (s.engine m).Coherent m (w.workspace s c)) (text : Bytes) :
    ∃ r v, w.decrypt i text = some (r, w.settle i s v) ∧
      (s.engine m).Opened m (w.workspace s c) text r v ∧
      (r = w.environment.store.openRow m s.partition text ∨
        ∃ err, r = .error err ∧ w.environment.faults.Plans err) := by
  refine ⟨_, _, hb.work_eq _, Action.Yields.outcome (P := fun r v =>
    (s.engine m).Opened m (w.workspace s c) text r v ∧
      (r = w.environment.store.openRow m s.partition text ∨
        ∃ err, r = .error err ∧ w.environment.faults.Plans err)) ?_⟩
  refine (Engine.yields_decrypt hs text).mono (fun payload v h => ?_)
    fun err v h => ?_
  · exact ⟨h.1, Or.inl h.2.symm⟩
  · exact ⟨h.1, h.2.symm.imp Eq.symm fun hp => ⟨err, rfl, hp⟩⟩

/-- If no failure is planned, an engine opens what the store says. -/
lemma Bench.decrypt_eq {i : Nat} {s : EngineState} {c : KeyCache} (hb : Bench m w i s c)
    (hs : (s.engine m).Coherent m (w.workspace s c)) (hf : w.environment.faults = .none)
    (text : Bytes) :
    (w.decrypt i text).map Prod.fst = some (w.environment.store.openRow m s.partition text) := by
  obtain ⟨r, v, hr, -, rfl | ⟨err, -, hplan⟩⟩ := hb.decrypt hs text
  · rw [hr]
    rfl
  · exact absurd hplan (hf ▸ Faults.not_plans_none err)

/-- **An engine of a sound world opens** a record to what the store says. -/
theorem Sound.decrypt (h : w.Sound m) {i : Nat} {s : EngineState} {f : Factory} {c : KeyCache}
    (hs : Seat m w i s f c) (text : Bytes) :
    ∃ r v, w.decrypt i text = some (r, w.settle i s v) ∧
      (s.engine m).Opened m (w.workspace s c) text r v ∧
      (r = w.environment.store.openRow m s.partition text ∨
        ∃ err, r = .error err ∧ w.environment.faults.Plans err) :=
  (h.bench hs).decrypt hs.sound.toCoherent text

end World

end Envelope
