import Envelope.Proofs.Admissions
import Envelope.Proofs.Custody
import Envelope.Proofs.Run

/-!
# Which engines of a factory are in use

For each factory a world shows, of an engine, whether the factory has made it, for which partition,
and whether it is still in use, which it is until it is disposed. Work, time and other factories
change none of that; a factory changes it when it lets sessions go, opens one or is disposed.
-/

namespace Envelope

/-- What the factory of a number has to do with an engine: nothing if it is another's, else the
partition and whether the engine is not disposed. -/
def EngineState.tenure (s : EngineState) (i : Nat) : Option (Partition × Bool) :=
  if s.systemKeys = i then some (s.partition, s.intermediateKeys.held.isSome) else none

lemma KeyCache.isEmpty_of_held {c : KeyCache} (h : c.held.isSome = false) :
    c.isDisposed = true ∧ c.isEmpty = true := by
  have hnone : c.held = none := by simpa using h
  rw [isDisposed, isEmpty, entries, hnone]
  exact ⟨rfl, rfl⟩

/-- The same factory once it is disposed. -/
def Factory.closed (f : Factory) : Factory :=
  { f with disposed := true, sessions := f.sessions.map (·.clear) }

lemma Factory.sameScope_closed (f : Factory) : f.SameScope f.closed := ⟨rfl, rfl, rfl, rfl, rfl⟩

namespace World

variable {w w' w'' : World} {i j n : Nat} {p : Partition} {b : Bool}

/-- What a factory has to do with the engine of a number. -/
def tenure (w : World) (i n : Nat) : Option (Partition × Bool) :=
  (w.engines[n]?).bind (·.tenure i)

/-- Whether the system key cache of a number is in use. -/
def inUse (w : World) (i : Nat) : Option Bool := (w.systemKeys[i]?).map (·.held.isSome)

lemma tenure_eq_some : w.tenure i n = some (p, b) ↔ ∃ s : EngineState, w.engines[n]? = some s ∧
    s.systemKeys = i ∧ s.partition = p ∧ s.intermediateKeys.held.isSome = b := by
  simp [tenure, EngineState.tenure, Option.bind_eq_some_iff]

/-- An engine that is in use although some were disposed was in use and was none of them. -/
lemma tenure_of_map {t : Option (Partition × Bool)} {out : List Nat}
    (h : t.map (fun t => (t.1, t.2 && decide (n ∉ out))) = some (p, true)) :
    t = some (p, true) ∧ n ∉ out := by
  obtain ⟨⟨q, b⟩, rfl, heq⟩ := Option.map_eq_some_iff.1 h
  obtain ⟨rfl, hb⟩ := Prod.mk.inj heq
  obtain ⟨rfl, hout⟩ := (Bool.and_eq_true _ _).mp hb
  exact ⟨rfl, of_decide_eq_true hout⟩

lemma lt_of_tenure (h : w.tenure i n = some (p, b)) : n < w.engines.length := by
  obtain ⟨s, hs, -⟩ := tenure_eq_some.1 h
  exact (List.getElem?_eq_some_iff.1 hs).1

/-- An engine has been made by one factory. -/
lemma tenure_of_ne (h : w.tenure j n = some (p, b)) (hne : i ≠ j) : w.tenure i n = none := by
  obtain ⟨s, hs, rfl, -⟩ := tenure_eq_some.1 h
  simp [tenure, EngineState.tenure, hs, hne.symm]

lemma tenure_of_le (h : w.engines.length ≤ n) : w.tenure i n = none := by
  rw [tenure, List.getElem?_eq_none h]
  rfl

/-! ### Letting engines go -/

/-- Whatever has become of the engines, there are the same factories, the clock has not moved and no
system key cache has been disposed. -/
structure Retains (w w' : World) : Prop where
  elapsed : w'.environment.clock.elapsed = w.environment.clock.elapsed
  suffix : w'.environment.store.suffix = w.environment.store.suffix
  factories : w'.factories = w.factories
  systemKeys : w'.systemKeys.map (·.held.isSome) = w.systemKeys.map (·.held.isSome)

namespace Retains

lemma trans (h : w.Retains w') (h' : w'.Retains w'') : w.Retains w'' where
  elapsed := h'.elapsed.trans h.elapsed
  suffix := h'.suffix.trans h.suffix
  factories := h'.factories.trans h.factories
  systemKeys := h'.systemKeys.trans h.systemKeys

lemma inUse (h : w.Retains w') (i : Nat) : w'.inUse i = w.inUse i := by
  simpa only [World.inUse, List.getElem?_map] using congrArg (·[i]?) h.systemKeys

lemma length_systemKeys (h : w.Retains w') : w'.systemKeys.length = w.systemKeys.length := by
  simpa using congrArg List.length h.systemKeys

end Retains

/-- The second world is the first after the engines of some numbers have been disposed, whatever
has been cached, stored or logged meanwhile. -/
structure Retires (w : World) (out : List Nat) (w' : World) : Prop extends w.Retains w' where
  length : w'.engines.length = w.engines.length
  tenure : ∀ i n, w'.tenure i n = (w.tenure i n).map fun t => (t.1, t.2 && decide (n ∉ out))

namespace Retires

variable {out out' : List Nat}

lemma refl (w : World) : w.Retires [] w := ⟨⟨rfl, rfl, rfl, rfl⟩, rfl, fun i n => by simp⟩

lemma trans (h : w.Retires out w') (h' : w'.Retires out' w'') : w.Retires (out ++ out') w'' where
  toRetains := h.toRetains.trans h'.toRetains
  length := h'.length.trans h.length
  tenure i n := by
    rw [h'.tenure, h.tenure, Option.map_map]
    congr 1
    funext t
    simp [Bool.and_assoc]

lemma foldl {step : World → CachedSession → World}
    (hstep : ∀ (w : World) s, w.Retires [s.engine] (step w s)) (w : World)
    (l : List CachedSession) : w.Retires (l.map (·.engine)) (l.foldl step w) := by
  induction l generalizing w with
  | nil => exact .refl w
  | cons s rest ih => exact (hstep w s).trans (ih (step w s))

/-- A factory is not concerned unless one of its engines goes. -/
lemma tenure_eq (h : w.Retires out w') (hout : ∀ n ∈ out, w.tenure i n = none) (n : Nat) :
    w'.tenure i n = w.tenure i n := by
  rw [h.tenure]
  cases ht : w.tenure i n with
  | none => rfl
  | some t =>
    have hn : n ∉ out := fun hmem => by simp [hout n hmem] at ht
    simp [hn]

end Retires

lemma retires_emit (w : World) (event : Event) : w.Retires [] (w.emit event) :=
  ⟨⟨rfl, rfl, rfl, rfl⟩, rfl, (Retires.refl w).tenure⟩

lemma retires_disposeEngine (w : World) (n : Nat) : w.Retires [n] (w.disposeEngine n) where
  toRetains := ⟨rfl, rfl, rfl, rfl⟩
  length := List.length_modify ..
  tenure i k := by
    simp only [World.tenure, disposeEngine, List.getElem?_modify]
    cases w.engines[k]? with
    | none => rfl
    | some s =>
      by_cases hk : n = k
      · by_cases hi : s.systemKeys = i <;> simp [EngineState.tenure, KeyCache.dispose, hk, hi]
      · by_cases hi : s.systemKeys = i <;> simp [EngineState.tenure, hk, hi, Ne.symm hk]

/-- The sessions that a request drives out. -/
lemma retires_evict (w : World) (a : Admission) :
    w.Retires (a.gone.map (·.engine)) (w.evict a) := by
  have hstep (event : CachedSession → Event) (w : World) (s : CachedSession) :
      w.Retires [s.engine] ((w.emit (event s)).disposeEngine s.engine) :=
    (w.retires_emit (event s)).trans (retires_disposeEngine _ s.engine)
  have hidle := Retires.foldl (hstep fun s => .idleSessionEvicted s.partition) w a.idle
  unfold evict Admission.gone
  cases a.oldest with
  | none => simpa using hidle
  | some s => simpa using hidle.trans (hstep (fun s => .oldestSessionEvicted s.partition) _ s)

/-! ### Factories that are disposed -/

lemma inUse_disposeSystemKeys (w : World) (j i : Nat) :
    (w.disposeSystemKeys j).inUse i =
      if j = i then (w.inUse i).map fun _ => false else w.inUse i := by
  simp only [inUse, disposeSystemKeys, List.getElem?_modify]
  split
  · simp [KeyCache.dispose, Function.comp_def]
  · simp

/-- A factory that is disposed lets all its sessions go, unless it was disposed before. -/
lemma disposeFactory_cases (w : World) (i : Nat) :
    (w.disposeFactory i = w ∧ ∀ f, w.factories[i]? = some f → f.disposed = true) ∨
      ∃ f w', w.factories[i]? = some f ∧
        (w.disposeSystemKeys f.systemKeys).Retires
          (((f.sessions.map (·.sessions)).getD []).map (·.engine)) w' ∧
        w.disposeFactory i =
          (w'.setFactory i f.closed).emit (.factoryDisposed f.product f.service) := by
  unfold disposeFactory
  cases hf : w.factories[i]? with
  | none => exact Or.inl ⟨rfl, fun _ h => nomatch h⟩
  | some f =>
    cases hd : f.disposed with
    | true => exact Or.inl ⟨by simp [hd], fun f' hf' => Option.some.inj hf' ▸ hd⟩
    | false =>
      refine Or.inr ⟨f, _, rfl, Retires.foldl (fun w s => retires_disposeEngine w s.engine) _ _, ?_⟩
      simp only [hd, Bool.false_eq_true, if_false]
      rfl

/-! ### Work -/

/-- **Work** of an engine disposes none and revives none. -/
lemma retires_work {α : Type} {a : Engine → Engine.Work α} {r : Except Error α}
    (ha : ∀ e, (a e).Respects Engine.Workspace.Abides) (h : w.work n a = some (r, w')) :
    w.Retires [] w' := by
  unfold work at h
  simp only [Option.bind_eq_bind, Option.bind_eq_some_iff] at h
  obtain ⟨s, hs, service, -, c, hc, heq⟩ := h
  have habides := ha ⟨s.partition, s.policy, service⟩ ⟨w.environment, c, s.intermediateKeys⟩
  cases heq
  refine ⟨⟨congrArg Clock.elapsed habides.environment.clock, habides.environment.suffix, rfl, ?_⟩,
    List.length_set .., fun i k => ?_⟩
  · show (w.systemKeys.set _ _).map _ = _
    rw [List.map_set, habides.systemKeys]
    exact set_of_getElem? (by rw [List.getElem?_map, hc]; rfl)
  · show ((w.engines.set n _)[k]?).bind _ = _
    rw [List.getElem?_set]
    by_cases hk : n = k
    · subst hk
      rw [if_pos rfl, if_pos (List.getElem?_eq_some_iff.1 hs).1, World.tenure, hs]
      by_cases hi : s.systemKeys = i <;>
        simp [EngineState.tenure, hi, habides.intermediateKeys]
    · simp [World.tenure, hk]

lemma retires_encrypt {payload : Bytes} {r : Except Error Bytes}
    (h : w.encrypt n payload = some (r, w')) : w.Retires [] w' :=
  retires_work (fun e => (e.worksWithin_abides.encrypt payload).bind fun _ =>
    Action.respects_pure _) h

lemma retires_decrypt {text : Bytes} {r : Except Error Bytes}
    (h : w.decrypt n text = some (r, w')) : w.Retires [] w' :=
  retires_work (fun e => e.worksWithin_abides.toReadsWithin.decrypt text) h

/-! ### New engines -/

lemma getElem?_append_of_ne {α : Type} {l : List α} (h : i ≠ l.length) (x : α) :
    (l ++ [x])[i]? = l[i]? := by
  rcases Nat.lt_or_gt_of_ne h with hlt | hgt
  · exact List.getElem?_append_left hlt
  · rw [List.getElem?_eq_none (Nat.le_of_lt hgt), List.getElem?_eq_none]
    simpa using Nat.succ_le_of_lt hgt

/-- A new engine is in use, by the factory that has made it. -/
lemma tenure_addSession (w : World) (f : Factory) (id : String) (i n : Nat) :
    (w.addSession f id).tenure i n = if n = w.engines.length then
      if f.systemKeys = i then
        some (.ofIds id f.service f.product w.environment.store.suffix, true)
      else none
    else w.tenure i n := by
  have hengines : (w.addSession f id).engines = w.engines ++ [⟨.ofIds id f.service f.product
      w.environment.store.suffix, f.policy, f.keyService, f.systemKeys,
      .empty f.policy.revokeCheck⟩] := rfl
  rw [tenure, hengines]
  by_cases hn : n = w.engines.length
  · simp [hn, EngineState.tenure, KeyCache.empty]
  · rw [getElem?_append_of_ne hn, if_neg hn]
    rfl

lemma retains_opened (w : World) (f : Factory) (id : String) (a : Admission) :
    w.Retains (w.opened f id a) := by
  have hevict := (w.retires_evict a).toRetains
  unfold opened
  split
  · exact hevict.trans ⟨rfl, rfl, rfl, rfl⟩
  · exact hevict

/-- **A session that is opened** may add an engine, after others have been let go. -/
lemma tenure_opened (w : World) (f : Factory) (id : String) (a : Admission) (i n : Nat) :
    (w.opened f id a).tenure i n = if a.isNew = true ∧ n = w.engines.length then
      if f.systemKeys = i then
        some (.ofIds id f.service f.product w.environment.store.suffix, true)
      else none
    else (w.tenure i n).map fun t => (t.1, t.2 && decide (n ∉ a.gone.map (·.engine))) := by
  have hevict := w.retires_evict a
  unfold opened
  cases a.isNew with
  | false => simp [hevict.tenure]
  | true => simp [tenure_addSession, hevict.length, hevict.suffix, hevict.tenure]

end World

end Envelope
