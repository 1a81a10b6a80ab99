import Envelope.Proofs.Tenure

/-!
# What one request does to the factories

At any time a factory with a session cache has in use the engines that are listed there and no
others, and a factory that is disposed has none. A request concerns one factory at most, which is
in order afterwards; to the others and their engines nothing happens. Which of several sessions with
the least last use goes is left open.
-/

namespace Envelope.World

variable {w w' : World} {i j n : Nat} {p : Partition} {f f' : Factory} {cache : SessionCache}
  {id : String} {a : Admission} {r : Except Error Nat}

/-! ### A factory in order -/

/-- The sessions that a factory has cached are in step with its engines: each is of its partition
and in use, and unless nothing is ever cached, no others are in use. -/
structure Attends (w : World) (i : Nat) (f : Factory) (cache : SessionCache) : Prop where
  limit : cache.limit = f.policy.sessionLimit
  expiry : cache.expiry = f.policy.sessionExpiry
  tidy : cache.Tidy w.environment.clock.elapsed
  listed : ∀ x ∈ cache.sessions, w.tenure i x.engine =
    some (.ofIds x.partition f.service f.product w.environment.store.suffix, true)
  kept : cache.limit ≠ 0 → ∀ n p, w.tenure i n = some (p, true) →
    ∃ x ∈ cache.sessions, x.engine = n

/-- Sessions that are listed have engines of their own. -/
lemma Attends.eq_of_engine (h : w.Attends i f cache) {x y : CachedSession}
    (hx : x ∈ cache.sessions) (hy : y ∈ cache.sessions) (he : x.engine = y.engine) : x = y := by
  have htenure := h.listed x hx
  rw [he, h.listed y hy] at htenure
  refine h.tidy.eq_of_partition hx hy ?_
  exact congrArg (fun t : Partition × Bool => t.1.partition) (Option.some.inj htenure).symm

lemma Attends.sameScope (h : w.Attends i f cache) (hs : f.SameScope f') : w.Attends i f' cache where
  limit := hs.policy.symm ▸ h.limit
  expiry := hs.policy.symm ▸ h.expiry
  tidy := h.tidy
  listed := hs.service.symm ▸ hs.product.symm ▸ h.listed
  kept := h.kept

/-- What is true of the factory of a number at any time. -/
structure Tends (w : World) (i : Nat) (f : Factory) : Prop where
  number : f.systemKeys = i
  sessions : f.sessions.isSome = f.policy.cachesSessions
  attends : ∀ cache ∈ f.sessions, w.Attends i f cache
  disposed : f.disposed = true →
    (∀ cache ∈ f.sessions, cache.sessions = []) ∧ w.inUse i = some false

lemma Attends.later (h : w.Attends i f cache)
    (helapsed : w.environment.clock.elapsed ≤ w'.environment.clock.elapsed)
    (hsuffix : w'.environment.store.suffix = w.environment.store.suffix)
    (htenure : ∀ n, w'.tenure i n = w.tenure i n) : w'.Attends i f cache where
  limit := h.limit
  expiry := h.expiry
  tidy := h.tidy.mono helapsed
  listed x hx := by
    rw [htenure, hsuffix]
    exact h.listed x hx
  kept hlimit n p hn := h.kept hlimit n p (htenure n ▸ hn)

/-- What is true of a factory stays true while nothing happens to it. -/
lemma Tends.later (h : w.Tends i f)
    (helapsed : w.environment.clock.elapsed ≤ w'.environment.clock.elapsed)
    (hsuffix : w'.environment.store.suffix = w.environment.store.suffix)
    (hinUse : w'.inUse i = w.inUse i) (htenure : ∀ n, w'.tenure i n = w.tenure i n) :
    w'.Tends i f where
  number := h.number
  sessions := h.sessions
  attends cache hc := (h.attends cache hc).later helapsed hsuffix htenure
  disposed hd := by
    rw [hinUse]
    exact h.disposed hd

/-- What is true of a number, whether or not it is a factory's. -/
structure Orderly (w : World) (i : Nat) : Prop where
  vacant : w.factories[i]? = none → ∀ n, w.tenure i n = none
  tends : ∀ f, w.factories[i]? = some f → w.Tends i f

/-- Every factory is in order. -/
structure Tended (w : World) : Prop where
  length : w.systemKeys.length = w.factories.length
  orderly : ∀ i, w.Orderly i

/-! ### What happens to a factory -/

/-- Nothing has happened to the factory of a number and to its engines, though time may have gone
by. -/
structure Spares (w : World) (i : Nat) (w' : World) : Prop where
  elapsed : w.environment.clock.elapsed ≤ w'.environment.clock.elapsed
  suffix : w'.environment.store.suffix = w.environment.store.suffix
  factory : w'.factories[i]? = w.factories[i]?
  inUse : w'.inUse i = w.inUse i
  tenure : ∀ n, w'.tenure i n = w.tenure i n

/-- The factory of a number stays, once disposed for good, and its engines that have been disposed
are so for good. -/
structure Ages (w : World) (i : Nat) (w' : World) : Prop where
  factory : ∀ f, w.factories[i]? = some f →
    ∃ f', w'.factories[i]? = some f' ∧ f.SameScope f' ∧ (f.disposed = true → f'.disposed = true)
  retired : ∀ n p, w.tenure i n = some (p, false) → w'.tenure i n = some (p, false)

/-- All that happens happens to one factory, which is in order afterwards. -/
structure Settles (w : World) (j : Nat) (w' : World) : Prop where
  length : w'.systemKeys.length = w'.factories.length
  spares : ∀ i, i ≠ j → w.Spares i w'
  orderly : w'.Orderly j
  ages : w.Ages j w'

lemma Spares.orderly (h : w.Spares i w') (ho : w.Orderly i) : w'.Orderly i where
  vacant hf n := by
    rw [h.tenure]
    exact ho.vacant (h.factory ▸ hf) n
  tends f hf := (ho.tends f (h.factory ▸ hf)).later h.elapsed h.suffix h.inUse h.tenure

lemma Spares.ages (h : w.Spares i w') : w.Ages i w' where
  factory f hf := ⟨f, h.factory.trans hf, .refl f, id⟩
  retired n _ hn := (h.tenure n).trans hn

lemma Ages.refl (w : World) (i : Nat) : w.Ages i w :=
  ⟨fun f hf => ⟨f, hf, .refl f, id⟩, fun _ _ hn => hn⟩

lemma Ages.trans {w'' : World} (h : w.Ages i w') (h' : w'.Ages i w'') : w.Ages i w'' where
  factory f hf := by
    obtain ⟨f', hf', hs, hd⟩ := h.factory f hf
    obtain ⟨f'', hf'', hs', hd'⟩ := h'.factory f' hf'
    exact ⟨f'', hf'', hs.trans hs', hd' ∘ hd⟩
  retired n p hn := h'.retired n p (h.retired n p hn)

lemma Settles.tended (h : w.Settles j w') (ht : w.Tended) : w'.Tended := by
  refine ⟨h.length, fun i => ?_⟩
  by_cases hi : i = j
  · exact hi ▸ h.orderly
  · exact (h.spares i hi).orderly (ht.orderly i)

lemma Settles.ages_all (h : w.Settles j w') (i : Nat) : w.Ages i w' := by
  by_cases hi : i = j
  · exact hi ▸ h.ages
  · exact (h.spares i hi).ages

/-- If no factory is concerned, each is. -/
lemma Tended.settles_of_spares (h : w.Tended)
    (hlength : w'.systemKeys.length = w'.factories.length) (hs : ∀ i, w.Spares i w') :
    w.Settles j w' :=
  ⟨hlength, fun i _ => hs i, (hs j).orderly (h.orderly j), (hs j).ages⟩

/-! ### Steps that concern no factory -/

lemma Tended.settles_self (h : w.Tended) : w.Settles j w :=
  h.settles_of_spares h.length fun _ => ⟨Nat.le_refl _, rfl, rfl, rfl, fun _ => rfl⟩

/-- The engines of a factory are as before. -/
lemma Retains.spares (h : w.Retains w') (ht : ∀ n, w'.tenure i n = w.tenure i n) :
    w.Spares i w' where
  elapsed := Nat.le_of_eq h.elapsed.symm
  suffix := h.suffix
  factory := by rw [h.factories]
  inUse := h.inUse i
  tenure := ht

lemma Tended.settles_of_retires (h : w.Tended) (hr : w.Retires [] w') : w.Settles j w' :=
  h.settles_of_spares (by rw [hr.length_systemKeys, hr.factories, h.length])
    fun _ => hr.spares (hr.tenure_eq fun _ hn => nomatch hn)

/-- Time goes by and records come and go. -/
lemma Tended.settles_withEnvironment (h : w.Tended) {env : Environment}
    (helapsed : w.environment.clock.elapsed ≤ env.clock.elapsed)
    (hsuffix : env.store.suffix = w.environment.store.suffix) :
    w.Settles j { w with environment := env } :=
  h.settles_of_spares h.length fun _ => ⟨helapsed, hsuffix, rfl, rfl, fun _ => rfl⟩

/-! ### New factories -/

/-- **A new factory** has no engines yet. -/
lemma Tended.settles_addFactory (h : w.Tended) {product service : String} {policy : Policy}
    {k : Nat} (ha : w.addFactory product service policy k = .ok w') :
    w.Settles w.factories.length w' := by
  obtain rfl := addFactory_eq ha
  have hvacant := (h.orderly w.factories.length).vacant (List.getElem?_eq_none (Nat.le_refl _))
  refine ⟨by simp [h.length], fun i hi => ?_, ⟨fun hf => ?_, fun f hf => ?_⟩, fun f hf => ?_, ?_⟩
  · refine ⟨Nat.le_refl _, rfl, getElem?_append_of_ne hi _, ?_, fun _ => rfl⟩
    exact congrArg (Option.map _) (getElem?_append_of_ne (h.length.symm ▸ hi) _)
  · rw [List.getElem?_concat_length] at hf
    cases hf
  · rw [List.getElem?_concat_length] at hf
    cases hf
    refine ⟨h.length, ?_, fun cache hc => ?_, fun hd => nomatch hd⟩
    · cases policy.cachesSessions <;> rfl
    · dsimp only at hc
      split at hc
      · cases hc
        exact ⟨rfl, rfl, SessionCache.tidy_empty _ _ _, fun _ hx => (nomatch hx),
          fun _ n p hn => nomatch (hvacant n).symm.trans hn⟩
      · cases hc
  · rw [List.getElem?_eq_none (Nat.le_refl _)] at hf
    cases hf
  · exact fun n p hn => hn

/-! ### Sessions -/

/-- Of the engines of other factories, a session neither adds nor disposes any. -/
lemma Tended.spares_opened (h : w.Tended) (hf : w.factories[i]? = some f)
    (hout : ∀ x ∈ a.gone, w.tenure i x.engine ≠ none) (hj : j ≠ i) (f' : Factory) :
    w.Spares j ((w.opened f id a).setFactory i f') := by
  have hretains := w.retains_opened f id a
  have hspares : w.Spares j (w.opened f id a) := by
    refine hretains.spares fun n => ?_
    rw [tenure_opened, ((h.orderly i).tends f hf).number]
    split
    · next hn => rw [if_neg hj.symm, tenure_of_le (Nat.le_of_eq hn.2.symm)]
    · cases ht : w.tenure j n with
      | none => rfl
      | some t =>
        have hn : n ∉ a.gone.map (·.engine) := by
          rintro hmem
          obtain ⟨x, hx, rfl⟩ := List.mem_map.1 hmem
          exact hout x hx (tenure_of_ne ht hj.symm)
        simp [hn]
  exact ⟨hspares.elapsed, hspares.suffix,
    (List.getElem?_set_ne hj.symm).trans hspares.factory, hspares.inUse, hspares.tenure⟩

/-- The factory whose session it is stays, and what it had disposed stays disposed. -/
lemma ages_opened (hf : ((w.opened f id a).setFactory i f').factories[i]? = some f')
    (hf₀ : w.factories[i]? = some f) (hs : f.SameScope f') (hd : f'.disposed = f.disposed) :
    w.Ages i ((w.opened f id a).setFactory i f') where
  factory f₁ hf₁ := by
    rw [hf₀] at hf₁
    cases hf₁
    exact ⟨f', hf, hs, fun h => hd.trans h⟩
  retired n p hn := by
    have hne : n ≠ w.engines.length := Nat.ne_of_lt (lt_of_tenure hn)
    show (w.opened f id a).tenure i n = _
    rw [tenure_opened, if_neg fun h => hne h.2, hn]
    rfl

lemma getElem?_setFactory_opened (hf : w.factories[i]? = some f) :
    ((w.opened f id a).setFactory i f').factories[i]? = some f' := by
  have hlt := (List.getElem?_eq_some_iff.1 hf).1
  rw [← (w.retains_opened f id a).factories] at hlt
  exact List.getElem?_set_self hlt

/-- A session concerns its factory only. -/
lemma Tended.settles_opened (h : w.Tended) (hf : w.factories[i]? = some f)
    (hout : ∀ x ∈ a.gone, w.tenure i x.engine ≠ none) (hs : f.SameScope f')
    (hd : f'.disposed = f.disposed) (ht : ((w.opened f id a).setFactory i f').Tends i f') :
    w.Settles i ((w.opened f id a).setFactory i f') := by
  have hretains := w.retains_opened f id a
  have hf' : ((w.opened f id a).setFactory i f').factories[i]? = some f' :=
    getElem?_setFactory_opened hf
  refine ⟨?_, fun j hj => h.spares_opened hf hout hj f', ⟨fun hnone => ?_, fun f₁ hf₁ => ?_⟩,
    ages_opened hf' hf hs hd⟩
  · show _ = ((w.opened f id a).factories.set i f').length
    rw [List.length_set, hretains.factories, ← h.length]
    exact hretains.length_systemKeys
  · exact nomatch hf'.symm.trans hnone
  · cases hf'.symm.trans hf₁
    exact ht

/-- **A request that is answered in order** leaves the cache in step with the engines. -/
lemma Attends.opened (h : w.Attends i f cache) (hi : f.systemKeys = i)
    (g : cache.Grants w.environment.clock.elapsed id w.engines.length a) :
    (w.opened f id a).Attends i f a.cache := by
  have hretains := w.retains_opened f id a
  obtain ⟨hlimit, hexpiry⟩ := g.settings
  refine ⟨hlimit.trans h.limit, hexpiry.trans h.expiry, ?_, fun y hy => ?_, fun hne n p hn => ?_⟩
  · rw [hretains.elapsed]
    exact g.tidy h.tidy (Nat.le_refl _)
  · rw [tenure_opened, hretains.suffix]
    rcases g.origin h.tidy hy with ⟨hnew, hp, he⟩ | ⟨x, hx, hgone, hp, he⟩
    · rw [if_pos ⟨hnew, he⟩, if_pos hi, hp]
    · have htenure := h.listed x hx
      have hfresh := Nat.ne_of_lt (lt_of_tenure htenure)
      have hout : x.engine ∉ a.gone.map (·.engine) := by
        intro hmem
        obtain ⟨z, hz, hze⟩ := List.mem_map.1 hmem
        exact hgone (h.eq_of_engine (g.gone_subset z hz) hx hze ▸ hz)
      rw [← he, ← hp, if_neg fun h => hfresh h.2, htenure]
      simp [hout]
  · rw [hlimit] at hne
    rw [tenure_opened] at hn
    split at hn
    · next hnew =>
      exact ⟨_, g.answer_mem h.tidy hne, (g.of_isNew hnew.1).trans hnew.2.symm⟩
    · obtain ⟨ht, hout⟩ := tenure_of_map hn
      obtain ⟨x, hx, rfl⟩ := h.kept hne n _ ht
      exact g.stays h.tidy hx fun hgone => hout (List.mem_map_of_mem hgone)

/-- What a factory answers to a request for a session: `session`, but for the choice among sessions
with the least last use. -/
inductive Opens (w : World) (i : Nat) (id : String) : Except Error Nat → World → Prop
  | unnamed (f : Factory) (hf : w.factories[i]? = some f) (hid : id = "") :
    Opens w i id (.error (.invalidArgument .emptyPartition)) w
  | refused (f : Factory) (hf : w.factories[i]? = some f) (hid : id ≠ "")
      (hdisposed : f.disposed = true) : Opens w i id (.error (.application .factoryDisposed)) w
  | made (f : Factory) (hf : w.factories[i]? = some f) (hid : id ≠ "")
      (hdisposed : f.disposed = false) (hsessions : f.sessions = none) :
    Opens w i id (.ok w.engines.length) (w.addSession f id)
  | granted (f : Factory) (cache : SessionCache) (a : Admission) (hf : w.factories[i]? = some f)
      (hid : id ≠ "") (hdisposed : f.disposed = false) (hsessions : f.sessions = some cache)
      (g : cache.Grants w.environment.clock.elapsed id w.engines.length a) :
    Opens w i id (.ok a.engine)
      ((w.opened f id a).setFactory i { f with sessions := some a.cache })

/-- A factory answers every request, and in order. -/
lemma Tended.session_opens (h : w.Tended) (hf : w.factories[i]? = some f) (id : String) :
    ∃ r w', w.session i id = some (r, w') ∧ w.Opens i id r w' := by
  unfold session
  simp only [hf, Option.bind_eq_bind, Option.bind_some]
  split
  · next hid => exact ⟨_, _, rfl, .unnamed f hf hid⟩
  · next hid =>
    split
    · next hd => exact ⟨_, _, rfl, .refused f hf hid hd⟩
    · next hd =>
      replace hd := Bool.eq_false_iff.2 hd
      split
      · next hs => exact ⟨_, _, rfl, .made f hf hid hd hs⟩
      · next cache hs =>
        have htidy := (((h.orderly i).tends f hf).attends cache hs).tidy
        exact ⟨_, _, rfl, .granted f cache _ hf hid hd hs (htidy.request_grants _ _ _)⟩

/-- **A session** concerns its factory only, and leaves it in order. -/
theorem Opens.settles (ho : w.Opens i id r w') (h : w.Tended) : w.Settles i w' := by
  cases ho with
  | unnamed | refused => exact h.settles_self
  | made f hf hid hd hs =>
    -- an engine is added as for a request that drives nothing out
    let a : Admission := ⟨w.engines.length, true, [], none, .empty 0 f.policy.sessionExpiry⟩
    have hw : (w.opened f id a).setFactory i f = w.addSession f id := by
      show ({ w.addSession f id with factories := w.factories.set i f } : World) = _
      rw [set_of_getElem? hf]
      rfl
    have ht := (h.orderly i).tends f hf
    rw [← hw]
    refine h.settles_opened hf (fun _ hx => nomatch hx) (.refl f) rfl ?_
    refine ⟨ht.number, ht.sessions, fun cache hc => ?_, fun hd' => ?_⟩
    · rw [hs] at hc
      cases hc
    · rw [hd] at hd'
      cases hd'
  | granted f cache a hf hid hd hs g =>
    have ht := (h.orderly i).tends f hf
    have hattends := ht.attends cache hs
    have hscope : f.SameScope { f with sessions := some a.cache } := ⟨rfl, rfl, rfl, rfl, rfl⟩
    refine h.settles_opened hf (fun x hx => ?_) hscope rfl ⟨ht.number, ?_, fun c hc => ?_, ?_⟩
    · rw [hattends.listed x (g.gone_subset x hx)]
      exact Option.some_ne_none _
    · rw [← ht.sessions, hs]
      rfl
    · cases hc
      have hopened := (hattends.opened ht.number g).sameScope hscope
      exact hopened.later (Nat.le_refl _) rfl fun _ => rfl
    · intro hd'
      exact nomatch hd.symm.trans hd'

/-! ### Disposal of a factory -/

/-- The engines that a factory has listed are its own. -/
lemma Tends.tenure_ne_none (h : w.Tends i f)
    (hn : n ∈ ((f.sessions.map (·.sessions)).getD []).map (·.engine)) : w.tenure i n ≠ none := by
  obtain ⟨x, hx, rfl⟩ := List.mem_map.1 hn
  cases hs : f.sessions with
  | none =>
    rw [hs] at hx
    cases hx
  | some cache =>
    rw [hs] at hx
    rw [(h.attends cache hs).listed x hx]
    exact Option.some_ne_none _

/-- A factory that lets all its sessions go and its system keys with them is in order. -/
lemma Tends.closed (h : w.Tends i f) (hkeys : w.inUse i ≠ none)
    (hr : (w.disposeSystemKeys i).Retires
      (((f.sessions.map (·.sessions)).getD []).map (·.engine)) w') :
    w'.Tends i f.closed where
  number := h.number
  sessions := (Option.isSome_map ..).trans h.sessions
  attends c hc := by
    obtain ⟨cache, hs, rfl⟩ := Option.map_eq_some_iff.1 hc
    have hattends := h.attends cache hs
    refine ⟨hattends.limit, hattends.expiry, SessionCache.tidy_empty _ _ _,
      fun _ hx => (nomatch hx), fun hlimit n p hn => ?_⟩
    rw [hr.tenure] at hn
    obtain ⟨ht, hout⟩ := tenure_of_map hn
    obtain ⟨x, hx, rfl⟩ := hattends.kept hlimit n _ ht
    rw [hs] at hout
    exact absurd (List.mem_map_of_mem hx) hout
  disposed _ := by
    refine ⟨fun c hc => ?_, ?_⟩
    · obtain ⟨cache, -, rfl⟩ := Option.map_eq_some_iff.1 hc
      rfl
    · rw [hr.inUse, inUse_disposeSystemKeys, if_pos rfl]
      cases hkeys' : w.inUse i with
      | none => exact absurd hkeys' hkeys
      | some b => rfl

lemma Tended.inUse_ne_none (h : w.Tended) (hf : w.factories[i]? = some f) : w.inUse i ≠ none := by
  have hlt := (List.getElem?_eq_some_iff.1 hf).1
  rw [← h.length] at hlt
  rw [inUse, List.getElem?_eq_getElem hlt]
  exact Option.some_ne_none _

/-- Of the engines of other factories it disposes none. -/
lemma Tends.spares_closed (h : w.Tends i f)
    (hr : (w.disposeSystemKeys i).Retires
      (((f.sessions.map (·.sessions)).getD []).map (·.engine)) w') (hj : j ≠ i) :
    w.Spares j (w'.setFactory i f.closed) where
  elapsed := Nat.le_of_eq hr.elapsed.symm
  suffix := hr.suffix
  factory := by
    show (w'.factories.set i f.closed)[j]? = _
    rw [List.getElem?_set_ne hj.symm, hr.factories]
    rfl
  inUse := by
    show w'.inUse j = _
    rw [hr.inUse, inUse_disposeSystemKeys, if_neg hj.symm]
  tenure := by
    refine hr.tenure_eq fun n hn => ?_
    obtain ⟨⟨p, b⟩, ht⟩ := Option.ne_none_iff_exists'.1 (h.tenure_ne_none hn)
    exact tenure_of_ne ht hj

/-- **The disposal of a factory** concerns it only, and leaves it in order. -/
theorem Tended.settles_disposeFactory (h : w.Tended) (i : Nat) :
    w.Settles i (w.disposeFactory i) := by
  rcases w.disposeFactory_cases i with ⟨heq, -⟩ | ⟨f, v, hf, hr, heq⟩
  · rw [heq]
    exact h.settles_self
  · have ht := (h.orderly i).tends f hf
    rw [ht.number] at hr
    have hfactories : v.factories = w.factories := hr.factories
    have hf' : (w.disposeFactory i).factories[i]? = some f.closed := by
      rw [heq]
      show (v.factories.set i f.closed)[i]? = _
      rw [hfactories]
      exact List.getElem?_set_self (List.getElem?_eq_some_iff.1 hf).1
    have hclosed := ht.closed (h.inUse_ne_none hf) hr
    refine ⟨?_, fun j hj => ?_, ⟨fun hnone => (nomatch hf'.symm.trans hnone), fun f₁ hf₁ => ?_⟩,
      fun f₁ hf₁ => ?_, fun n p hn => ?_⟩
    · rw [heq]
      show v.systemKeys.length = (v.factories.set i f.closed).length
      rw [List.length_set, hfactories, ← h.length, hr.length_systemKeys]
      exact List.length_modify ..
    · have hspares := ht.spares_closed hr hj
      rw [heq]
      exact ⟨hspares.elapsed, hspares.suffix, hspares.factory, hspares.inUse, hspares.tenure⟩
    · cases hf'.symm.trans hf₁
      rw [heq]
      exact hclosed.later (Nat.le_refl _) rfl rfl fun _ => rfl
    · cases hf.symm.trans hf₁
      exact ⟨f.closed, hf', f.sameScope_closed, fun _ => rfl⟩
    · rw [heq]
      show v.tenure i n = _
      rw [hr.tenure]
      show (w.tenure i n).map _ = _
      rw [hn]
      rfl

/-- Afterwards the factory is disposed. -/
lemma disposed_disposeFactory (hf : w.factories[i]? = some f) :
    ∃ f', (w.disposeFactory i).factories[i]? = some f' ∧ f'.disposed = true := by
  rcases w.disposeFactory_cases i with ⟨heq, hd⟩ | ⟨f₁, v, hf₁, hr, heq⟩
  · exact ⟨f, by rw [heq, hf], hd f hf⟩
  · refine ⟨f₁.closed, ?_, rfl⟩
    have hlt := (List.getElem?_eq_some_iff.1 hf).1
    rw [heq]
    exact List.getElem?_set_self (by rw [hr.factories]; exact hlt)

end Envelope.World
