import Envelope.Proofs.Availability
import Envelope.Proofs.Coherence
import Envelope.Proofs.KeyIds
import Envelope.Proofs.Parentage
import Envelope.Proofs.Reach
import Envelope.Proofs.Refusal

/-!
Partitions without a suffix are isolated from each other.

Such a partition accepts its own intermediate key id and no other, and the ids of two partitions
differ. So a session asks the store for records under its own id and for system keys, caches and
names no other intermediate key, and refuses what was sealed elsewhere before it asks for anything.
-/

namespace Envelope

/-- The request opens a factory of the service and product, if it opens one. -/
def Request.InScope (service product : String) : Request → Prop
  | .openFactory product' service' _ => service' = service ∧ product' = product
  | _ => True

/-- The request has the session of the number seal or open something. -/
def Request.IsWorkOf (n : Nat) : Request → Prop
  | .encrypt session _ | .decrypt session _ => session = n
  | _ => False

namespace World

variable {m : Key} {w w' : World} {service product : String}

/-! ### Factories of one service and product -/

/-- Every factory is of the service and product, and every intermediate record points to one of
their system keys. -/
structure OneScope (service product : String) (w : World) : Prop where
  factory : ∀ {i : Nat} {f : Factory}, w.factories[i]? = some f →
    f.service = service ∧ f.product = product
  under : ∀ {q id t}, w.environment.store.IsUnder q id t →
    q.keyId = (Partition.ofIds "" service product w.environment.store.suffix).systemKeyId

lemma oneScope_start (m : Key) (suffix : Option String) (clock : Clock) (random : Random)
    (service product : String) : (start m suffix clock random).OneScope service product where
  factory h := nomatch h
  under h := by
    obtain ⟨r, hl, -⟩ := h
    cases hl

lemma Step.factory {q : Request} (h : Step m w q w') {i : Nat} {f' : Factory}
    (hf : w'.factories[i]? = some f') : (∃ f, w.factories[i]? = some f ∧ f.SameScope f') ∨
      ∃ product service policy, q = .openFactory product service policy ∧
        f'.service = service ∧ f'.product = product := by
  cases h with
  | tidied q w' tidy tidies => exact Or.inl (tidies.factory hf)
  | added product service policy w' adds =>
    obtain ⟨sessions, rfl, -⟩ := addFactory_eq_ok adds
    rcases getElem?_append_one hf with hf | ⟨-, rfl⟩
    · exact Or.inl ⟨f', hf, .refl f'⟩
    · exact Or.inr ⟨product, service, policy, rfl, rfl, rfl⟩
  | sealed => exact Or.inl ⟨f', hf, .refl f'⟩
  | opened => exact Or.inl ⟨f', hf, .refl f'⟩
  | advanced => exact Or.inl ⟨f', hf, .refl f'⟩
  | set => exact Or.inl ⟨f', hf, .refl f'⟩
  | revoked => exact Or.inl ⟨f', hf, .refl f'⟩

/-- **One request** within the scope leaves all records under its system keys. -/
lemma OneScope.apply (h : w.OneScope service product) (hw : w.Sound m) {q : Request}
    (hq : q.InScope service product) : (w.apply q).OneScope service product := by
  obtain ⟨-, hstep⟩ := hw.apply q
  have hsuffix := (hstep.follows hw).store.suffix
  refine ⟨fun hf => ?_, fun hu => ?_⟩
  · rcases hstep.factory hf with ⟨f, hf, hscope⟩ | ⟨_, _, _, rfl, hservice, hproduct⟩
    · rw [hscope.service, hscope.product]
      exact h.factory hf
    · exact ⟨hservice.trans hq.1, hproduct.trans hq.2⟩
  · rw [hsuffix]
    rcases hstep.of_isUnder hu with hu | ⟨n, s, f, c, s', k, hseat, -, rfl, -⟩
    · exact h.under hu
    · obtain ⟨hservice, hproduct⟩ := h.factory hseat.factory
      show s.partition.systemKeyId = _
      rw [hseat.isOf.systemKeyId, Factory.systemKeyId, hservice, hproduct]

lemma OneScope.run (h : w.OneScope service product) (hw : w.Sound m) {requests : List Request}
    (hq : ∀ q ∈ requests, q.InScope service product) :
    (w.run requests).OneScope service product := by
  induction requests generalizing w with
  | nil => exact h
  | cons q rest ih =>
    exact ih (h.apply hw (hq q List.mem_cons_self)) (hw.apply q).1
      fun q' hq' => hq q' (List.mem_cons_of_mem q hq')

/-! ### What a session asks for -/

/-- A computation of an engine goes no further than its bounds. -/
lemma Bench.goes {i : Nat} {s : EngineState} {c : KeyCache} (hb : Bench m w i s c) {R : Reach}
    (hR : R.Closed w.environment) {α : Type} {a : Engine → Engine.Work α} {Q : α → Prop}
    (ha : R.Bounds (·.environment) (a (s.engine m)) Q) {r : Except Error α}
    (h : w.work i a = some (r, w')) : R.Goes w.environment w'.environment := by
  have hv : R.Goes w.environment ((a (s.engine m)).outcome (w.workspace s c)).2.environment :=
    Action.Yields.outcome
      (P := fun _ (v : Engine.Workspace) => R.Goes w.environment v.environment)
      ((ha (w.workspace s c) hR).mono (fun _ _ h => h.2) fun _ _ h => h)
  rw [hb.work_eq] at h
  cases h
  exact hv

/-- **A session without a suffix asks** for records under its own id and for the system keys that
these point to. -/
lemma Sound.asks (hw : w.Sound m) (hf : w.environment.faults = .none) {n : Nat} {s : EngineState}
    (hs : w.engines[n]? = some s) (hsuffix : s.partition.suffix = none) (ids : String → Prop)
    (hown : ids s.partition.systemKeyId)
    (hunder : ∀ {q t}, w.environment.store.IsUnder q s.partition.intermediateKeyId t → ids q.keyId)
    {o : Request} (ho : o.IsWorkOf n) :
    ∃ made, (w.apply o).environment.calls = w.environment.calls ++ made ∧
      ∀ c ∈ made, ∀ id ∈ c.keyId?, id = s.partition.intermediateKeyId ∨ ids id := by
  obtain ⟨f, c, hseat⟩ := hw.seat hs
  let R : Reach := ⟨s.partition, ids, False⟩
  have hR : R.Closed w.environment := by
    refine ⟨fun {id t r q} hacc hl hq => ?_, fun hmem => ?_⟩
    · obtain rfl := (Partition.accepts_iff_eq hsuffix id).1 hacc
      exact hunder ⟨r, hl, hq⟩
    · rw [hf] at hmem
      cases hmem
  have hgoes : R.Goes w.environment (w.apply o).environment := by
    cases o with
    | encrypt session payload =>
      obtain rfl : session = n := ho
      obtain ⟨r, v, hr, -⟩ := hw.encrypt hseat payload
      rw [apply_encrypt hr]
      exact (hw.bench hseat).goes hR
        ((Engine.bounds_encrypt rfl not_false rfl hown payload).bind
          fun _ _ => Reach.bounds_pure (Q := fun _ => True) trivial) hr
    | decrypt session text =>
      obtain rfl : session = n := ho
      obtain ⟨r, v, hr, -⟩ := hw.decrypt hseat text
      rw [apply_decrypt hr]
      exact (hw.bench hseat).goes hR (Engine.bounds_decrypt rfl rfl text) hr
    | _ => exact ho.elim
  obtain ⟨made, hmade, hall⟩ := hgoes.calls
  refine ⟨made, hmade, fun c hc id hid => ?_⟩
  exact (hall c hc id hid).imp_left (Partition.accepts_iff_eq hsuffix id).1

/-! ### Isolation -/

/-- A session keeps to the records of its own partition. -/
structure KeepsTo (m : Key) (w : World) (n : Nat) (p : Partition) : Prop where
  /-- Every call on the store is about the own intermediate keys or about system keys. -/
  asks : ∀ o : Request, o.IsWorkOf n → ∃ made,
    (w.apply o).environment.calls = w.environment.calls ++ made ∧
      ∀ c ∈ made, ∀ id ∈ c.keyId?, id = p.intermediateKeyId ∨ IsSystemId id
  /-- Every cached key is that of a record under the own ids. -/
  caches : CachesOwn m w n p
  /-- What is sealed names the own id. -/
  names : ∀ payload text, (w.encrypt n payload).map Prod.fst = some (.ok text) →
    ∃ created, DataRow.named? text = some ⟨p.intermediateKeyId, created⟩
  /-- A record with another id, or none, is refused, and the world stays as it is. -/
  refuses : ∀ text row, DataRow.ofJson text = .ok row →
    (∀ id ∈ row.parentKeyId?, id ≠ p.intermediateKeyId) →
      w.Refuses n text

/-- What a session returns names its own intermediate key id. -/
lemma Sound.named_of_encrypt (hw : w.Sound m) {n : Nat} {p : Partition} (hs : w.Session n p)
    {payload text : Bytes} (h : (w.encrypt n payload).map Prod.fst = some (.ok text)) :
    ∃ created, DataRow.named? text = some ⟨p.intermediateKeyId, created⟩ := by
  obtain ⟨s, hs, rfl⟩ := hs
  obtain ⟨f, c, hseat⟩ := hw.seat hs
  obtain ⟨created, k, named, -⟩ := (hw.bench hseat).returned hseat.sound h
  exact ⟨created, named⟩

/-- What a session has sealed opens later on wherever its key id is accepted, and is refused
elsewhere. -/
lemma Sound.later (hw : w.Sound m) (hf : w.environment.faults = .none) {n n' : Nat}
    {p q : Partition} (hn : w.Session n p) (hn' : w.Session n' q) {payload text : Bytes}
    (htext : (w.encrypt n' payload).map Prod.fst = some (.ok text)) (later : List Request) :
    (w.run (.encrypt n' payload :: later)).OpensIff n text payload
      (p.Accepts q.intermediateKeyId) := by
  obtain ⟨s', hs', rfl⟩ := hn'
  obtain ⟨f', c', hseat'⟩ := hw.seat hs'
  obtain ⟨hsealed, hstep⟩ := hw.apply (.encrypt n' payload)
  obtain ⟨hlater, hprecedes⟩ := hsealed.run later
  have hprecedes' := (hstep.follows hw).toPrecedes.trans hprecedes
  obtain ⟨s, hs, rfl⟩ := hprecedes'.session hn
  obtain ⟨f, c, hseat⟩ := hlater.seat hs
  exact (hw.bench hseat').later hseat'.sound htext hprecedes.store (hlater.bench hseat)
    hseat.sound (hf ▸ hprecedes'.faults).eq_none

/-- Every key that a session has cached is its own. -/
lemma Sound.cachesOwn (hw : w.Sound m) {n : Nat} {p : Partition} (hs : w.Session n p) :
    CachesOwn m w n p := by
  intro s' c hs' hc
  obtain ⟨s, hs, rfl⟩ := hs
  cases hs.symm.trans hs'
  obtain ⟨f, hf, hof⟩ := hw.engine hs
  refine ⟨fun t e he => hw.coherent.intermediateKeys hs he, fun t e he => ?_⟩
  rw [hof.systemKeyId]
  exact hw.coherent.systemKeys hf ((hw.factory hf).2.symm ▸ hc) he

lemma Sound.keepsTo (hw : w.Sound m) (hf : w.environment.faults = .none) {n : Nat} {p : Partition}
    (hs : w.Session n p) (hsuffix : p.suffix = none) : w.KeepsTo m n p where
  asks o ho := by
    obtain ⟨s, hs, rfl⟩ := hs
    refine hw.asks hf hs hsuffix IsSystemId s.partition.isSystemId_systemKeyId (fun hu => ?_) ho
    obtain ⟨r, hl, hq⟩ := hu
    obtain ⟨q', _, _, hq', hsystem, -⟩ := hw.store.intermediate
      s.partition.isIntermediateId_intermediateKeyId hl
    cases hq.symm.trans hq'
    exact hsystem
  caches := hw.cachesOwn hs
  names payload text h := hw.named_of_encrypt hs h
  refuses text row ht hrow := by
    obtain ⟨s, hs, rfl⟩ := hs
    obtain ⟨f, c, hseat⟩ := hw.seat hs
    have hforeign : ∀ id ∈ row.parentKeyId?, ¬ s.partition.Accepts id := fun id hid hacc =>
      hrow id hid ((Partition.accepts_iff_eq hsuffix id).1 hacc)
    obtain ⟨link, hlink⟩ := Engine.readable_of_parentKeyId? hforeign
    exact ⟨link, (hw.bench hseat).decrypt_of_readable ht hlink⟩

/-- **Isolation of partitions**: in any run over a store without a key suffix, a session keeps to
the records of its partition. Another partition of the service and product has another intermediate
key id, so nothing that was written for it is asked for, cached or named, and what its sessions have
sealed is refused ever after. The system key id is the same for both, and where all factories are of
the service and product, it is the only one that intermediate records point to or that is asked
for. -/
theorem partitions_isolated (m : Key) (clock : Clock) (random : Random) {suffix : Option String}
    (hsuffix : suffix = none ∨ suffix = some "") (requests : List Request)
    (service product : String) :
    let w := (start m suffix clock random).run requests
    let own := fun id => Partition.ofIds id service product suffix
    ∀ n p, w.Session n (own p) →
      w.KeepsTo m n (own p) ∧
      (∀ q, p ≠ q → (own p).intermediateKeyId ≠ (own q).intermediateKeyId ∧
        (own p).systemKeyId = (own q).systemKeyId ∧
        ∀ n' payload text, w.Session n' (own q) →
          (w.encrypt n' payload).map Prod.fst = some (.ok text) →
            ∀ later, (w.run (.encrypt n' payload :: later)).Refuses n text) ∧
      ((∀ q ∈ requests, q.InScope service product) →
        (∀ t r, w.environment.store.load? (own p).intermediateKeyId t = some r →
          ∃ created, r.parent = some ⟨(own p).systemKeyId, created⟩) ∧
        ∀ o : Request, o.IsWorkOf n → ∃ made,
          (w.apply o).environment.calls = w.environment.calls ++ made ∧
          ∀ c ∈ made, ∀ id ∈ c.keyId?,
            id = (own p).intermediateKeyId ∨ id = (own p).systemKeyId) := by
  intro w own n p hs
  have hstart := sound_start m suffix clock random
  obtain ⟨hw, hprecedes⟩ := hstart.run requests
  have hstore : w.environment.store.suffix = suffix := hprecedes.store.suffix
  have hfaults : w.environment.faults = .none := faults_run m suffix clock random requests
  have hnone : ∀ id, (own id).suffix = none := by
    intro id
    rcases hsuffix with rfl | rfl <;> rfl
  refine ⟨hw.keepsTo hfaults hs (hnone p), fun q hne => ⟨?_, rfl, ?_⟩, fun hscope => ?_⟩
  · exact fun h => hne (Partition.intermediateKeyId_inj_partition.1 h)
  · intro n' payload text hs' htext later
    refine (hw.later hfaults hs hs' htext later).refuses fun hacc => ?_
    rw [Partition.accepts_iff_eq (hnone p)] at hacc
    exact hne (Partition.intermediateKeyId_inj_partition.1 hacc).symm
  · have hone : w.OneScope service product :=
      (oneScope_start m suffix clock random service product).run hstart hscope
    have hunder : ∀ {q id t}, w.environment.store.IsUnder q id t → q.keyId = (own p).systemKeyId :=
      fun hu => (hone.under hu).trans (hstore ▸ rfl)
    obtain ⟨s, hs, hp⟩ := hs
    refine ⟨fun t r hl => ?_, fun o ho => ?_⟩
    · obtain ⟨q, _, _, hq, -⟩ :=
        hw.store.intermediate (own p).isIntermediateId_intermediateKeyId hl
      refine ⟨q.created, hq.trans (congrArg some ?_)⟩
      rw [← hunder ⟨r, hl, hq⟩]
    · have hasks := hw.asks hfaults hs (hp ▸ hnone p) (· = (own p).systemKeyId)
        (congrArg Partition.systemKeyId hp) hunder ho
      rwa [hp] at hasks

/-- Two sessions of one factory: the first refuses what the second has sealed. -/
theorem other_partition_refused :
    let w := (start .zeros none .epoch (.ofSeed 0)).run
      (opening "product" "service" "partition" (.expiring 90) ++ [.openSession 0 "other"])
    ∃ text, (w.encrypt 1 []).map Prod.fst = some (.ok text) ∧
      (w.run [.encrypt 1 []]).Refuses 0 text := by
  intro w
  let other := Partition.ofIds "other" "service" "product" none
  have hengines : w.engines =
      [⟨.given, .expiring 90, 0, 0, .empty (Policy.expiring 90).revokeCheck⟩,
        ⟨other, .expiring 90, 0, 0, .empty (Policy.expiring 90).revokeCheck⟩] := rfl
  have hfirst : w.Session 0 .given := ⟨_, by rw [hengines]; rfl, rfl⟩
  have hother : w.Session 1 other := ⟨_, by rw [hengines]; rfl, rfl⟩
  have hw : w.Sound .zeros := ((sound_start .zeros none .epoch (.ofSeed 0)).run _).1
  have hfaults : w.environment.faults = .none := faults_run .zeros none .epoch (.ofSeed 0) _
  have hisolated := partitions_isolated .zeros .epoch (.ofSeed 0) (Or.inl rfl)
    (opening "product" "service" "partition" (.expiring 90) ++ [.openSession 0 "other"])
    "service" "product"
  have hrefuses := ((hisolated 0 "partition" hfirst).2.1 "other" (by decide)).2.2
  rcases hw.encrypt_cases hfaults hother [] with ⟨text, htext, -⟩ | ⟨hlong, -⟩
  · exact ⟨text, htext, hrefuses 1 [] text hother htext []⟩
  · exact absurd hlong (by decide)

end World

end Envelope
