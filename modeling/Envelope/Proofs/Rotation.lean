import Envelope.Proofs.FailedWrites
import Envelope.Proofs.Steady

/-!
Keys are replaced only when they must be.

A write adds a key only where there is none or where the one there is may no longer protect new
data. What it knows of an upper key may come from a cache, which mirrors the store, so whatever the
write finds unfit is unfit in the store. As long as no key has to be replaced, all writers of a
partition share one intermediate key.
-/

namespace Envelope

open Envelope.Action

open Planned (environment calm)

/-- A key of the record has to be replaced: it is revoked, or it has expired and the write that
meets it replaces it. -/
def Policy.Retires (p : Policy) (now : Time) (r : KeyRecord) : Prop :=
  r.isRevoked = true ∨ p.rotation = .inline ∧ p.IsExpired now r.created.time

namespace Store

/-- Under the id there is no record, or the latest one has to be replaced. -/
def NeedsSystemKey (s : Store) (policy : Policy) (now : Time) (id : String) : Prop :=
  ∀ r, s.latest? id = some r → policy.Retires now r

/-- Under the id there is no record, or the latest one or its parent has to be replaced. -/
def NeedsIntermediateKey (s : Store) (policy : Policy) (now : Time) (id : String) : Prop :=
  ∀ r, s.latest? id = some r → policy.Retires now r ∨
    ∃ p r', r.parent = some p ∧ s.load? p.keyId p.created.time = some r' ∧ policy.Retires now r'

/-- The second store is the first with at most one new record for each key of the partition, and
with none for a key that need not be replaced. -/
structure Rotates (s : Store) (policy : Policy) (now : Time) (p : Partition) (s' : Store) :
    Prop where
  kept : s.Extends s'
  added : ∀ {id t r}, s'.load? id t = some r → s.load? id t = some r ∨
    (id = p.systemKeyId ∧ t = (policy.systemStamp now).time ∧
      s.NeedsSystemKey policy now p.systemKeyId) ∨
    (id = p.intermediateKeyId ∧ t = (policy.intermediateStamp now).time ∧
      s.NeedsIntermediateKey policy now p.intermediateKeyId)

variable {s s₁ s' : Store} {policy : Policy} {now : Time} {p : Partition}

/-- Less may have been added. -/
lemma Rotates.of_extends (h : s.Rotates policy now p s') (hs : s.Extends s₁)
    (h₁ : s₁.Extends s') : s.Rotates policy now p s₁ :=
  ⟨hs, fun hl => h.added (h₁.load hl)⟩

/-- Every id has at most one intermediate key. -/
def Lone (s : Store) : Prop :=
  ∀ {id t t' r r'}, IsIntermediateId id → s.load? id t = some r → s.load? id t' = some r' → t = t'

/-- **As long as no key has to be replaced**, a write adds no second intermediate key. -/
lemma Rotates.lone (h : s.Rotates policy now p s') (hs : s.Lone)
    (hlasts : ∀ id t r, s.load? id t = some r → ¬ policy.Retires now r) : s'.Lone := by
  -- a record that is there already shows that none was needed
  have needless : ∀ {t r}, s.load? p.intermediateKeyId t = some r →
      ¬ s.NeedsIntermediateKey policy now p.intermediateKeyId := by
    intro t r hl hneeds
    obtain ⟨r₀, hlatest⟩ := exists_latest? hl
    obtain ⟨t₀, hl₀, -⟩ := latest?_eq_some hlatest
    rcases hneeds r₀ hlatest with hretires | ⟨q, r', -, hl', hretires⟩
    · exact hlasts _ _ _ hl₀ hretires
    · exact hlasts _ _ _ hl' hretires
  have added : ∀ {id t r}, IsIntermediateId id → s'.load? id t = some r →
      s.load? id t = some r ∨ id = p.intermediateKeyId ∧
        t = (policy.intermediateStamp now).time ∧
        s.NeedsIntermediateKey policy now p.intermediateKeyId := by
    intro id t r hid hl
    rcases h.added hl with hl | ⟨rfl, -⟩ | hnew
    · exact Or.inl hl
    · exact absurd rfl (p.isSystemId_systemKeyId.ne hid)
    · exact Or.inr hnew
  intro id t t' r r' hid hl hl'
  rcases added hid hl with hl | ⟨rfl, rfl, hneeds⟩
  · rcases added hid hl' with hl' | ⟨rfl, -, hneeds⟩
    · exact hs hid hl hl'
    · exact absurd hneeds (needless hl)
  · rcases added hid hl' with hl' | ⟨-, rfl, -⟩
    · exact absurd hneeds (needless hl')
    · rfl

end Store

/-! ### One write -/

namespace Engine

variable {e : Engine} {m : Key} {w : Workspace}

/-- A key that is not permitted has to be replaced. -/
lemma retires_of_not_permits {now : Time} {r : KeyRecord}
    (h : ¬ e.Permits now r.created r.isRevoked) : e.policy.Retires now r := by
  unfold Permits at h
  unfold Policy.Retires
  cases hr : r.isRevoked with
  | true => exact Or.inl rfl
  | false =>
    simp only [hr, true_and, not_forall] at h
    obtain ⟨hexpired, hrotation⟩ := h
    refine Or.inr ⟨?_, hexpired⟩
    cases hp : e.policy.rotation with
    | inline => rfl
    | queued => exact absurd hp hrotation

/-- **What a cache knows to be unfit** is unfit in the store. -/
lemma Coherent.retires_of_not_parentPermits (hw : e.Coherent m w) {p : KeyMeta} {r : KeyRecord}
    (hl : w.environment.store.load? p.keyId p.created.time = some r)
    (h : ¬ e.ParentPermits w.systemKeys w.environment.clock w.environment.store p) :
    e.policy.Retires w.environment.clock.wall r := by
  refine retires_of_not_permits fun hpermits => h ?_
  cases hc : e.cachedParent? w.systemKeys w.environment.clock.elapsed p with
  | none => exact (parentPermits_of_none hc).2 ⟨r, hl, hpermits⟩
  | some k =>
    have hdate : r.created = p.created := Stamp.time_inj.1 (hw.dated _ _ _ hl)
    unfold ParentPermits
    rw [hc]
    unfold cachedParent? at hc
    split at hc
    · next hcache =>
      obtain ⟨hcreated, k', hk', hp⟩ := hw.systemKeys.get? hc
      rw [← keyId_of_cachesSystemKey hcache] at hk'
      have hrevoked := Store.revoked_of_systemKey hk' hl
      refine ⟨?_, fun hexpired => hpermits.2 ?_⟩
      · rw [← Bool.not_eq_true]
        exact fun hk => hpermits.ne_true (hrevoked ▸ hp.2.2 hk)
      · rw [hdate, ← hcreated]
        exact hexpired
    · cases hc

/-- A latest key that a write refuses, or its parent, has to be replaced. -/
lemma Sound.needs_of_refusesLatest (hw : e.Sound m w) (h : e.RefusesLatest w) :
    w.environment.store.NeedsIntermediateKey e.policy w.environment.clock.wall
      e.partition.intermediateKeyId := by
  intro r hlatest
  by_cases hpermits : e.Permits w.environment.clock.wall r.created r.isRevoked
  · obtain ⟨t, hl, -⟩ := Store.latest?_eq_some hlatest
    obtain ⟨p, outer, k, hparent, -, ho, -⟩ :=
      hw.store.intermediate e.partition.isIntermediateId_intermediateKeyId hl
    obtain ⟨r', hl', -⟩ := Store.systemKey_eq_ok ho
    exact Or.inr ⟨p, r', hparent, hl',
      hw.retires_of_not_parentPermits hl' (h r p hlatest hpermits hparent)⟩
  · exact Or.inl (retires_of_not_permits hpermits)

/-- The system key of a write is new only if one is needed. -/
lemma SystemKeyUsed.added {s : Store} {k : Key} (h : e.SystemKeyUsed w s k) {id : String}
    {t : Time} {r : KeyRecord} (hl : s.load? id t = some r) :
    w.environment.store.load? id t = some r ∨ id = e.partition.systemKeyId ∧
      t = (e.policy.systemStamp w.environment.clock.wall).time ∧
      w.environment.store.NeedsSystemKey e.policy w.environment.clock.wall
        e.partition.systemKeyId := by
  cases h with
  | cached t caches latest permits same => exact Or.inl (same ▸ hl)
  | newest misses newest =>
    cases newest with
    | latest r latest permits created same => exact Or.inl (same ▸ hl)
    | added wrapped refuses free created adds =>
      subst adds
      rcases Store.load?_of_insert hl with hl | ⟨rfl, rfl, -⟩
      · exact Or.inl hl
      · exact Or.inr ⟨rfl, congrArg Stamp.time created,
          fun r hr => retires_of_not_permits (refuses r hr)⟩
    | reloaded r latest refuses taken created same => exact Or.inl (same ▸ hl)

/-- **A write** adds the keys that are needed. -/
lemma Writes.rotates (hw : e.Sound m w) {k : Key} {w' : Workspace} (h : e.Writes m w k w') :
    w.environment.store.Rotates e.policy w.environment.clock.wall e.partition
      w'.environment.store := by
  refine ⟨h.store, fun {id t r} hl => ?_⟩
  cases h.used with
  | cached t caches latest permits same => exact Or.inl (same ▸ hl)
  | newest misses newest =>
    cases newest with
    | latest r p latest permits parent parentPermits created same => exact Or.inl (same ▸ hl)
    | added s systemKey wrapped refuses free used created adds =>
      rw [adds] at hl
      rcases Store.load?_of_insert hl with hl | ⟨rfl, rfl, -⟩
      · exact (used.added hl).imp_right Or.inl
      · exact Or.inr (Or.inr ⟨rfl, congrArg Stamp.time created,
          hw.needs_of_refusesLatest refuses⟩)
    | reloaded r systemKey refuses taken used => exact (used.added hl).imp_right Or.inl

end Engine

/-- What is stored under a plan is stored without it as well. -/
lemma Cut.store_extends {σ α : Type} [Planned σ] {s : σ} {run calmRun : Except Error α × σ}
    (h : Cut s run calmRun) :
    (environment run.2).store.Extends (environment calmRun.2).store := by
  cases h with
  | through clears same =>
    rw [same, store_calm]
    exact .refl _
  | short err error halts store => exact store

namespace Engine

variable {e : Engine} {m : Key} {w : Workspace}

/-- **A write** adds only keys that are needed, whether it fails or not: without the failures it
would have added no others. -/
theorem Sound.rotates_encrypt (hw : e.Sound m w) (payload : Bytes) :
    w.environment.store.Rotates e.policy w.environment.clock.wall e.partition
      ((do return (← e.encrypt payload).toJson : Work Bytes).outcome w).2.environment.store := by
  have habrupt : Abrupt (do return (← e.encrypt payload).toJson : Work Bytes) :=
    (abrupt_encrypt hw.service payload).bind fun _ => abrupt_pure _
  obtain ⟨hstore, hcut⟩ := habrupt w hw.failing
  have hcalm : (do return (← e.encrypt payload).toJson : Work Bytes).Yields (calm w)
      (fun _ w' => ∃ k, e.Writes m (calm w) k w') fun _ w' => ∃ k, e.Writes m (calm w) k w' := by
    refine (yields_encrypt (sound_calm hw) payload).bind (fun row w' h => ?_) fun err w' h => ?_
    · obtain ⟨k, hwrites, -⟩ := h
      exact ⟨k, hwrites⟩
    · rcases h with ⟨hplans, -⟩ | ⟨-, hwrites⟩
      · exact absurd hplans (Faults.not_plans_none err)
      · exact hwrites
  obtain ⟨k, hwrites⟩ := hcalm.outcome (P := fun _ w' => ∃ k, e.Writes m (calm w) k w')
  exact (hwrites.rotates (sound_calm hw)).of_extends hstore hcut.store_extends

end Engine

/-! ### Runs -/

/-- The turn is not a record from another process. -/
def Turn.IsOwn : Turn → Prop
  | .append .. => False
  | _ => True

/-- The request asks for a revocation. -/
def Request.Revokes : Request → Prop
  | .revoke .. => True
  | _ => False

namespace World

variable {m : Key} {w w' : World} {p : Partition} {turns : List Turn}

/-- No key in the store has to be replaced, by the policy of any engine. -/
def Lasts (w : World) : Prop :=
  ∀ (i : Nat) (s : EngineState), w.engines[i]? = some s → ∀ id t r,
    w.environment.store.load? id t = some r → ¬ s.policy.Retires w.environment.clock.wall r

/-- At no time in the turns has any key to be replaced. -/
def AlwaysLasts : World → List Turn → Prop
  | w, [] => w.Lasts
  | w, t :: rest => w.Lasts ∧ AlwaysLasts (w.take t) rest

/-- **An engine of a sound world** adds only keys that are needed. -/
lemma Sound.rotates (h : w.Sound m) {n : Nat} {s : EngineState} (hs : w.engines[n]? = some s)
    (payload : Bytes) :
    w.environment.store.Rotates s.policy w.environment.clock.wall s.partition
      (w.apply (.encrypt n payload)).environment.store := by
  obtain ⟨f, c, hseat⟩ := h.seat hs
  rw [apply_encrypt ((h.bench hseat).work_eq _)]
  exact hseat.sound.rotates_encrypt payload

/-- **One turn** of their own gives no id a second intermediate key while all keys last. -/
lemma Sound.lone_take (h : w.Sound m) (hlone : w.environment.store.Lone) (hlasts : w.Lasts)
    {t : Turn} (ht : t.IsOwn) : (w.take t).environment.store.Lone := by
  cases t with
  | append keyId r => exact ht.elim
  | plan faults => exact hlone
  | request q =>
    obtain ⟨-, hstep⟩ := h.apply q
    show (w.apply q).environment.store.Lone
    generalize hw' : w.apply q = w' at hstep
    cases hstep with
    | tidied q w' tidy tidies => exact tidies.environment.store ▸ hlone
    | added product service policy w' adds =>
      obtain ⟨sessions, rfl, -⟩ := addFactory_eq_ok adds
      exact hlone
    | sealed i payload s f c r v seat answer result =>
      rw [← hw']
      exact (h.rotates seat.engine payload).lone hlone (hlasts i s seat.engine)
    | opened i text s f c r v seat result => exact result.keeps.store ▸ hlone
    | advanced d => exact hlone
    | set now => exact hlone
    | revoked keyId created log =>
      intro id t t' r r' hid hl hl'
      obtain ⟨r₀, hl, -⟩ := Store.load?_of_revoke hl
      obtain ⟨r₀', hl', -⟩ := Store.load?_of_revoke hl'
      exact hlone hid hl hl'

/-- **Turns** of their own give no id a second intermediate key while all keys last. -/
theorem Sound.lone_play (h : w.Sound m) (hlone : w.environment.store.Lone)
    (hfair : Fair m w turns) (hown : ∀ t ∈ turns, t.IsOwn) (hlasts : w.AlwaysLasts turns) :
    (w.play turns).environment.store.Lone := by
  induction turns generalizing w with
  | nil => exact hlone
  | cons t rest ih =>
    obtain ⟨ht, hrest⟩ := List.forall_mem_cons.1 hown
    exact ih (h.take hfair.1) (h.lone_take hlone hlasts.1 ht) hfair.2 hrest hlasts.2

/-! ### Keys that never expire -/

/-- No record is revoked. -/
def Unrevoked (w : World) : Prop :=
  ∀ {id t r}, w.environment.store.load? id t = some r → r.isRevoked = false

/-- Only a revocation revokes a record. -/
lemma Step.unrevoked {q : Request} (h : Step m w q w') (hq : ¬ q.Revokes) (hw : w.Unrevoked) :
    w'.Unrevoked := by
  cases h with
  | tidied q w' tidy tidies => exact fun hl => hw (tidies.environment.store ▸ hl)
  | added product service policy w' adds =>
    obtain ⟨sessions, rfl, -⟩ := addFactory_eq_ok adds
    exact hw
  | sealed i payload s f c r v seat answer result =>
    intro id t r hl
    rcases result.evolves.added hl with hl | ⟨-, hr, -⟩ | ⟨-, hr, -⟩
    · exact hw hl
    · exact hr
    · exact hr
  | opened i text s f c r v seat result => exact fun hl => hw (result.keeps.store ▸ hl)
  | advanced d => exact hw
  | set now => exact hw
  | revoked keyId created log => exact absurd trivial hq

/-- Without a lifetime, a key has to be replaced only if it is revoked. -/
lemma OnTime.lasts {policy : Policy} (h : OnTime m policy w) (hp : policy.lifetime = none)
    (hu : w.Unrevoked) : w.Lasts := by
  intro i s hs id t r hl hretires
  obtain ⟨f, c, hseat⟩ := h.sound.seat hs
  rw [h.policy hseat] at hretires
  rcases hretires with hrevoked | ⟨-, lifetime, hlifetime, -⟩
  · exact Bool.false_ne_true ((hu hl).symm.trans hrevoked)
  · rw [hp] at hlifetime
    cases hlifetime

/-- **Keys without a lifetime** last as long as none is revoked. -/
theorem OnTime.alwaysLasts {policy : Policy} (h : OnTime m policy w) (hp : policy.lifetime = none)
    (hu : w.Unrevoked) {requests : List Request} (hs : Steady policy w.environment.clock requests)
    (hr : ∀ q ∈ requests, ¬ q.Revokes) : w.AlwaysLasts (requests.map .request) := by
  induction requests generalizing w with
  | nil => exact h.lasts hp hu
  | cons q rest ih =>
    obtain ⟨hq, hrest⟩ := List.forall_mem_cons.1 hr
    refine ⟨h.lasts hp hu, ih (h.apply hs.1).1 ?_ (h.steady_rest hs) hrest⟩
    exact (h.sound.apply q).2.unrevoked hq hu

/-! ### All writers of a partition -/

/-- **Keys are replaced only when they must be.** After fair turns from an empty store, a write,
even one that fails, leaves all records as they are and adds a key only where there is none or where
the latest one, or for an intermediate key its parent, is revoked or has expired for a policy that
replaces it inline. As long as no key has to be replaced, all that is returned for a partition names
one intermediate key, whichever engines sealed it. -/
theorem rotates_only_when_needed (m : Key) (suffix : Option String) (clock : Clock)
    (random : Random) {turns : List Turn} (hfair : Fair m (start m suffix clock random) turns) :
    let origin := start m suffix clock random
    let w := origin.play turns
    (∀ n s, w.engines[n]? = some s → ∀ payload,
      w.environment.store.Rotates s.policy w.environment.clock.wall s.partition
        (w.apply (.encrypt n payload)).environment.store) ∧
    ((∀ t ∈ turns, t.IsOwn) → origin.AlwaysLasts turns →
      ∀ p payload payload' text text', origin.Returned turns p payload text →
        origin.Returned turns p payload' text' →
        ∃ q, DataRow.named? text = some q ∧ DataRow.named? text' = some q) := by
  intro origin w
  have horigin : origin.Sound m := sound_start m suffix clock random
  refine ⟨fun n s hs payload => (horigin.play hfair).rotates hs payload,
    fun hown hlasts p payload payload' text text' hr hr' => ?_⟩
  have hlone : w.environment.store.Lone :=
    horigin.lone_play (fun _ hl => nomatch hl) hfair hown hlasts
  obtain ⟨created, k, named, hk, -⟩ := horigin.returned hfair hr
  obtain ⟨created', k', named', hk', -⟩ := horigin.returned hfair hr'
  obtain ⟨r, _, _, hl, -⟩ := Store.intermediateKey_eq_ok hk
  obtain ⟨r', _, _, hl', -⟩ := Store.intermediateKey_eq_ok hk'
  have hcreated : created = created' :=
    Stamp.time_inj.1 (hlone p.isIntermediateId_intermediateKeyId hl hl')
  exact ⟨_, named, hcreated ▸ named'⟩

/-- The sessions of two factories, a hundred days apart. -/
theorem two_factories_share_key :
    let before : List Request := opening "product" "service" "partition" .never ++
      [.openFactory "product" "service" .never, .openSession 1 "partition"]
    let w := (start .zeros none .epoch (.ofSeed 0)).run before
    let w' := (start .zeros none .epoch (.ofSeed 0)).run
      (before ++ [.encrypt 0 [], .advance (.ofDays 100)])
    ∃ q text text', (w.encrypt 0 []).map Prod.fst = some (.ok text) ∧
      (w'.encrypt 1 []).map Prod.fst = some (.ok text') ∧
      DataRow.named? text = some q ∧ DataRow.named? text' = some q := by
  intro before w w'
  have horigin := sound_start .zeros none .epoch (.ofSeed 0)
  have hsession : w.Session 0 .given := ⟨_, rfl, rfl⟩
  have hsession' : w'.Session 1 .given := by
    have hw' : w' = w.run [.encrypt 0 [], .advance (.ofDays 100)] := run_append ..
    exact hw' ▸ ((horigin.run before).1.run _).2.session ⟨_, rfl, rfl⟩
  have seals : ∀ requests n,
      ((start .zeros none .epoch (.ofSeed 0)).run requests).Session n .given →
        ∃ text, (((start .zeros none .epoch (.ofSeed 0)).run requests).encrypt n []).map
          Prod.fst = some (.ok text) := by
    intro requests n hs
    rcases (horigin.run requests).1.encrypt_cases (faults_run ..) hs [] with
      ⟨text, htext, -⟩ | ⟨hlong, -⟩
    · exact ⟨text, htext⟩
    · exact absurd hlong (by decide)
  obtain ⟨text, htext⟩ := seals _ _ hsession
  obtain ⟨text', htext'⟩ := seals _ _ hsession'
  let requests := before ++ [.encrypt 0 [], .advance (.ofDays 100), .encrypt 1 []]
  have hfair : Fair .zeros (start .zeros none .epoch (.ofSeed 0)) (requests.map .request) :=
    fair_map_request ..
  have hsteady : Steady .never Clock.epoch requests :=
    ⟨rfl, trivial, rfl, trivial, trivial, rfl, trivial, trivial⟩
  have hlasts : (start .zeros none .epoch (.ofSeed 0)).AlwaysLasts (requests.map .request) :=
    (onTime_start .zeros none .epoch (.ofSeed 0) .never).alwaysLasts rfl (fun hl => nomatch hl)
      hsteady (by simp [requests, before, opening, Request.Revokes])
  obtain ⟨-, hshared⟩ := rotates_only_when_needed .zeros none .epoch (.ofSeed 0) hfair
  obtain ⟨q, hq, hq'⟩ := hshared (by simp [Turn.IsOwn]) hlasts .given [] [] text text'
    (returned_of_run hsession htext [.advance (.ofDays 100), .encrypt 1 []])
    (returned_of_run hsession' htext' [])
  exact ⟨q, text, text', htext, htext', hq, hq'⟩

end World

end Envelope
