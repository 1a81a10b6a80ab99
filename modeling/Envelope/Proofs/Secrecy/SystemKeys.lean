import Envelope.Proofs.Resolution
import Envelope.Proofs.Secrecy.Calls

/-!
System keys in two workspaces that differ in their secrets.

The caches of each workspace mirror its store, and every record opens. So an engine resolves a
pointer to keys of one outline under either master key, and takes the same way for both, down to the
same error where a call fails.
-/

namespace Envelope

open Envelope.Action Kinship

/-! ### Keys that are alike -/

/-- Keys of one outline, each the one looked up, but for a revocation not yet seen. -/
structure KeysAlike (look look' : Except Error Key) (k k' : Key) : Prop where
  outline : k.outline = k'.outline
  left : ∃ k₀, look = .ok k₀ ∧ k.Persists k₀
  right : ∃ k₀, look' = .ok k₀ ∧ k'.Persists k₀

/-- Keys of one outline, each the very one looked up. -/
structure KeysFound (look look' : Except Error Key) (k k' : Key) : Prop where
  outline : k.outline = k'.outline
  left : look = .ok k
  right : look' = .ok k'

section

variable {look look' found found' : Except Error Key} {k k' : Key}

lemma KeysAlike.created (h : KeysAlike look look' k k') : k.created = k'.created :=
  (Key.outline_eq_iff.1 h.outline).1

lemma KeysAlike.revoked (h : KeysAlike look look' k k') : k.revoked = k'.revoked :=
  (Key.outline_eq_iff.1 h.outline).2

lemma KeysAlike.mono (h : KeysAlike look look' k k') (hl : ∀ {k}, look = .ok k → found = .ok k)
    (hr : ∀ {k}, look' = .ok k → found' = .ok k) : KeysAlike found found' k k' := by
  obtain ⟨houtline, ⟨k₀, hk, hp⟩, k₀', hk', hp'⟩ := h
  exact ⟨houtline, ⟨k₀, hl hk, hp⟩, k₀', hr hk', hp'⟩

lemma KeysFound.alike (h : KeysFound look look' k k') : KeysAlike look look' k k' :=
  ⟨h.outline, ⟨k, h.left, .refl k⟩, k', h.right, .refl k'⟩

lemma KeysFound.created (h : KeysFound look look' k k') : k.created = k'.created :=
  h.alike.created

end

/-- Both stores have a system key for the pointer. -/
abbrev SystemHeld (m n : Key) (q : KeyMeta) (s s' : Store) : Prop :=
  (∃ k, s.systemKey m q = .ok k) ∧ ∃ k, s'.systemKey n q = .ok k

lemma SystemHeld.mono {m n : Key} {q : KeyMeta} {s s' t t' : Store} (h : SystemHeld m n q s s')
    (hs : s.Extends t) (hs' : s'.Extends t') : SystemHeld m n q t t' := by
  obtain ⟨⟨k, hk⟩, k', hk'⟩ := h
  exact ⟨⟨k, hs.systemKey hk⟩, k', hs'.systemKey hk'⟩

/-- Two caches have nothing to hand out, or keys that are alike. -/
inductive CachedAlike (look look' : Stamp → Except Error Key) : Option Key → Option Key → Prop where
  | none : CachedAlike look look' none none
  | some (k k' : Key) (keys : KeysAlike (look k.created) (look' k'.created) k k') :
      CachedAlike look look' (some k) (some k')

namespace KeyCache

variable {c c' : KeyCache} {look look' : Stamp → Except Error Key} {now : Nat}

lemma cachedAlike_of_map {x x' : Option Key} (h : x.map Key.outline = x'.map Key.outline)
    (hl : ∀ k ∈ x, ∃ k₀, look k.created = .ok k₀ ∧ k.Persists k₀)
    (hr : ∀ k ∈ x', ∃ k₀, look' k.created = .ok k₀ ∧ k.Persists k₀) :
    CachedAlike look look' x x' := by
  cases x with
  | none =>
    cases x' with
    | none => exact .none
    | some k' => cases h
  | some k =>
    cases x' with
    | none => cases h
    | some k' => exact .some k k' ⟨Option.some.inj h, hl k rfl, hr k' rfl⟩

lemma cachedAlike_get? (h : c.outline = c'.outline) (hm : c.Mirrors look) (hm' : c'.Mirrors look')
    (t : Stamp) : CachedAlike look look' (c.get? now t.time) (c'.get? now t.time) ∧
      ∀ k ∈ c.get? now t.time, k.created = t := by
  refine ⟨cachedAlike_of_map ?_ (fun k hk => ?_) fun k hk => ?_, fun k hk => (hm.get? hk).1⟩
  · rw [← get?_outline, ← get?_outline, h]
  · obtain ⟨ht, hk⟩ := hm.get? hk
    exact ht ▸ hk
  · obtain ⟨ht, hk⟩ := hm'.get? hk
    exact ht ▸ hk

lemma cachedAlike_latest? (h : c.outline = c'.outline) (hm : c.Mirrors look)
    (hm' : c'.Mirrors look') :
    CachedAlike look look' ((c.latest? now).map Prod.snd) ((c'.latest? now).map Prod.snd) := by
  have mirrored : ∀ {c : KeyCache} {look : Stamp → Except Error Key}, c.Mirrors look →
      ∀ k ∈ (c.latest? now).map Prod.snd, ∃ k₀, look k.created = .ok k₀ ∧ k.Persists k₀ := by
    intro c look hm k hk
    obtain ⟨⟨t, _⟩, hl, rfl⟩ := Option.map_eq_some_iff.1 hk
    exact (hm.latest? hl).2
  refine cachedAlike_of_map ?_ (mirrored hm) (mirrored hm')
  have houtline : (c.outline.latest? now).map Prod.snd = (c'.outline.latest? now).map Prod.snd := by
    rw [h]
  rw [latest?_outline, latest?_outline, Option.map_map, Option.map_map] at houtline
  rw [Option.map_map, Option.map_map]
  exact houtline

/-- A key just looked up is put into caches of one outline. -/
lemma put_alike {now' : Nat} {k k' : Key} (h : c.outline = c'.outline) (hm : c.Mirrors look)
    (hm' : c'.Mirrors look') (hk : KeysFound (look k.created) (look' k'.created) k k')
    (hnow : now = now') :
    ((c.put now k.created.time k).1 = k ∧ (c.put now k.created.time k).2.Mirrors look) ∧
      ((c'.put now' k'.created.time k').1 = k' ∧
        (c'.put now' k'.created.time k').2.Mirrors look') ∧
      (c.put now k.created.time k).2.outline = (c'.put now' k'.created.time k').2.outline := by
  have puts : ∀ {c : KeyCache} {look : Stamp → Except Error Key} {k : Key} {now : Nat},
      c.Mirrors look → look k.created = .ok k →
      (c.put now k.created.time k).1 = k ∧ (c.put now k.created.time k).2.Mirrors look :=
    fun {c look k now} hm hk => ⟨(hm.put hk).1,
      hm.of_refreshes (hm.refreshes_put hk) fun hk => ⟨_, hk, .refl _⟩⟩
  subst hnow
  refine ⟨puts hm hk.left, puts hm' hk.right, ?_⟩
  rw [(outline_put ..).2, (outline_put ..).2, h, hk.outline, hk.created]

end KeyCache

namespace Engine

variable {p : Partition} {policy : Policy} {m n : Key} {e e' : Environment} {w w' : Workspace}
  {α : Type}

/-! ### Workspaces -/

/-- The caches mirror the store, and use keys for as long as the policy says. -/
structure Workspace.Mirrors (p : Partition) (policy : Policy) (m : Key) (w : Workspace) : Prop where
  systemKeys : w.systemKeys.Mirrors fun t =>
    w.environment.store.systemKey m ⟨p.systemKeyId, t⟩
  intermediateKeys : w.intermediateKeys.Mirrors fun t =>
    w.environment.store.intermediateKey m ⟨p.intermediateKeyId, t⟩
  systemCheck : w.systemKeys.revokeCheck = policy.revokeCheck
  intermediateCheck : w.intermediateKeys.revokeCheck = policy.revokeCheck

/-- The workspaces have one outline, and the caches of each mirror its store. -/
structure Workspace.Twins (p : Partition) (policy : Policy) (m n : Key) (w w' : Workspace) :
    Prop where
  environment : w.environment.Twins m n w'.environment
  systemKeys : w.systemKeys.outline = w'.systemKeys.outline
  intermediateKeys : w.intermediateKeys.outline = w'.intermediateKeys.outline
  left : w.Mirrors p policy m
  right : w'.Mirrors p policy n

def Workspace.kinship (p : Partition) (policy : Policy) (m n : Key) : Kinship Workspace :=
  ⟨(·.environment), Workspace.Twins p policy m n⟩

lemma Workspace.Mirrors.withEnvironment (h : w.Mirrors p policy m)
    (hs : w.environment.store.Extends e.store) :
    Mirrors p policy m { w with environment := e } where
  systemKeys := h.systemKeys.mono fun hk => ⟨_, hs.systemKey hk, .refl _⟩
  intermediateKeys := h.intermediateKeys.mono fun hk => ⟨_, hs.intermediateKey hk, .refl _⟩
  systemCheck := h.systemCheck
  intermediateCheck := h.intermediateCheck

open Workspace

/-- What happens alike in the environments happens alike in the workspaces. -/
lemma agrees_lift {a b : Effect α} {Q : α → α → Store → Store → Prop}
    (h : w.Twins p policy m n w')
    (hab : (Environment.kinship m n).Agrees a b w.environment w'.environment Q) :
    (kinship p policy m n).Agrees (liftM a : Work α) (liftM b) w w' Q := by
  have after : ∀ {e e'}, (Environment.kinship m n).After w.environment w'.environment e e' →
      (kinship p policy m n).After w w' { w with environment := e }
        { w' with environment := e' } := fun hafter =>
    ⟨⟨hafter.twins, h.systemKeys, h.intermediateKeys, h.left.withEnvironment hafter.left,
      h.right.withEnvironment hafter.right⟩, hafter.left, hafter.right⟩
  have lifted : ∀ (a : Effect α) (w : Workspace), (liftM a : Work α).outcome w =
      ((a.outcome w.environment).1, { w with environment := (a.outcome w.environment).2 }) :=
    fun _ _ => rfl
  unfold Agrees Pairs at hab ⊢
  rw [lifted, lifted]
  rcases ha : a.outcome w.environment with ⟨err | x, e⟩ <;>
    rcases hb : b.outcome w'.environment with ⟨err' | y, e'⟩ <;> rw [ha, hb] at hab
  · exact ⟨hab.1, after hab.2⟩
  · exact hab
  · exact hab
  · exact ⟨hab.1, after hab.2⟩

/-! ### Cached keys -/

lemma agrees_cachedSystemKey? (h : w.Twins p policy m n w') (t : Stamp) :
    (kinship p policy m n).Agrees (cachedSystemKey? t.time) (cachedSystemKey? t.time) w w'
      fun x y s s' => CachedAlike (fun t => s.systemKey m ⟨p.systemKeyId, t⟩)
        (fun t => s'.systemKey n ⟨p.systemKeyId, t⟩) x y ∧ ∀ k ∈ x, k.created = t := by
  refine ⟨?_, .refl h⟩
  rw [← h.environment.clock]
  exact KeyCache.cachedAlike_get? h.systemKeys h.left.systemKeys h.right.systemKeys t

lemma agrees_latestSystemKey? (h : w.Twins p policy m n w') :
    (kinship p policy m n).Agrees latestSystemKey? latestSystemKey? w w'
      fun x y s s' => CachedAlike (fun t => s.systemKey m ⟨p.systemKeyId, t⟩)
        (fun t => s'.systemKey n ⟨p.systemKeyId, t⟩) x y := by
  refine ⟨?_, .refl h⟩
  rw [← h.environment.clock]
  exact KeyCache.cachedAlike_latest? h.systemKeys h.left.systemKeys h.right.systemKeys

lemma agrees_cachedIntermediateKey? (h : w.Twins p policy m n w') (t : Stamp) :
    (kinship p policy m n).Agrees (cachedIntermediateKey? t.time) (cachedIntermediateKey? t.time)
      w w' fun x y s s' => CachedAlike (fun t => s.intermediateKey m ⟨p.intermediateKeyId, t⟩)
        (fun t => s'.intermediateKey n ⟨p.intermediateKeyId, t⟩) x y ∧
        ∀ k ∈ x, k.created = t := by
  refine ⟨?_, .refl h⟩
  rw [← h.environment.clock]
  exact KeyCache.cachedAlike_get? h.intermediateKeys h.left.intermediateKeys
    h.right.intermediateKeys t

lemma agrees_latestIntermediateKey? (h : w.Twins p policy m n w') :
    (kinship p policy m n).Agrees latestIntermediateKey? latestIntermediateKey? w w'
      fun x y s s' => CachedAlike (fun t => s.intermediateKey m ⟨p.intermediateKeyId, t⟩)
        (fun t => s'.intermediateKey n ⟨p.intermediateKeyId, t⟩) x y := by
  refine ⟨?_, .refl h⟩
  rw [← h.environment.clock]
  exact KeyCache.cachedAlike_latest? h.intermediateKeys h.left.intermediateKeys
    h.right.intermediateKeys

/-- The reading of an expired key is logged in both or in neither. -/
lemma agrees_noticeExpired {x y : KeyHandle} {Q : KeyHandle → KeyHandle → Store → Store → Prop}
    (h : w.Twins p policy m n w') (hcreated : x.key.created = y.key.created) (tier : Tier)
    (keyId : String) (hQ : ∀ {v v'}, (kinship p policy m n).After w w' v v' →
      Q x y v.environment.store v'.environment.store) :
    (kinship p policy m n).Agrees (do
      if policy.IsExpired (← Effect.now) x.key.created.time then
        Effect.emit (.expiredKeyRead tier keyId x.key.created)
      return x : Work KeyHandle) (do
      if policy.IsExpired (← Effect.now) y.key.created.time then
        Effect.emit (.expiredKeyRead tier keyId y.key.created)
      return y : Work KeyHandle) w w' Q := by
  rw [← hcreated]
  refine (agrees_lift h (Effect.agrees_now h.environment)).bind fun now _ v v' heq hafter => ?_
  subst heq
  split
  · exact (agrees_lift hafter.twins (Effect.agrees_emit hafter.twins.environment _)).bind
      fun _ _ _ _ _ hafter' => agrees_pure hafter'.twins (hQ (hafter.trans hafter'))
  · exact agrees_pure hafter.twins (hQ hafter)

/-! ### Records and usability -/

lemma agrees_isUsable (h : e.Twins m n e') (keyId : String) (created : Stamp) (revoked : Bool) :
    (Environment.kinship m n).Agrees (isUsable ⟨p, policy, .master m⟩ keyId created revoked)
      (isUsable ⟨p, policy, .master n⟩ keyId created revoked) e e' fun b b' _ _ => b = b' := by
  unfold isUsable
  split
  · exact agrees_pure h rfl
  · refine (Effect.agrees_now h).bind fun now _ s s' heq hafter => ?_
    subst heq
    dsimp only
    split
    · exact agrees_pure hafter.twins rfl
    · split
      · exact (Effect.agrees_emit hafter.twins _).bind fun _ _ _ _ _ hafter =>
          agrees_pure hafter.twins rfl
      · exact agrees_pure hafter.twins rfl

lemma unwrap_of_openWith {outer k : Key} {r : KeyRecord} (h : r.openWith outer = .ok k) :
    ∃ wrapped, r.keyBytes = .ok wrapped ∧ outer.unwrap wrapped r.created r.isRevoked = .ok k := by
  obtain ⟨wrapped, hb, hd, hc, hr⟩ := KeyRecord.openWith_eq_ok h
  refine ⟨wrapped, hb, ?_⟩
  rw [Key.unwrap_of_decrypt hd, ← hc, ← hr, Key.restamp_self]

lemma agrees_openSystemRecord {r r' : KeyRecord} {k k' : Key} (h : e.Twins m n e')
    (hr : r.outline = r'.outline) (hk : r.openWith m = .ok k) (hk' : r'.openWith n = .ok k') :
    (Environment.kinship m n).Agrees (openSystemRecord ⟨p, policy, .master m⟩ r)
      (openSystemRecord ⟨p, policy, .master n⟩ r') e e' fun x y _ _ => x = k ∧ y = k' := by
  obtain ⟨wrapped, hb, hu⟩ := unwrap_of_openWith hk
  obtain ⟨wrapped', hb', hu'⟩ := unwrap_of_openWith hk'
  rw [← (KeyRecord.outline_eq_iff.1 hr).1, ← KeyRecord.isRevoked_of_outline hr] at hu'
  unfold openSystemRecord
  rw [hb, hb', ← (KeyRecord.outline_eq_iff.1 hr).1, ← KeyRecord.isRevoked_of_outline hr]
  exact Effect.agrees_callUnwrap h hu hu'

lemma agrees_openIntermediateRecord {r r' : KeyRecord} {outer outer' k k' : Key}
    (h : e.Twins m n e') (hk : r.openWith outer = .ok k) (hk' : r'.openWith outer' = .ok k') :
    (Environment.kinship m n).Agrees (openIntermediateRecord r outer)
      (openIntermediateRecord r' outer') e e' fun x y _ _ => x = k ∧ y = k' := by
  obtain ⟨wrapped, hb, hu⟩ := unwrap_of_openWith hk
  obtain ⟨wrapped', hb', hu'⟩ := unwrap_of_openWith hk'
  unfold openIntermediateRecord
  rw [hb, hb']
  exact Effect.agrees_opened h hu hu'

/-! ### System keys -/

/-- System records that are alike open to the keys that are looked up. -/
lemma agrees_openSystem {id : String} {r r' : KeyRecord} (h : e.Twins m n e')
    (hr : RecordsAlike id e.store e'.store r r')
    (hheld : SystemHeld m n ⟨id, r.created⟩ e.store e'.store) :
    (Environment.kinship m n).Agrees (openSystemRecord ⟨p, policy, .master m⟩ r)
      (openSystemRecord ⟨p, policy, .master n⟩ r') e e' fun k k' s s' => k.created = r.created ∧
        KeysFound (s.systemKey m ⟨id, r.created⟩) (s'.systemKey n ⟨id, r.created⟩) k k' := by
  obtain ⟨⟨k, hlook⟩, k', hlook'⟩ := hheld
  have hl' := hr.right
  rw [← hr.created] at hl'
  have hk := (Store.systemKey_of_load? (p := ⟨id, r.created⟩) hr.left).symm.trans hlook
  have hk' := (Store.systemKey_of_load? (p := ⟨id, r.created⟩) hl').symm.trans hlook'
  obtain ⟨-, -, -, hc, hrev⟩ := KeyRecord.openWith_eq_ok hk
  obtain ⟨-, -, -, hc', hrev'⟩ := KeyRecord.openWith_eq_ok hk'
  refine (agrees_openSystemRecord h hr.outline hk hk').mono fun x y s s' hxy hafter => ?_
  obtain ⟨rfl, rfl⟩ := hxy
  refine ⟨hc, Key.outline_eq_iff.2 ⟨?_, ?_⟩, hafter.left.systemKey hlook,
    hafter.right.systemKey hlook'⟩
  · rw [hc, hc', hr.created]
  · rw [hrev, hrev', hr.isRevoked]

/-- The keys are those of the partition under their own times. -/
abbrev SystemFound (p : Partition) (m n : Key) (k k' : Key) (s s' : Store) : Prop :=
  KeysFound (s.systemKey m ⟨p.systemKeyId, k.created⟩) (s'.systemKey n ⟨p.systemKeyId, k'.created⟩)
    k k'

/-- The records of a partition open in sound stores. -/
lemma agrees_openOwnSystem {r r' : KeyRecord} (h : e.Twins m n e')
    (hr : RecordsAlike p.systemKeyId e.store e'.store r r') :
    (Environment.kinship m n).Agrees (openSystemRecord ⟨p, policy, .master m⟩ r)
      (openSystemRecord ⟨p, policy, .master n⟩ r') e e' (SystemFound p m n) := by
  obtain ⟨k, -, hk⟩ := h.left.systemKey p.isSystemId_systemKeyId hr.left
  obtain ⟨k', -, hk'⟩ := h.right.systemKey p.isSystemId_systemKeyId hr.right
  refine (agrees_openSystem h hr ⟨⟨k, hk⟩, k', hr.created ▸ hk'⟩).mono
    fun x y s s' hxy hafter => ?_
  obtain ⟨hc, hfound⟩ := hxy
  unfold SystemFound
  rw [← hfound.created, hc]
  exact hfound

/-- A fresh key, wrapped under the master key, may be stored. -/
lemma admits_fresh {s : Store} {key : Key} {wrapped : Bytes} (hrevoked : key.revoked = false)
    (hw : m.decrypt wrapped = .ok key.secret) :
    (KeyRecord.system key.created wrapped (some false)).openWith m = .ok key ∧
      s.Admits m p.systemKeyId (.system key.created wrapped (some false)) := by
  have hopen := KeyRecord.openWith_of_decrypt (KeyRecord.keyBytes_system key.created wrapped
    (some false)) hw rfl hrevoked.symm
  exact ⟨hopen, .system key p.isSystemId_systemKeyId rfl hopen⟩

lemma agrees_createSystemKey (h : e.Twins m n e') :
    (Environment.kinship m n).Agrees (createSystemKey ⟨p, policy, .master m⟩)
      (createSystemKey ⟨p, policy, .master n⟩) e e' (SystemFound p m n) := by
  unfold createSystemKey
  dsimp only
  refine (Effect.agrees_now h).bind fun now _ s s' heq hafter => ?_
  subst heq
  refine (Effect.agrees_generateKey hafter.twins _).bind fun key key' s s' hkeys hafter => ?_
  obtain ⟨⟨hc, hrev⟩, hc', hrev'⟩ := hkeys
  have hcreated : key.created = key'.created := hc.trans hc'.symm
  refine (Effect.agrees_callWrap hafter.twins hcreated).bind fun x y s s' hwraps hafter => ?_
  obtain ⟨hopen, hadmits⟩ := admits_fresh (p := p) (s := s.store) hrev hwraps.1
  obtain ⟨hopen', hadmits'⟩ := admits_fresh (p := p) (s := s'.store) hrev' hwraps.2
  have houtline : (KeyRecord.system key.created x (some false)).outline =
      (KeyRecord.system key'.created y (some false)).outline :=
    KeyRecord.outline_eq_iff.2 ⟨hcreated, rfl, rfl⟩
  refine (Effect.agrees_insertRecord hafter.twins houtline hadmits hadmits').bind
    fun b b' s s' hinserts hafter => ?_
  obtain ⟨rfl, hwon⟩ := hinserts
  cases b with
  | true =>
    have hrecords := hwon rfl
    rw [if_pos rfl, if_pos rfl, ← hcreated]
    refine (Effect.agrees_emit hafter.twins _).bind fun _ _ s s' _ hafter => ?_
    refine agrees_pure hafter.twins ⟨Key.outline_eq_iff.2 ⟨hcreated, hrev.trans hrev'.symm⟩, ?_, ?_⟩
    · exact (Store.systemKey_of_load? (hafter.left.load hrecords.left)).trans hopen
    · exact (Store.systemKey_of_load? (hafter.right.load hrecords.right)).trans hopen'
  | false =>
    rw [if_neg Bool.false_ne_true, if_neg Bool.false_ne_true]
    refine (Effect.agrees_emit hafter.twins _).bind fun _ _ s s' _ hafter => ?_
    refine (Effect.agrees_latestRecord hafter.twins _).bind
      fun found found' s s' hfound hafter => ?_
    cases hfound with
    | none => exact agrees_throw hafter.twins _
    | some r r' records => exact agrees_openOwnSystem hafter.twins records

lemma agrees_latestOrNewSystemKey (h : e.Twins m n e') :
    (Environment.kinship m n).Agrees (latestOrNewSystemKey ⟨p, policy, .master m⟩)
      (latestOrNewSystemKey ⟨p, policy, .master n⟩) e e' (SystemFound p m n) := by
  unfold latestOrNewSystemKey
  dsimp only
  refine (Effect.agrees_latestRecord h _).bind fun found found' s s' hfound hafter => ?_
  cases hfound with
  | none => exact agrees_createSystemKey hafter.twins
  | some r r' records =>
    dsimp only
    rw [← records.created, ← records.isRevoked]
    refine (agrees_isUsable hafter.twins _ _ _).bind fun b _ s s' heq hafter => ?_
    subst heq
    split
    · exact agrees_openOwnSystem hafter.twins (records.mono hafter.left hafter.right)
    · exact agrees_createSystemKey hafter.twins

lemma agrees_retainSystemKey {k k' : Key} (h : w.Twins p policy m n w')
    (hk : SystemFound p m n k k' w.environment.store w'.environment.store) :
    (kinship p policy m n).Agrees (retainSystemKey ⟨p, policy, .master m⟩ k)
      (retainSystemKey ⟨p, policy, .master n⟩ k') w w' fun x y _ _ => x.key = k ∧ y.key = k' := by
  unfold retainSystemKey
  dsimp only
  split
  · obtain ⟨⟨hx, hm⟩, ⟨hy, hm'⟩, houtline⟩ := KeyCache.put_alike h.systemKeys h.left.systemKeys
      h.right.systemKeys hk (congrArg Clock.elapsed h.environment.clock)
    refine ⟨⟨hx, hy⟩, ⟨h.environment, houtline, h.intermediateKeys, ?_, ?_⟩, .refl _, .refl _⟩
    · exact ⟨hm, h.left.intermediateKeys, (KeyCache.revokeCheck_put _).trans h.left.systemCheck,
        h.left.intermediateCheck⟩
    · exact ⟨hm', h.right.intermediateKeys, (KeyCache.revokeCheck_put _).trans h.right.systemCheck,
        h.right.intermediateCheck⟩
  · exact agrees_pure h ⟨rfl, rfl⟩

/-- System keys of the partition that are alike, as they are held. -/
abbrev SystemAlike (p : Partition) (m n : Key) (x y : KeyHandle) (s s' : Store) : Prop :=
  KeysAlike (s.systemKey m ⟨p.systemKeyId, x.key.created⟩)
    (s'.systemKey n ⟨p.systemKeyId, y.key.created⟩) x.key y.key

lemma agrees_retainFound {k k' : Key} (h : w.Twins p policy m n w')
    (hk : SystemFound p m n k k' w.environment.store w'.environment.store) :
    (kinship p policy m n).Agrees (retainSystemKey ⟨p, policy, .master m⟩ k)
      (retainSystemKey ⟨p, policy, .master n⟩ k') w w' (SystemAlike p m n) := by
  refine (agrees_retainSystemKey h hk).mono fun x y s s' hxy hafter => ?_
  obtain ⟨rfl, rfl⟩ := hxy
  exact hk.alike.mono hafter.left.systemKey hafter.right.systemKey

lemma agrees_systemKeyForWrite (h : w.Twins p policy m n w') :
    (kinship p policy m n).Agrees (systemKeyForWrite ⟨p, policy, .master m⟩)
      (systemKeyForWrite ⟨p, policy, .master n⟩) w w' (SystemAlike p m n) := by
  have resolve : ∀ {v v'}, v.Twins p policy m n v' → (kinship p policy m n).Agrees (do
      let key ← liftM (latestOrNewSystemKey ⟨p, policy, .master m⟩)
      retainSystemKey ⟨p, policy, .master m⟩ key : Work KeyHandle) (do
      let key ← liftM (latestOrNewSystemKey ⟨p, policy, .master n⟩)
      retainSystemKey ⟨p, policy, .master n⟩ key : Work KeyHandle) v v' (SystemAlike p m n) :=
    fun h => (agrees_lift h (agrees_latestOrNewSystemKey h.environment)).bind
      fun _ _ _ _ hk hafter => agrees_retainFound hafter.twins hk
  unfold systemKeyForWrite
  dsimp only
  split
  · refine (agrees_latestSystemKey? h).bind fun found found' s s' hfound hafter => ?_
    cases hfound with
    | none => exact resolve hafter.twins
    | some k k' keys =>
      dsimp only
      rw [← keys.created, ← keys.revoked]
      refine (agrees_lift hafter.twins (agrees_isUsable hafter.twins.environment _ _ _)).bind
        fun b _ s s' heq hafter => ?_
      subst heq
      split
      · exact agrees_pure hafter.twins
          (keys.mono hafter.left.systemKey hafter.right.systemKey)
      · exact resolve hafter.twins
  · exact resolve h

/-- Two look-ups have found keys that are alike, or have come to the same otherwise. -/
inductive LookupsAlike (look look' : Except Error Key) : Lookup → Lookup → Prop where
  | found (x y : KeyHandle) (keys : KeysAlike look look' x.key y.key) :
      LookupsAlike look look' (.found x) (.found y)
  | unusable : LookupsAlike look look' .unusable .unusable
  | notFound : LookupsAlike look look' .notFound .notFound

/-- A record that a look-up has found is opened, and its key retained if it is the engine's own. -/
lemma agrees_openFound {id : String} {r r' : KeyRecord} (h : w.Twins p policy m n w')
    (records : RecordsAlike id w.environment.store w'.environment.store r r')
    (hq : SystemHeld m n ⟨id, r.created⟩ w.environment.store w'.environment.store) :
    (kinship p policy m n).Agrees (do
      let key ← liftM (openSystemRecord ⟨p, policy, .master m⟩ r)
      if cachesSystemKey ⟨p, policy, .master m⟩ ⟨id, r.created⟩ then
        return .found (← retainSystemKey ⟨p, policy, .master m⟩ key)
      else return .found (.owned key) : Work Lookup) (do
      let key ← liftM (openSystemRecord ⟨p, policy, .master n⟩ r')
      if cachesSystemKey ⟨p, policy, .master n⟩ ⟨id, r.created⟩ then
        return .found (← retainSystemKey ⟨p, policy, .master n⟩ key)
      else return .found (.owned key) : Work Lookup) w w' fun l l' s s' =>
        LookupsAlike (s.systemKey m ⟨id, r.created⟩) (s'.systemKey n ⟨id, r.created⟩) l l' := by
  refine (agrees_lift h (agrees_openSystem h.environment records hq)).bind
    fun k k' v v' hk hafter => ?_
  obtain ⟨hc, hk⟩ := hk
  by_cases hcache : cachesSystemKey ⟨p, policy, .master m⟩ ⟨id, r.created⟩ = true
  · obtain rfl : id = p.systemKeyId := keyId_of_cachesSystemKey hcache
    rw [if_pos hcache]
    rw [if_pos (show cachesSystemKey ⟨p, policy, .master n⟩ _ = true from hcache)]
    -- The cache goes by the creation times of the keys, the look-up by that of the record.
    have hown : SystemFound p m n k k' v.environment.store v'.environment.store := by
      unfold SystemFound
      rw [← hk.created, hc]
      exact hk
    refine (agrees_retainSystemKey hafter.twins hown).bind fun x y _ _ hxy hafter => ?_
    obtain ⟨rfl, rfl⟩ := hxy
    exact agrees_pure hafter.twins
      (.found x y (hk.alike.mono hafter.left.systemKey hafter.right.systemKey))
  · rw [if_neg hcache]
    rw [if_neg (show ¬ cachesSystemKey ⟨p, policy, .master n⟩ _ = true from hcache)]
    exact agrees_pure hafter.twins (.found (.owned k) (.owned k') hk.alike)

lemma agrees_loadSystemKey (h : w.Twins p policy m n w') {q : KeyMeta}
    (hq : SystemHeld m n q w.environment.store w'.environment.store) (forWrite : Bool) :
    (kinship p policy m n).Agrees (loadSystemKey ⟨p, policy, .master m⟩ q forWrite)
      (loadSystemKey ⟨p, policy, .master n⟩ q forWrite) w w' fun l l' s s' =>
        LookupsAlike (s.systemKey m q) (s'.systemKey n q) l l' := by
  unfold loadSystemKey
  refine (agrees_lift h (Effect.agrees_loadRecord h.environment q)).bind
    fun found found' v v' hfound hafter => ?_
  obtain ⟨hfound, hcreated⟩ := hfound
  replace hq := hq.mono hafter.left hafter.right
  cases hfound with
  | none => exact agrees_pure hafter.twins .notFound
  | some r r' records =>
    obtain ⟨id, created⟩ := q
    obtain rfl : r.created = created := hcreated r rfl
    have opens := fun {u u'} (hafter : (kinship p policy m n).After v v' u u') =>
      agrees_openFound hafter.twins (records.mono hafter.left hafter.right)
        (hq.mono hafter.left hafter.right)
    cases forWrite with
    | false => exact opens (.refl hafter.twins)
    | true =>
      dsimp only
      rw [← records.created, ← records.isRevoked]
      refine (agrees_lift hafter.twins (agrees_isUsable hafter.twins.environment _ _ _)).bind
        fun b _ t t' heq hafter => ?_
      subst heq
      split
      · exact opens hafter
      · exact agrees_pure hafter.twins .unusable

/-- A system key that both stores have is looked up. -/
lemma agrees_systemKey (h : w.Twins p policy m n w') {q : KeyMeta}
    (hq : SystemHeld m n q w.environment.store w'.environment.store) (forWrite : Bool) :
    (kinship p policy m n).Agrees (systemKey ⟨p, policy, .master m⟩ q forWrite)
      (systemKey ⟨p, policy, .master n⟩ q forWrite) w w' fun l l' s s' =>
        LookupsAlike (s.systemKey m q) (s'.systemKey n q) l l' := by
  unfold systemKey
  by_cases hcache : cachesSystemKey ⟨p, policy, .master m⟩ q = true
  · rw [if_pos hcache, if_pos (show cachesSystemKey ⟨p, policy, .master n⟩ q = true from hcache)]
    obtain ⟨id, created⟩ := q
    obtain rfl : id = p.systemKeyId := keyId_of_cachesSystemKey hcache
    refine (agrees_cachedSystemKey? h created).bind fun found found' v v' hfound hafter => ?_
    obtain ⟨hfound, hcreated⟩ := hfound
    replace hq := hq.mono hafter.left hafter.right
    cases hfound with
    | none => exact agrees_loadSystemKey hafter.twins hq forWrite
    | some k k' keys =>
      obtain rfl : k.created = created := hcreated k rfl
      rw [← keys.created] at keys
      have found : ∀ {u u'}, (kinship p policy m n).After v v' u u' →
          LookupsAlike (u.environment.store.systemKey m ⟨p.systemKeyId, k.created⟩)
            (u'.environment.store.systemKey n ⟨p.systemKeyId, k.created⟩) (.found (.cached k))
            (.found (.cached k')) := fun hafter =>
        .found _ _ (keys.mono hafter.left.systemKey hafter.right.systemKey)
      cases forWrite with
      | false => exact agrees_pure hafter.twins (found (.refl hafter.twins))
      | true =>
        dsimp only
        rw [← keys.created, ← keys.revoked]
        refine (agrees_lift hafter.twins (agrees_isUsable hafter.twins.environment _ _ _)).bind
          fun b _ t t' heq hafter => ?_
        subst heq
        split
        · exact agrees_pure hafter.twins (found hafter)
        · exact agrees_pure hafter.twins .unusable
  · rw [if_neg hcache, if_neg (show ¬ cachesSystemKey ⟨p, policy, .master n⟩ q = true from hcache)]
    exact agrees_loadSystemKey h hq forWrite

/-- A system key that both stores have is read. -/
lemma agrees_systemKeyForRead (h : w.Twins p policy m n w') {q : KeyMeta}
    (hq : SystemHeld m n q w.environment.store w'.environment.store) :
    (kinship p policy m n).Agrees (systemKeyForRead ⟨p, policy, .master m⟩ q)
      (systemKeyForRead ⟨p, policy, .master n⟩ q) w w' fun x y s s' =>
        KeysAlike (s.systemKey m q) (s'.systemKey n q) x.key y.key := by
  unfold systemKeyForRead
  refine (agrees_systemKey h hq false).bind fun l l' v v' hl hafter => ?_
  cases hl with
  | found x y keys =>
    dsimp only
    split
    · exact agrees_noticeExpired hafter.twins keys.created .system q.keyId fun hafter =>
        keys.mono hafter.left.systemKey hafter.right.systemKey
    · exact agrees_pure hafter.twins keys
  | unusable => exact agrees_throw hafter.twins _
  | notFound => exact agrees_throw hafter.twins _

end Engine

end Envelope
