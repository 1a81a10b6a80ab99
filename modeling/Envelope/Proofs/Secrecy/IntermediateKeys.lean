import Envelope.Proofs.Secrecy.SystemKeys

/-!
Intermediate keys in two workspaces that differ in their secrets.

An intermediate record opens through the system key it points to, and that key is the same in both
workspaces but for its secret. So what was said of system keys holds one tier below.
-/

namespace Envelope

open Envelope.Action Kinship

/-- Both stores have an intermediate key for the pointer. -/
abbrev IntermediateHeld (m n : Key) (q : KeyMeta) (s s' : Store) : Prop :=
  (∃ k, s.intermediateKey m q = .ok k) ∧ ∃ k, s'.intermediateKey n q = .ok k

section

variable {m n : Key} {q : KeyMeta} {s s' t t' : Store} {id : String} {r r' : KeyRecord}

lemma IntermediateHeld.mono (h : IntermediateHeld m n q s s') (hs : s.Extends t)
    (hs' : s'.Extends t') : IntermediateHeld m n q t t' := by
  obtain ⟨⟨k, hk⟩, k', hk'⟩ := h
  exact ⟨⟨k, hs.intermediateKey hk⟩, k', hs'.intermediateKey hk'⟩

/-- The parent of a record that opens is held, and the record opens with it. -/
lemma opens_of_intermediateKey {k : Key} {created : Stamp}
    (hk : s.intermediateKey m ⟨id, created⟩ = .ok k) (hl : s.load? id created.time = some r)
    (hq : r.parent = some q) : ∃ outer, s.systemKey m q = .ok outer ∧ r.openWith outer = .ok k := by
  obtain ⟨r₀, parent, outer, hl₀, hp, ho, hopen⟩ := Store.intermediateKey_eq_ok hk
  cases hl.symm.trans hl₀
  cases hq.symm.trans hp
  exact ⟨outer, ho, hopen⟩

lemma IntermediateHeld.parent (h : IntermediateHeld m n ⟨id, r.created⟩ s s')
    (hr : RecordsAlike id s s' r r') (hq : r.parent = some q) : SystemHeld m n q s s' := by
  obtain ⟨⟨k, hk⟩, k', hk'⟩ := h
  obtain ⟨outer, ho, -⟩ := opens_of_intermediateKey hk hr.left hq
  obtain ⟨outer', ho', -⟩ := opens_of_intermediateKey hk' (hr.created ▸ hr.right)
    (hr.parent ▸ hq)
  exact ⟨⟨outer, ho⟩, outer', ho'⟩

end

namespace Engine

open Workspace

variable {p : Partition} {policy : Policy} {m n : Key} {e e' : Environment} {w w' : Workspace}
  {id : String} {r r' : KeyRecord}

/-! ### Opening -/

/-- Intermediate records that are alike open to the keys that are looked up. -/
lemma agrees_openIntermediate {q : KeyMeta} {x y : Key} (h : e.Twins m n e')
    (hr : RecordsAlike id e.store e'.store r r')
    (hheld : IntermediateHeld m n ⟨id, r.created⟩ e.store e'.store) (hq : r.parent = some q)
    (hkeys : KeysAlike (e.store.systemKey m q) (e'.store.systemKey n q) x y) :
    (Environment.kinship m n).Agrees (openIntermediateRecord r x) (openIntermediateRecord r' y)
      e e' fun k k' s s' => k.created = r.created ∧ KeysFound
        (s.intermediateKey m ⟨id, r.created⟩) (s'.intermediateKey n ⟨id, r.created⟩) k k' := by
  obtain ⟨⟨k, hlook⟩, k', hlook'⟩ := hheld
  obtain ⟨outer, ho, hk⟩ := opens_of_intermediateKey hlook hr.left hq
  obtain ⟨outer', ho', hk'⟩ := opens_of_intermediateKey hlook' (hr.created ▸ hr.right)
    (hr.parent ▸ hq)
  obtain ⟨-, ⟨x₀, hx₀, hx⟩, y₀, hy₀, hy⟩ := hkeys
  cases ho.symm.trans hx₀
  cases ho'.symm.trans hy₀
  obtain ⟨-, -, -, hc, hrev⟩ := KeyRecord.openWith_eq_ok hk
  obtain ⟨-, -, -, hc', hrev'⟩ := KeyRecord.openWith_eq_ok hk'
  rw [KeyRecord.openWith_congr hx.1] at hk
  rw [KeyRecord.openWith_congr hy.1] at hk'
  refine (agrees_openIntermediateRecord h hk hk').mono fun z z' s s' hz hafter => ?_
  obtain ⟨rfl, rfl⟩ := hz
  refine ⟨hc, Key.outline_eq_iff.2 ⟨?_, ?_⟩, hafter.left.intermediateKey hlook,
    hafter.right.intermediateKey hlook'⟩
  · rw [hc, hc', hr.created]
  · rw [hrev, hrev', hr.isRevoked]

/-- Intermediate records that are alike open through the system key that they point to. -/
lemma agrees_openThrough {q : KeyMeta} (h : w.Twins p policy m n w')
    (hr : RecordsAlike id w.environment.store w'.environment.store r r')
    (hheld : IntermediateHeld m n ⟨id, r.created⟩ w.environment.store w'.environment.store)
    (hq : r.parent = some q) :
    (kinship p policy m n).Agrees (do
      let systemKey ← systemKeyForRead ⟨p, policy, .master m⟩ q
      liftM (openIntermediateRecord r systemKey.key) : Work Key) (do
      let systemKey ← systemKeyForRead ⟨p, policy, .master n⟩ q
      liftM (openIntermediateRecord r' systemKey.key) : Work Key) w w' fun k k' s s' =>
        k.created = r.created ∧ KeysFound (s.intermediateKey m ⟨id, r.created⟩)
          (s'.intermediateKey n ⟨id, r.created⟩) k k' :=
  (agrees_systemKeyForRead h (hheld.parent hr hq)).bind fun _ _ _ _ hkeys hafter =>
    agrees_lift hafter.twins (agrees_openIntermediate hafter.twins.environment
      (hr.mono hafter.left hafter.right) (hheld.mono hafter.left hafter.right) hq hkeys)

/-- The keys are those of the partition under their own times. -/
abbrev IntermediateFound (p : Partition) (m n : Key) (k k' : Key) (s s' : Store) : Prop :=
  KeysFound (s.intermediateKey m ⟨p.intermediateKeyId, k.created⟩)
    (s'.intermediateKey n ⟨p.intermediateKeyId, k'.created⟩) k k'

/-- Intermediate keys of the partition that are alike, as they are held. -/
abbrev IntermediateAlike (p : Partition) (m n : Key) (x y : KeyHandle) (s s' : Store) : Prop :=
  KeysAlike (s.intermediateKey m ⟨p.intermediateKeyId, x.key.created⟩)
    (s'.intermediateKey n ⟨p.intermediateKeyId, y.key.created⟩) x.key y.key

lemma intermediateFound_of_created {k k' : Key} {created : Stamp} {s s' : Store}
    (hc : k.created = created) (hk : KeysFound (s.intermediateKey m ⟨p.intermediateKeyId, created⟩)
      (s'.intermediateKey n ⟨p.intermediateKeyId, created⟩) k k') :
    IntermediateFound p m n k k' s s' := by
  unfold IntermediateFound
  rw [← hk.created, hc]
  exact hk

/-- The records of a partition open in sound stores. -/
lemma intermediateHeld_own (h : e.Twins m n e')
    (hr : RecordsAlike p.intermediateKeyId e.store e'.store r r') :
    IntermediateHeld m n ⟨p.intermediateKeyId, r.created⟩ e.store e'.store := by
  obtain ⟨-, -, k, -, -, -, -, hk⟩ :=
    h.left.intermediateKey p.isIntermediateId_intermediateKeyId hr.left
  obtain ⟨-, -, k', -, -, -, -, hk'⟩ :=
    h.right.intermediateKey p.isIntermediateId_intermediateKeyId hr.right
  exact ⟨⟨k, hk⟩, k', hr.created ▸ hk'⟩

/-! ### The intermediate key of a write -/

lemma agrees_reloadIntermediateKey (h : w.Twins p policy m n w') :
    (kinship p policy m n).Agrees (reloadIntermediateKey ⟨p, policy, .master m⟩)
      (reloadIntermediateKey ⟨p, policy, .master n⟩) w w' (IntermediateFound p m n) := by
  unfold reloadIntermediateKey
  dsimp only
  refine (agrees_lift h (Effect.agrees_latestRecord h.environment _)).bind
    fun found found' v v' hfound hafter => ?_
  cases hfound with
  | none => exact agrees_throw hafter.twins _
  | some r r' records =>
    dsimp only
    rw [← records.parent]
    cases hq : r.parent with
    | none => exact agrees_throw hafter.twins _
    | some q =>
      exact (agrees_openThrough hafter.twins records
        (intermediateHeld_own hafter.twins.environment records) hq).mono
        fun _ _ _ _ hk _ => intermediateFound_of_created hk.1 hk.2

/-- A fresh key, wrapped under a system key of the store, may be stored. -/
lemma admits_intermediate {s : Store} {key outer k₀ : Key} {wrapped : Bytes}
    (hrevoked : key.revoked = false) (hw : outer.decrypt wrapped = .ok key.secret)
    (ho : s.systemKey m ⟨p.systemKeyId, outer.created⟩ = .ok k₀) (hp : outer.Persists k₀) :
    (KeyRecord.intermediate key.created wrapped (some false)
        ⟨p.systemKeyId, outer.created⟩).openWith k₀ = .ok key ∧
      s.Admits m p.intermediateKeyId (.intermediate key.created wrapped (some false)
        ⟨p.systemKeyId, outer.created⟩) := by
  have hopen := KeyRecord.openWith_of_decrypt (KeyRecord.keyBytes_intermediate key.created wrapped
    (some false) ⟨p.systemKeyId, outer.created⟩) hw rfl hrevoked.symm
  rw [KeyRecord.openWith_congr hp.1.symm] at hopen
  exact ⟨hopen, .intermediate _ k₀ key p.isIntermediateId_intermediateKeyId rfl
    p.isSystemId_systemKeyId ho hopen⟩

lemma agrees_createIntermediateKey (h : w.Twins p policy m n w') :
    (kinship p policy m n).Agrees (createIntermediateKey ⟨p, policy, .master m⟩)
      (createIntermediateKey ⟨p, policy, .master n⟩) w w' (IntermediateFound p m n) := by
  unfold createIntermediateKey
  dsimp only
  refine (agrees_lift h (Effect.agrees_now h.environment)).bind fun now _ v v' heq hafter => ?_
  subst heq
  refine (agrees_lift hafter.twins (Effect.agrees_generateKey hafter.twins.environment _)).bind
    fun key key' v v' hkeys hafter => ?_
  obtain ⟨⟨hc, hrev⟩, hc', hrev'⟩ := hkeys
  have hcreated : key.created = key'.created := hc.trans hc'.symm
  refine (agrees_systemKeyForWrite hafter.twins).bind fun x y v v' hxy hafter => ?_
  refine (agrees_lift hafter.twins (Effect.agrees_wrap hafter.twins.environment _ _ _ _)).bind
    fun wrapped wrapped' v v' hwraps hafter => ?_
  obtain ⟨houtline, ⟨x₀, hx₀, hx⟩, y₀, hy₀, hy⟩ :=
    hxy.mono hafter.left.systemKey hafter.right.systemKey
  obtain ⟨hopen, hadmits⟩ := admits_intermediate hrev hwraps.1 hx₀ hx
  obtain ⟨hopen', hadmits'⟩ := admits_intermediate hrev' hwraps.2 hy₀ hy
  have hpointer : x.key.created = y.key.created := (Key.outline_eq_iff.1 houtline).1
  have hrecord : (KeyRecord.intermediate key.created wrapped (some false)
        ⟨p.systemKeyId, x.key.created⟩).outline =
      (KeyRecord.intermediate key'.created wrapped' (some false)
        ⟨p.systemKeyId, y.key.created⟩).outline :=
    KeyRecord.outline_eq_iff.2
      ⟨hcreated, rfl, congrArg (fun t => some (KeyMeta.mk p.systemKeyId t)) hpointer⟩
  refine (agrees_lift hafter.twins (Effect.agrees_insertRecord hafter.twins.environment hrecord
    hadmits hadmits')).bind fun b b' v v' hinserts hafter => ?_
  obtain ⟨rfl, hwon⟩ := hinserts
  cases b with
  | true =>
    have hrecords := hwon rfl
    rw [if_pos rfl, if_pos rfl, ← hcreated]
    refine (agrees_lift hafter.twins (Effect.agrees_emit hafter.twins.environment _)).bind
      fun _ _ t t' _ hafter' => ?_
    have hl := hafter'.left.load hrecords.left
    have hl' := hafter'.right.load hrecords.right
    refine agrees_pure hafter'.twins
      ⟨Key.outline_eq_iff.2 ⟨hcreated, hrev.trans hrev'.symm⟩, ?_, ?_⟩
    · exact (Store.intermediateKey_of_load? hl rfl
        (hafter'.left.systemKey (hafter.left.systemKey hx₀))).trans hopen
    · exact (Store.intermediateKey_of_load? hl' rfl
        (hafter'.right.systemKey (hafter.right.systemKey hy₀))).trans hopen'
  | false =>
    rw [if_neg Bool.false_ne_true, if_neg Bool.false_ne_true]
    exact (agrees_lift hafter.twins (Effect.agrees_emit hafter.twins.environment _)).bind
      fun _ _ _ _ _ hafter => agrees_reloadIntermediateKey hafter.twins

lemma agrees_latestOrNewIntermediateKey (h : w.Twins p policy m n w') :
    (kinship p policy m n).Agrees (latestOrNewIntermediateKey ⟨p, policy, .master m⟩)
      (latestOrNewIntermediateKey ⟨p, policy, .master n⟩) w w' (IntermediateFound p m n) := by
  have create : ∀ {v v'} (event : Event), v.Twins p policy m n v' →
      (kinship p policy m n).Agrees (do
        liftM (Effect.emit event)
        createIntermediateKey ⟨p, policy, .master m⟩ : Work Key) (do
        liftM (Effect.emit event)
        createIntermediateKey ⟨p, policy, .master n⟩ : Work Key) v v' (IntermediateFound p m n) :=
    fun event h => (agrees_lift h (Effect.agrees_emit h.environment event)).bind
      fun _ _ _ _ _ hafter => agrees_createIntermediateKey hafter.twins
  unfold latestOrNewIntermediateKey
  dsimp only
  refine (agrees_lift h (Effect.agrees_latestRecord h.environment _)).bind
    fun found found' v v' hfound hafter => ?_
  cases hfound with
  | none => exact agrees_createIntermediateKey hafter.twins
  | some r r' records =>
    dsimp only
    rw [← records.created, ← records.isRevoked, ← records.parent]
    refine (agrees_lift hafter.twins (agrees_isUsable hafter.twins.environment _ _ _)).bind
      fun b _ v v' heq hafter => ?_
    subst heq
    replace records := records.mono hafter.left hafter.right
    split
    · cases hq : r.parent with
      | none => exact create _ hafter.twins
      | some q =>
        have hheld := intermediateHeld_own hafter.twins.environment records
        refine (agrees_systemKey hafter.twins (hheld.parent records hq) true).bind
          fun l l' v v' hl hafter => ?_
        cases hl with
        | found x y keys =>
          exact (agrees_lift hafter.twins (agrees_openIntermediate hafter.twins.environment
            (records.mono hafter.left hafter.right) (hheld.mono hafter.left hafter.right) hq
            keys)).mono fun _ _ _ _ hk _ => intermediateFound_of_created hk.1 hk.2
        | unusable => exact create _ hafter.twins
        | notFound => exact create _ hafter.twins
    · exact agrees_createIntermediateKey hafter.twins

lemma agrees_retainIntermediateKey {k k' : Key} (h : w.Twins p policy m n w')
    (hk : IntermediateFound p m n k k' w.environment.store w'.environment.store) :
    (kinship p policy m n).Agrees (retainIntermediateKey ⟨p, policy, .master m⟩ k)
      (retainIntermediateKey ⟨p, policy, .master n⟩ k') w w'
      fun x y _ _ => x.key = k ∧ y.key = k' := by
  unfold retainIntermediateKey
  dsimp only
  split
  · obtain ⟨⟨hx, hm⟩, ⟨hy, hm'⟩, houtline⟩ := KeyCache.put_alike h.intermediateKeys
      h.left.intermediateKeys h.right.intermediateKeys hk
      (congrArg Clock.elapsed h.environment.clock)
    refine ⟨⟨hx, hy⟩, ⟨h.environment, h.systemKeys, houtline, ?_, ?_⟩, .refl _, .refl _⟩
    · exact ⟨h.left.systemKeys, hm, h.left.systemCheck,
        (KeyCache.revokeCheck_put _).trans h.left.intermediateCheck⟩
    · exact ⟨h.right.systemKeys, hm', h.right.systemCheck,
        (KeyCache.revokeCheck_put _).trans h.right.intermediateCheck⟩
  · exact agrees_pure h ⟨rfl, rfl⟩

lemma agrees_intermediateKeyForWrite (h : w.Twins p policy m n w') :
    (kinship p policy m n).Agrees (intermediateKeyForWrite ⟨p, policy, .master m⟩)
      (intermediateKeyForWrite ⟨p, policy, .master n⟩) w w' (IntermediateAlike p m n) := by
  have resolve : ∀ {v v'}, v.Twins p policy m n v' → (kinship p policy m n).Agrees (do
      let key ← latestOrNewIntermediateKey ⟨p, policy, .master m⟩
      retainIntermediateKey ⟨p, policy, .master m⟩ key : Work KeyHandle) (do
      let key ← latestOrNewIntermediateKey ⟨p, policy, .master n⟩
      retainIntermediateKey ⟨p, policy, .master n⟩ key : Work KeyHandle) v v'
      (IntermediateAlike p m n) := by
    intro v v' h
    refine (agrees_latestOrNewIntermediateKey h).bind fun k k' u u' hk hafter => ?_
    refine (agrees_retainIntermediateKey hafter.twins hk).mono fun x y s s' hxy hafter => ?_
    obtain ⟨rfl, rfl⟩ := hxy
    exact hk.alike.mono hafter.left.intermediateKey hafter.right.intermediateKey
  unfold intermediateKeyForWrite
  dsimp only
  split
  · refine (agrees_latestIntermediateKey? h).bind fun found found' v v' hfound hafter => ?_
    cases hfound with
    | none => exact resolve hafter.twins
    | some k k' keys =>
      dsimp only
      rw [← keys.created, ← keys.revoked]
      refine (agrees_lift hafter.twins (agrees_isUsable hafter.twins.environment _ _ _)).bind
        fun b _ v v' heq hafter => ?_
      subst heq
      split
      · exact agrees_pure hafter.twins
          (keys.mono hafter.left.intermediateKey hafter.right.intermediateKey)
      · exact resolve hafter.twins
  · exact resolve h

/-! ### The intermediate key of a read -/

lemma agrees_loadIntermediateKey (h : w.Twins p policy m n w') {q : KeyMeta}
    (hq : IntermediateHeld m n q w.environment.store w'.environment.store) :
    (kinship p policy m n).Agrees (loadIntermediateKey ⟨p, policy, .master m⟩ q)
      (loadIntermediateKey ⟨p, policy, .master n⟩ q) w w' fun k k' s s' =>
        k.created = q.created ∧
          KeysFound (s.intermediateKey m q) (s'.intermediateKey n q) k k' := by
  unfold loadIntermediateKey
  refine (agrees_lift h (Effect.agrees_loadRecord h.environment q)).bind
    fun found found' v v' hfound hafter => ?_
  obtain ⟨hfound, hcreated⟩ := hfound
  replace hq := hq.mono hafter.left hafter.right
  cases hfound with
  | none => exact agrees_throw hafter.twins _
  | some r r' records =>
    obtain ⟨id, created⟩ := q
    obtain rfl : r.created = created := hcreated r rfl
    dsimp only
    rw [← records.parent]
    cases hparent : r.parent with
    | none => exact agrees_throw hafter.twins _
    | some parent => exact agrees_openThrough hafter.twins records hq hparent

/-- An intermediate key that both stores have is read. -/
lemma agrees_intermediateKeyForRead (h : w.Twins p policy m n w') {q : KeyMeta}
    (hq : IntermediateHeld m n q w.environment.store w'.environment.store) :
    (kinship p policy m n).Agrees (intermediateKeyForRead ⟨p, policy, .master m⟩ q)
      (intermediateKeyForRead ⟨p, policy, .master n⟩ q) w w' fun x y s s' =>
        KeysAlike (s.intermediateKey m q) (s'.intermediateKey n q) x.key y.key := by
  unfold intermediateKeyForRead
  refine Agrees.bind (P := fun x y s s' =>
    KeysAlike (s.intermediateKey m q) (s'.intermediateKey n q) x.key y.key) ?_
    fun x y v v' keys hafter => ?_
  · by_cases hcache : cachesIntermediateKey ⟨p, policy, .master m⟩ q = true
    · rw [if_pos hcache,
        if_pos (show cachesIntermediateKey ⟨p, policy, .master n⟩ q = true from hcache)]
      obtain ⟨id, created⟩ := q
      obtain rfl : id = p.intermediateKeyId := keyId_of_cachesIntermediateKey hcache
      refine (agrees_cachedIntermediateKey? h created).bind
        fun found found' v v' hfound hafter => ?_
      obtain ⟨hfound, hcreated⟩ := hfound
      cases hfound with
      | none =>
        refine (agrees_loadIntermediateKey hafter.twins (hq.mono hafter.left hafter.right)).bind
          fun k k' u u' hk hafter => ?_
        obtain ⟨hc, hk⟩ := hk
        refine (agrees_retainIntermediateKey hafter.twins
          (intermediateFound_of_created hc hk)).mono fun x y s s' hxy hafter => ?_
        obtain ⟨rfl, rfl⟩ := hxy
        exact hk.alike.mono hafter.left.intermediateKey hafter.right.intermediateKey
      | some k k' keys =>
        obtain rfl : k.created = created := hcreated k rfl
        rw [← keys.created] at keys
        exact agrees_pure hafter.twins keys
    · rw [if_neg hcache,
        if_neg (show ¬ cachesIntermediateKey ⟨p, policy, .master n⟩ q = true from hcache)]
      exact (agrees_loadIntermediateKey h hq).bind fun _ _ _ _ hk hafter =>
        agrees_pure hafter.twins hk.2.alike
  · dsimp only
    split
    · exact agrees_noticeExpired hafter.twins keys.created .intermediate q.keyId fun hafter =>
        keys.mono hafter.left.intermediateKey hafter.right.intermediateKey
    · exact agrees_pure hafter.twins keys

end Engine

end Envelope
