import Envelope.Partition
import Envelope.Proofs.KeyRecord

/-!
Stores of key records.

A store is sound for a master key if every record stands under its own creation time and opens: a
system record under the master key, an intermediate record under the system record it points to.
Engines only add records and a revocation only marks one, so a store grows, and a key that opens
once opens for ever.
-/

namespace Envelope

/-! ### Key ids -/

/-- An id of system keys. -/
def IsSystemId (id : String) : Prop := "_SK_".toList <+: id.toList

/-- An id of intermediate keys. -/
def IsIntermediateId (id : String) : Prop := "_IK_".toList <+: id.toList

lemma IsIntermediateId.not_isSystemId {id : String} (h : IsIntermediateId id) :
    ¬ IsSystemId id := by
  intro h'
  obtain ⟨a, ha⟩ := h
  obtain ⟨b, hb⟩ := h'
  have := congrArg (List.take 4) (ha.trans hb.symm)
  simp at this

lemma IsSystemId.ne {id id' : String} (h : IsSystemId id) (h' : IsIntermediateId id') :
    id ≠ id' := by
  rintro rfl
  exact h'.not_isSystemId h

namespace Partition

variable (p : Partition)

lemma toList_suffixed (id : String) : id.toList <+: (p.suffixed id).toList := by
  unfold suffixed
  split
  · simp only [String.toList_append, List.append_assoc]
    exact List.prefix_append _ _
  · exact List.prefix_refl _

lemma isSystemId_systemKeyId : IsSystemId p.systemKeyId := by
  refine List.IsPrefix.trans ?_ (p.toList_suffixed _)
  simp only [String.toList_append, List.append_assoc]
  exact List.prefix_append _ _

lemma isIntermediateId_baseKeyId : IsIntermediateId p.baseKeyId := by
  unfold IsIntermediateId baseKeyId
  simp only [String.toList_append, List.append_assoc]
  exact List.prefix_append _ _

lemma isIntermediateId_intermediateKeyId : IsIntermediateId p.intermediateKeyId :=
  p.isIntermediateId_baseKeyId.trans (p.toList_suffixed _)

end Partition

namespace Store

variable {s s' s'' : Store} {m : Key}

/-! ### Operations -/

lemma latest?_eq_some {id : String} {r : KeyRecord} (h : s.latest? id = some r) :
    ∃ t, s.load? id t = some r ∧ ∀ u r', s.load? id u = some r' → u ≤ t := by
  unfold latest? Timeline.latestValue? at h
  obtain ⟨⟨t, r'⟩, ht, rfl⟩ := Option.map_eq_some_iff.1 h
  exact ⟨t, Timeline.latest?_eq_some_iff.1 ht⟩

lemma latest?_eq_none {id : String} (h : s.latest? id = none) (t : Time) :
    s.load? id t = none :=
  Timeline.latest?_eq_none_iff.1 (Option.map_eq_none_iff.1 h) t

lemma exists_latest? {id : String} {t : Time} {r : KeyRecord} (h : s.load? id t = some r) :
    ∃ r', s.latest? id = some r' := by
  cases hl : s.latest? id with
  | some r' => exact ⟨r', rfl⟩
  | none => exact absurd h (by simp [latest?_eq_none hl t])

lemma revoke_fst (id : String) (t : Time) : (s.revoke id t).1 = (s.load? id t).isSome := by
  unfold revoke
  split
  · next h => exact h.symm
  · next h => exact (Bool.not_eq_true _ ▸ h).symm

lemma insertEntry_of_lookup {α : Type} {t : Time} {a b : α} {es : List (Time × α)}
    (hs : es.Pairwise (·.1 < ·.1)) (h : Timeline.lookup t es = some b) :
    Timeline.insertEntry t a es = es := by
  induction es with
  | nil => cases h
  | cons e rest ih =>
    obtain ⟨u, c⟩ := e
    obtain ⟨hu, hrest⟩ := List.pairwise_cons.1 hs
    unfold Timeline.insertEntry
    unfold Timeline.lookup at h
    by_cases he : t = u
    · subst he
      rw [if_neg (show ¬ t < t from Int.lt_irrefl _), if_pos rfl]
    · rw [if_neg he] at h
      have hlt : u.nanos < t.nanos := hu (t, b) ((Timeline.lookup_eq_some_iff hrest).1 h)
      rw [if_neg (show ¬ t < u from Int.not_lt.2 (Int.le_of_lt hlt)), if_neg he, ih hrest h]

lemma setSeries_of_lookup {id : String} {l : Timeline KeyRecord}
    {series : List (String × Timeline KeyRecord)} (h : series.lookup id = some l) :
    setSeries id l series = series := by
  induction series with
  | nil => cases h
  | cons e rest ih =>
    obtain ⟨k, m⟩ := e
    unfold setSeries
    by_cases hk : id = k
    · subst hk
      have : m = l := by simpa using h
      rw [if_pos rfl, this]
    · have hb : (id == k) = false := by simpa using hk
      rw [List.lookup_cons, hb] at h
      rw [if_neg hk, ih h]

/-- An insert where a record is changes nothing. -/
lemma insert_of_load? {id : String} {t : Time} {r r' : KeyRecord} (h : s.load? id t = some r) :
    (s.insert id t r').2 = s := by
  have hl : (s.timeline id).insertIfNew t r' = s.timeline id := by
    unfold Timeline.insertIfNew
    simp only [insertEntry_of_lookup (s.timeline id).sorted h]
  unfold insert
  rw [hl]
  unfold load? timeline at h
  cases hs : s.series.lookup id with
  | none =>
    rw [hs] at h
    cases h
  | some l =>
    show s.setTimeline id ((s.series.lookup id).getD ∅) = s
    rw [hs, setTimeline, Option.getD_some, setSeries_of_lookup hs]

lemma load?_insert_self {id : String} {t : Time} (h : s.load? id t = none) (r : KeyRecord) :
    (s.insert id t r).2.load? id t = some r := by
  rw [load?_insert, if_pos ⟨rfl, rfl⟩, h, Option.getD_none]

lemma load?_insert_of_ne {id : String} {t : Time} (r : KeyRecord) {id' : String} {u : Time}
    (h : ¬ (id' = id ∧ u = t)) : (s.insert id t r).2.load? id' u = s.load? id' u := by
  rw [load?_insert, if_neg h]

/-- A record of a store that has been added to is an old one or the new one. -/
lemma load?_of_insert {id : String} {t : Time} {r : KeyRecord} {id' : String} {u : Time}
    {r' : KeyRecord} (h : (s.insert id t r).2.load? id' u = some r') :
    s.load? id' u = some r' ∨ id' = id ∧ u = t ∧ r' = r ∧ s.load? id t = none := by
  by_cases he : id' = id ∧ u = t
  · obtain ⟨rfl, rfl⟩ := he
    cases hl : s.load? id' u with
    | some r'' =>
      rw [insert_of_load? hl, hl] at h
      exact Or.inl h
    | none =>
      rw [load?_insert_self hl] at h
      exact Or.inr ⟨rfl, rfl, (Option.some.inj h).symm, rfl⟩
  · rw [load?_insert_of_ne r he] at h
    exact Or.inl h

/-! ### Growth -/

/-- The second store has all records of the first as they are, and maybe more. -/
structure Extends (s s' : Store) : Prop where
  suffix : s'.suffix = s.suffix
  load : ∀ {id t r}, s.load? id t = some r → s'.load? id t = some r

/-- The second store has all records of the first, some of them revoked since, and maybe more. -/
structure Grows (s s' : Store) : Prop where
  suffix : s'.suffix = s.suffix
  load : ∀ {id t r}, s.load? id t = some r → ∃ r', s'.load? id t = some r' ∧ r.Persists r'

lemma Extends.refl (s : Store) : s.Extends s := ⟨rfl, id⟩

lemma Extends.trans (h : s.Extends s') (h' : s'.Extends s'') : s.Extends s'' :=
  ⟨h'.suffix.trans h.suffix, fun hl => h'.load (h.load hl)⟩

lemma Extends.grows (h : s.Extends s') : s.Grows s' :=
  ⟨h.suffix, fun hl => ⟨_, h.load hl, .refl _⟩⟩

lemma Grows.refl (s : Store) : s.Grows s := (Extends.refl s).grows

lemma Grows.trans (h : s.Grows s') (h' : s'.Grows s'') : s.Grows s'' := by
  refine ⟨h'.suffix.trans h.suffix, fun hl => ?_⟩
  obtain ⟨r', hl', hr⟩ := h.load hl
  obtain ⟨r'', hl'', hr'⟩ := h'.load hl'
  exact ⟨r'', hl'', hr.trans hr'⟩

lemma extends_insert (s : Store) (id : String) (t : Time) (r : KeyRecord) :
    s.Extends (s.insert id t r).2 := by
  refine ⟨rfl, fun {id' u r'} hl => ?_⟩
  by_cases he : id' = id ∧ u = t
  · obtain ⟨rfl, rfl⟩ := he
    rwa [insert_of_load? hl]
  · rwa [load?_insert_of_ne r he]

lemma grows_revoke (s : Store) (id : String) (t : Time) : s.Grows (s.revoke id t).2 := by
  refine ⟨?_, fun {id' u r} hl => ?_⟩
  · unfold revoke
    split <;> rfl
  · rw [load?_revoke, hl]
    split
    · exact ⟨_, rfl, Or.inr rfl⟩
    · exact ⟨r, rfl, .refl r⟩

/-- A record of a store in which one has been revoked is an old one, revoked or not. -/
lemma load?_of_revoke {id : String} {t : Time} {id' : String} {u : Time} {r' : KeyRecord}
    (hl : (s.revoke id t).2.load? id' u = some r') :
    ∃ r, s.load? id' u = some r ∧ r.Persists r' := by
  rw [load?_revoke] at hl
  split at hl
  · obtain ⟨r, hr, rfl⟩ := Option.map_eq_some_iff.1 hl
    exact ⟨r, hr, Or.inr rfl⟩
  · exact ⟨r', hl, .refl r'⟩

/-! ### Keys -/

/-- The system key that a pointer names, read from its record. -/
def systemKey (s : Store) (m : Key) (p : KeyMeta) : Except Error Key :=
  match s.load? p.keyId p.created.time with
  | none => .error (.metadataMissing (.systemKey p))
  | some r => r.openWith m

/-- The intermediate key that a pointer names, read from its record and the record it points
to. -/
def intermediateKey (s : Store) (m : Key) (p : KeyMeta) : Except Error Key :=
  match s.load? p.keyId p.created.time with
  | none => .error (.metadataMissing (.intermediateKey p))
  | some r =>
    match r.parent with
    | none => .error (.metadataMissing (.parentOf p))
    | some parent => do r.openWith (← s.systemKey m parent)

lemma systemKey_of_load? {p : KeyMeta} {r : KeyRecord}
    (h : s.load? p.keyId p.created.time = some r) : s.systemKey m p = r.openWith m := by
  unfold systemKey
  rw [h]

lemma intermediateKey_of_load? {p parent : KeyMeta} {r : KeyRecord} {outer : Key}
    (h : s.load? p.keyId p.created.time = some r) (hp : r.parent = some parent)
    (ho : s.systemKey m parent = .ok outer) : s.intermediateKey m p = r.openWith outer := by
  simp only [intermediateKey, h, hp, ho]
  rfl

lemma systemKey_eq_ok {p : KeyMeta} {k : Key} (h : s.systemKey m p = .ok k) :
    ∃ r, s.load? p.keyId p.created.time = some r ∧ r.openWith m = .ok k := by
  unfold systemKey at h
  split at h
  · cases h
  · next r hr => exact ⟨r, hr, h⟩

lemma intermediateKey_eq_ok {p : KeyMeta} {k : Key} (h : s.intermediateKey m p = .ok k) :
    ∃ r parent outer, s.load? p.keyId p.created.time = some r ∧ r.parent = some parent ∧
      s.systemKey m parent = .ok outer ∧ r.openWith outer = .ok k := by
  unfold intermediateKey at h
  split at h
  · cases h
  · next r hr =>
    split at h
    · cases h
    · next parent hp =>
      obtain ⟨outer, ho, h⟩ := Except.bind_eq_ok_iff.1 h
      exact ⟨r, parent, outer, hr, hp, ho, h⟩

/-- A system key is known to be revoked just if its record is. -/
lemma revoked_of_systemKey {id : String} {created : Stamp} {k : Key} {r : KeyRecord}
    (hk : s.systemKey m ⟨id, created⟩ = .ok k) (hl : s.load? id created.time = some r) :
    k.revoked = r.isRevoked := by
  obtain ⟨r', hl', ho⟩ := systemKey_eq_ok hk
  cases hl.symm.trans hl'
  obtain ⟨-, -, -, -, hrevoked⟩ := KeyRecord.openWith_eq_ok ho
  exact hrevoked

/-- An intermediate key is known to be revoked just if its record is. -/
lemma revoked_of_intermediateKey {id : String} {created : Stamp} {k : Key} {r : KeyRecord}
    (hk : s.intermediateKey m ⟨id, created⟩ = .ok k) (hl : s.load? id created.time = some r) :
    k.revoked = r.isRevoked := by
  obtain ⟨r', _, _, hl', _, _, ho⟩ := intermediateKey_eq_ok hk
  cases hl.symm.trans hl'
  obtain ⟨-, -, -, -, hrevoked⟩ := KeyRecord.openWith_eq_ok ho
  exact hrevoked

/-- **A system key that opens once opens for ever.** -/
theorem Grows.systemKey (h : s.Grows s') {p : KeyMeta} {k : Key} (hk : s.systemKey m p = .ok k) :
    ∃ k', s'.systemKey m p = .ok k' ∧ k.Persists k' := by
  obtain ⟨r, hl, ho⟩ := systemKey_eq_ok hk
  obtain ⟨r', hl', hr⟩ := h.load hl
  rw [systemKey_of_load? hl']
  exact hr.openWith (.refl m) ho

/-- **An intermediate key that opens once opens for ever.** -/
theorem Grows.intermediateKey (h : s.Grows s') {p : KeyMeta} {k : Key}
    (hk : s.intermediateKey m p = .ok k) :
    ∃ k', s'.intermediateKey m p = .ok k' ∧ k.Persists k' := by
  obtain ⟨r, parent, outer, hl, hp, ho, hr⟩ := intermediateKey_eq_ok hk
  obtain ⟨r', hl', hr'⟩ := h.load hl
  obtain ⟨outer', ho', houter⟩ := h.systemKey ho
  rw [intermediateKey_of_load? hl' (hr'.parent.trans hp) ho']
  exact hr'.openWith houter hr

lemma Extends.systemKey (h : s.Extends s') {p : KeyMeta} {k : Key}
    (hk : s.systemKey m p = .ok k) : s'.systemKey m p = .ok k := by
  obtain ⟨r, hl, ho⟩ := systemKey_eq_ok hk
  rw [systemKey_of_load? (h.load hl), ho]

lemma Extends.intermediateKey (h : s.Extends s') {p : KeyMeta} {k : Key}
    (hk : s.intermediateKey m p = .ok k) : s'.intermediateKey m p = .ok k := by
  obtain ⟨r, parent, outer, hl, hp, ho, hr⟩ := intermediateKey_eq_ok hk
  rw [intermediateKey_of_load? (h.load hl) hp (h.systemKey ho), hr]

/-! ### Soundness -/

/-- Every record stands under its own creation time. -/
def Dated (s : Store) : Prop := ∀ id t r, s.load? id t = some r → r.created.time = t

/-- Every record opens under the master key, an intermediate one through its parent. -/
structure Sound (s : Store) (m : Key) : Prop where
  dated : s.Dated
  system : ∀ {id t r}, IsSystemId id → s.load? id t = some r →
    r.parent = none ∧ ∃ k, r.openWith m = .ok k
  intermediate : ∀ {id t r}, IsIntermediateId id → s.load? id t = some r →
    ∃ p outer k, r.parent = some p ∧ IsSystemId p.keyId ∧ s.systemKey m p = .ok outer ∧
      r.openWith outer = .ok k

lemma sound_empty (suffix : Option String) (m : Key) : (empty suffix).Sound m where
  dated _ _ _ h := nomatch h
  system _ h := nomatch h
  intermediate _ h := nomatch h

lemma Dated.load? (h : s.Dated) {id : String} {t : Time} {r : KeyRecord}
    (hl : s.load? id t = some r) : s.load? id r.created.time = some r := by
  rwa [h _ _ _ hl]

/-- The latest record stands under its own time, and no record of its id is newer. -/
lemma Dated.latest? (h : s.Dated) {id : String} {r : KeyRecord} (hl : s.latest? id = some r) :
    s.load? id r.created.time = some r ∧
      ∀ t r', s.load? id t = some r' → t ≤ r.created.time := by
  obtain ⟨t, ht, hmax⟩ := latest?_eq_some hl
  rw [h _ _ _ ht]
  exact ⟨ht, hmax⟩

/-- A time that is taken is no later than that of the latest record. -/
lemma Dated.le_of_taken (h : s.Dated) {id : String} {t : Time} {r : KeyRecord}
    (hl : s.latest? id = some r) (ht : (s.load? id t).isSome) : t ≤ r.created.time := by
  obtain ⟨r', hr'⟩ := Option.isSome_iff_exists.1 ht
  exact (h.latest? hl).2 t r' hr'

lemma Dated.created_of_intermediateKey (h : s.Dated) {p : KeyMeta} {k : Key}
    (hk : s.intermediateKey m p = .ok k) : k.created = p.created := by
  obtain ⟨r, _, _, hl, _, _, ho⟩ := intermediateKey_eq_ok hk
  obtain ⟨-, -, -, hkc, -⟩ := KeyRecord.openWith_eq_ok ho
  rw [hkc, Stamp.time_inj.1 (h _ _ _ hl)]

lemma Sound.systemKey (h : s.Sound m) {id : String} (hid : IsSystemId id) {r : KeyRecord}
    (hl : s.load? id r.created.time = some r) :
    ∃ k, r.openWith m = .ok k ∧ s.systemKey m ⟨id, r.created⟩ = .ok k := by
  obtain ⟨-, k, hk⟩ := h.system hid hl
  exact ⟨k, hk, (systemKey_of_load? hl).trans hk⟩

lemma Sound.intermediateKey (h : s.Sound m) {id : String} (hid : IsIntermediateId id)
    {r : KeyRecord} (hl : s.load? id r.created.time = some r) :
    ∃ parent outer k, r.parent = some parent ∧ IsSystemId parent.keyId ∧
      s.systemKey m parent = .ok outer ∧ r.openWith outer = .ok k ∧
      s.intermediateKey m ⟨id, r.created⟩ = .ok k := by
  obtain ⟨parent, outer, k, hp, hpid, ho, hk⟩ := h.intermediate hid hl
  exact ⟨parent, outer, k, hp, hpid, ho, hk, (intermediateKey_of_load? hl hp ho).trans hk⟩

/-- A system record that opens may be added. -/
lemma Sound.insert_system (h : s.Sound m) {id : String} {r : KeyRecord} {k : Key}
    (hid : IsSystemId id) (hp : r.parent = none) (hk : r.openWith m = .ok k) :
    (s.insert id r.created.time r).2.Sound m where
  dated _ _ _ hl := by
    rcases load?_of_insert hl with hl | ⟨-, rfl, rfl, -⟩
    · exact h.dated _ _ _ hl
    · rfl
  system hid' hl := by
    rcases load?_of_insert hl with hl | ⟨-, -, rfl, -⟩
    · exact h.system hid' hl
    · exact ⟨hp, k, hk⟩
  intermediate hid' hl := by
    rcases load?_of_insert hl with hl | ⟨rfl, -, -, -⟩
    · obtain ⟨p, outer, k', hp', hpid, ho, hk'⟩ := h.intermediate hid' hl
      exact ⟨p, outer, k', hp', hpid, (extends_insert s id _ r).systemKey ho, hk'⟩
    · exact absurd hid hid'.not_isSystemId

/-- An intermediate record that opens through its parent may be added. -/
lemma Sound.insert_intermediate (h : s.Sound m) {id : String} {r : KeyRecord} {p : KeyMeta}
    {outer k : Key} (hid : IsIntermediateId id) (hp : r.parent = some p)
    (hpid : IsSystemId p.keyId) (ho : s.systemKey m p = .ok outer)
    (hk : r.openWith outer = .ok k) : (s.insert id r.created.time r).2.Sound m where
  dated _ _ _ hl := by
    rcases load?_of_insert hl with hl | ⟨-, rfl, rfl, -⟩
    · exact h.dated _ _ _ hl
    · rfl
  system hid' hl := by
    rcases load?_of_insert hl with hl | ⟨rfl, -, -, -⟩
    · exact h.system hid' hl
    · exact absurd hid' hid.not_isSystemId
  intermediate hid' hl := by
    have hext := extends_insert s id r.created.time r
    rcases load?_of_insert hl with hl | ⟨-, -, rfl, -⟩
    · obtain ⟨p', outer', k', hp', hpid', ho', hk'⟩ := h.intermediate hid' hl
      exact ⟨p', outer', k', hp', hpid', hext.systemKey ho', hk'⟩
    · exact ⟨p, outer, k, hp, hpid, hext.systemKey ho, hk⟩

/-- Any record may be revoked. -/
lemma Sound.revoke (h : s.Sound m) (id : String) (t : Time) : (s.revoke id t).2.Sound m := by
  refine ⟨fun _ _ _ hl => ?_, fun hid hl => ?_, fun hid hl => ?_⟩
  · obtain ⟨r, hr, hp⟩ := load?_of_revoke hl
    rw [hp.created, h.dated _ _ _ hr]
  · obtain ⟨r, hr, hp⟩ := load?_of_revoke hl
    obtain ⟨hnone, k, hk⟩ := h.system hid hr
    obtain ⟨k', hk', -⟩ := hp.openWith (.refl m) hk
    exact ⟨hp.parent.trans hnone, k', hk'⟩
  · obtain ⟨r, hr, hp⟩ := load?_of_revoke hl
    obtain ⟨parent, outer, k, hpar, hpid, ho, hk⟩ := h.intermediate hid hr
    obtain ⟨outer', ho', houter⟩ := (grows_revoke s id t).systemKey ho
    obtain ⟨k', hk', -⟩ := hp.openWith houter hk
    exact ⟨parent, outer', k', hp.parent.trans hpar, hpid, ho', hk'⟩

end Store

end Envelope
