import Envelope.Proofs.Coherence
import Envelope.Proofs.Fleet
import Envelope.Proofs.KeyIds

/-!
Engines of one partition under several suffixes.

A record moves from one suffix to another and still opens, since a partition with a suffix accepts
the ids that it has under any other suffix. The keys do not move: each engine writes under its own
two ids and caches keys of these only, also where keys under two suffixes have the same creation
times, which is all that a cache tells keys apart by.
-/

namespace Envelope.World

variable {m : Key} {w w' : World} {partition service product : String}

/-! ### Sessions of a fleet -/

/-- What an engine of a fleet has sealed opens later on wherever its key id is accepted, and is
refused elsewhere. -/
lemma Apart.later (h : w.Apart m) {n n' : Nat} {p q : Partition} (hn : w.Session n p)
    (hn' : w.Session n' q) {payload text : Bytes}
    (htext : (w.encrypt n' payload).map Prod.fst = some (.ok text)) {later : List Request}
    (hlater : ∀ o ∈ later, ¬ o.OpensFactory) :
    (w.run (.encrypt n' payload :: later)).OpensIff n text payload
      (p.Accepts q.intermediateKeyId) := by
  obtain ⟨s', hs', rfl⟩ := hn'
  obtain ⟨c', hb', hsound'⟩ := h.bench hs'
  have hmoves := h.apply (o := .encrypt n' payload) id
  have hmoves' := hmoves.apart.run hlater
  obtain ⟨s, hs, rfl⟩ := (hmoves.precedes.trans hmoves'.precedes).session hn
  obtain ⟨c, hb, hsound⟩ := hmoves'.apart.bench hs
  exact hb'.later hsound' htext hmoves'.precedes.store hb hsound hmoves'.apart.faults

/-- Every key that an engine of a fleet has cached is its own. -/
lemma Apart.cachesOwn (h : w.Apart m) {n : Nat} {p : Partition} (hn : w.Session n p) :
    CachesOwn m w n p := by
  obtain ⟨s, hs, rfl⟩ := hn
  intro s' c hs' hc
  cases hs.symm.trans hs'
  rw [(h.engine hs).2] at hc
  exact ⟨fun t e he => Store.backs_of_mirrors_intermediateKey (h.intermediateKeys hs) he,
    fun t e he => Store.backs_of_mirrors_systemKey (h.systemKeys hs hc) he⟩

/-! ### Engines of one partition -/

/-- All engines are of one partition, under whatever suffixes, and its intermediate records under a
suffix point to system keys under that suffix. -/
structure Kin (partition service product : String) (w : World) : Prop where
  engine : ∀ {i : Nat} {s : EngineState}, w.engines[i]? = some s →
    ∃ suffix, s.partition = .ofIds partition service product suffix
  under : ∀ {suffix q t}, w.environment.store.IsUnder q
      (Partition.ofIds partition service product suffix).intermediateKeyId t →
    q.keyId = (Partition.ofIds partition service product suffix).systemKeyId

lemma kin_fleet (m : Key) (suffix : Option String) (clock : Clock) (random : Random)
    (partition service product : String) (members : List (Option String × Policy)) :
    ((start m suffix clock random).fleet (members.map fun x =>
      (.ofIds partition service product x.1, x.2))).Kin partition service product where
  engine h := by
    rcases partition_of_fleet h with h | ⟨x, hx, hp⟩
    · cases h
    · obtain ⟨y, -, rfl⟩ := List.mem_map.1 hx
      exact ⟨y.1, hp⟩
  under h := by
    rw [environment_fleet] at h
    obtain ⟨r, hl, -⟩ := h
    cases hl

/-- **The engines of one partition** keep the system keys of their suffixes apart. -/
lemma Kin.moves (h : w.Kin partition service product) (hmoves : Moves m w w') :
    w'.Kin partition service product where
  engine hs' := by
    obtain ⟨s, hs, hseat⟩ := hmoves.engine hs'
    obtain ⟨suffix, hp⟩ := h.engine hs
    exact ⟨suffix, hseat.partition.trans hp⟩
  under hu := by
    rcases hmoves.under hu with hu | ⟨i, s, hs, hid, hq⟩
    · exact h.under hu
    · obtain ⟨suffix', hp⟩ := h.engine hs
      rw [hp] at hid hq
      have hsame := Partition.intermediateKeyId_inj_suffix.1 hid
      rw [hq, Partition.systemKeyId_inj_suffix, hsame]

/-- What a session of the partition under a suffix does for the partition under any other. -/
structure Serves (m : Key) (w : World) (own : Option String → Partition) (n : Nat)
    (suffix : Option String) : Prop where
  /-- What any session has sealed opens here ever after, be it sealed here or under another suffix
  or none. -/
  opens : ∀ n' suffix' payload text, w.Session n' (own suffix') →
    (w.encrypt n' payload).map Prod.fst = some (.ok text) →
    ∀ later : List Request, (∀ o ∈ later, ¬ o.OpensFactory) →
      ((w.run (.encrypt n' payload :: later)).decrypt n text).map Prod.fst = some (.ok payload)
  /-- What is sealed here names the own intermediate key id, whose record points to the own system
  key id. -/
  names : ∀ payload text, (w.encrypt n payload).map Prod.fst = some (.ok text) →
    ∃ created parent, DataRow.named? text = some ⟨(own suffix).intermediateKeyId, created⟩ ∧
      parent.keyId = (own suffix).systemKeyId ∧
      (w.apply (.encrypt n payload)).environment.store.IsUnder parent
        (own suffix).intermediateKeyId created.time
  /-- Every payload is sealed that the cipher takes. -/
  seals : ∀ payload, payload.length ≤ Cipher.Siv.maxLength →
    ∃ text, (w.encrypt n payload).map Prod.fst = some (.ok text)
  caches : CachesOwn m w n (own suffix)

lemma Kin.serves (h : w.Kin partition service product) (ha : w.Apart m) {n : Nat}
    {suffix : String} (hsuffix : suffix ≠ "")
    (hn : w.Session n (.ofIds partition service product (some suffix))) :
    Serves m w (.ofIds partition service product) n (some suffix) where
  opens n' suffix' payload text hn' htext later hlater := by
    have hnone : (Partition.ofIds partition service product (some suffix)).suffix ≠ none := by
      rw [Partition.suffix_ofIds]
      simp [hsuffix]
    exact (ha.later hn hn' htext hlater).opens
      ((Partition.accepts_iff_resembles hnone _).2 Partition.resembles_ofIds)
  names payload text htext := by
    have hkin := h.moves (ha.apply (o := .encrypt n payload) id)
    obtain ⟨s, hs, hp⟩ := hn
    obtain ⟨c, hb, hsound⟩ := ha.bench hs
    obtain ⟨created, k, named, hk, -⟩ := hb.returned hsound htext
    obtain ⟨r, parent, -, hl, hparent, -⟩ := Store.intermediateKey_eq_ok hk
    rw [hp] at named hl
    have hunder : (w.apply (.encrypt n payload)).environment.store.IsUnder parent
        (Partition.ofIds partition service product (some suffix)).intermediateKeyId
        created.time := ⟨r, hl, hparent⟩
    exact ⟨created, parent, named, hkin.under hunder, hunder⟩
  seals payload hlength := by
    obtain ⟨s, hs, -⟩ := hn
    obtain ⟨c, hb, hsound⟩ := ha.bench hs
    rcases hb.encrypt_cases hsound ha.faults payload with ⟨text, v, hr, -⟩ | ⟨hlong, -⟩
    · exact ⟨text, by rw [hr]; rfl⟩
    · exact absurd hlong (Nat.not_lt.2 hlength)
  caches := ha.cachesOwn hn

/-- **Records move between suffixes** and keys do not: in any run of engines of one partition, under
any suffixes and policies and with caches of their own over one store, an engine with a suffix opens
what any of them has sealed, and it writes under and caches its own keys alone. The ids under two
suffixes differ, and an engine without a suffix refuses what names the id under one. -/
theorem siblings_served (m : Key) (suffix : Option String) (clock : Clock) (random : Random)
    (partition service product : String) (members : List (Option String × Policy))
    {requests : List Request} (hrequests : ∀ o ∈ requests, ¬ o.OpensFactory) {other : String}
    (hother : other ≠ "") :
    let own := Partition.ofIds partition service product
    let w := ((start m suffix clock random).fleet
      (members.map fun x => (own x.1, x.2))).run requests
    (∀ n, w.Session n (own (some other)) → Serves m w own n (some other)) ∧
      (∀ suffix', suffix' ≠ some other →
        (own suffix').intermediateKeyId ≠ (own (some other)).intermediateKeyId ∧
        (own suffix').systemKeyId ≠ (own (some other)).systemKeyId) ∧
      ∀ n text created, w.Session n (own none) →
        DataRow.named? text = some ⟨(own (some other)).intermediateKeyId, created⟩ →
          w.Refuses n text := by
  intro own w
  have hdiffer : ∀ suffix' : Option String, suffix' ≠ some other →
      suffix'.filter (· ≠ "") ≠ (some other).filter (· ≠ "") := by
    intro suffix' hne heq
    rw [Option.filter_some, if_pos (by simpa using hother)] at heq
    exact hne (Option.filter_eq_some_iff.1 heq).1
  have hmoves : Moves m _ w := ((apart_start m suffix clock random).fleet _).run hrequests
  have hkin : w.Kin partition service product :=
    (kin_fleet m suffix clock random partition service product members).moves hmoves
  refine ⟨fun n hn => hkin.serves hmoves.apart hother hn, fun suffix' hne => ⟨fun heq => ?_,
    fun heq => ?_⟩, fun n text created hn hnamed => ?_⟩
  · exact hdiffer suffix' hne (Partition.intermediateKeyId_inj_suffix.1 heq)
  · exact hdiffer suffix' hne (Partition.systemKeyId_inj_suffix.1 heq)
  · obtain ⟨s, hs, hp⟩ := hn
    obtain ⟨c, hb, -⟩ := hmoves.apart.bench hs
    refine hb.refuses hnamed ?_
    rw [hp, Partition.accepts_iff_eq rfl]
    exact fun heq => hdiffer none nofun (Partition.intermediateKeyId_inj_suffix.1 heq.symm)

/-- An engine without a suffix and one with: what the first seals opens on the second, and what the
second seals at the same time is refused by the first. -/
theorem siblings_served_west :
    let own := Partition.ofIds "partition" "service" "product"
    let w := (start .zeros none .epoch (.ofSeed 0)).fleet
      [(own none, .expiring 90), (own (some "west"), .expiring 90)]
    ∃ text text', (w.encrypt 0 [104, 105]).map Prod.fst = some (.ok text) ∧
      ((w.run [.encrypt 0 [104, 105]]).decrypt 1 text).map Prod.fst = some (.ok [104, 105]) ∧
      ((w.run [.encrypt 0 [104, 105]]).encrypt 1 []).map Prod.fst = some (.ok text') ∧
      (w.run [.encrypt 0 [104, 105], .encrypt 1 []]).Refuses 0 text' := by
  intro own w
  have hapart : w.Apart .zeros := (apart_start .zeros none .epoch (.ofSeed 0)).fleet _
  have hplain : w.Session 0 (own none) := ⟨_, rfl, rfl⟩
  have hwest : w.Session 1 (own (some "west")) := ⟨_, rfl, rfl⟩
  have hserved := fun requests (hrequests : ∀ o ∈ requests, ¬ Request.OpensFactory o) =>
    siblings_served .zeros none .epoch (.ofSeed 0) "partition" "service" "product"
      [(none, .expiring 90), (some "west", .expiring 90)] hrequests (show "west" ≠ "" by decide)
  have hone : ∀ o ∈ [Request.encrypt 0 [104, 105]], ¬ o.OpensFactory := by
    simp [Request.OpensFactory]
  have htwo : ∀ o ∈ [Request.encrypt 0 [104, 105], .encrypt 1 []], ¬ o.OpensFactory := by
    simp [Request.OpensFactory]
  have hprecedes := (hapart.run hone).precedes
  obtain ⟨s, hs, -⟩ := id hplain
  obtain ⟨c, hb, hsound⟩ := hapart.bench hs
  rcases hb.encrypt_cases hsound hapart.faults [104, 105] with ⟨text, v, hr, -⟩ | ⟨hlong, -⟩
  · have htext : (w.encrypt 0 [104, 105]).map Prod.fst = some (.ok text) := by rw [hr]; rfl
    have hbefore : Serves .zeros w own 1 (some "west") := (hserved [] (by simp)).1 1 hwest
    have hafter : Serves .zeros (w.run [.encrypt 0 [104, 105]]) own 1 (some "west") :=
      (hserved _ hone).1 1 (hprecedes.session hwest)
    obtain ⟨text', htext'⟩ := hafter.seals [] (by decide)
    obtain ⟨created, parent, hnamed, -⟩ := hafter.names [] text' htext'
    have hopens := hbefore.opens 0 none [104, 105] text hplain htext [] (by simp)
    refine ⟨text, text', htext, hopens, htext', ?_⟩
    exact (hserved _ htwo).2.2 0 text' created ((hapart.run htwo).precedes.session hplain) hnamed
  · exact absurd hlong (by decide)

end Envelope.World
