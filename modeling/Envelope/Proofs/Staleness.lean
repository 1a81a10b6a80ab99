import Envelope.Proofs.FirstWrite
import Envelope.Proofs.Latest
import Envelope.Proofs.Provenance

/-!
How far behind the latest intermediate key a write may be.

A write that goes to the store names the record that is the latest then. A write under a cached key
is behind by as long as the key has been cached: since a write resolved it as the latest one, or
since a record was opened that names it. Only the second way puts back a key that has been replaced
long ago.
-/

namespace Envelope.World

variable {m : Key} {p : Policy} {w : World}

/-! ### How a cached key was put -/

/-- The latest record was the one of the pointer within the last period. -/
def WasLatest (w : World) (turns : List Turn) (period : Duration) (q : KeyMeta) : Prop :=
  ∃ before after, turns = before ++ after ∧ (w.play before).environment.store.IsLatest q ∧
    (w.play turns).environment.clock.elapsed <
      (w.play before).environment.clock.elapsed + period.nanos

/-- The session opened a record that names the pointer within the last period. -/
def WasRead (w : World) (turns : List Turn) (period : Duration) (n : Nat) (q : KeyMeta) : Prop :=
  ∃ before row after, turns = before ++ .request (.decrypt n row) :: after ∧
    DataRow.named? row = some q ∧
    (w.play turns).environment.clock.elapsed <
      (w.play before).environment.clock.elapsed + period.nanos

/-- **A cached intermediate key** was cached before the turn, or it is now that of the latest
record, or the session has just opened a record that names it. -/
lemma Paced.intermediate_take (h : Paced m p w) {t : Turn} {i : Nat} {id : String}
    {created : Stamp} {e : CachedKey} (he : (w.take t).HoldsIntermediate i id created.time e) :
    w.HoldsIntermediate i id created.time e ∨
      (w.take t).environment.clock.elapsed = e.since ∧
        (w.take t).environment.store.IsLatest ⟨id, created⟩ ∨
      w.environment.clock.elapsed = e.since ∧
        ∃ row, t = .request (.decrypt i row) ∧ DataRow.named? row = some ⟨id, created⟩ := by
  cases t with
  | request q =>
    obtain ⟨-, hstep⟩ := h.sound.apply q
    rcases hstep.intermediate he with he | ⟨hclock, hsince, hwritten | hread⟩
    · exact Or.inl he
    · obtain ⟨s, f, c, k, seat, rfl, newest, ht⟩ := hwritten
      cases Stamp.time_inj.1 ht
      exact Or.inr (Or.inl ⟨hsince ▸ congrArg Clock.elapsed hclock, h.isLatest seat newest⟩)
    · obtain ⟨row, ⟨_, stamp⟩, rfl, named, rfl, ht⟩ := hread
      cases Stamp.time_inj.1 ht
      exact Or.inr (Or.inr ⟨hsince.symm, row, rfl, named⟩)
  | plan faults => exact Or.inl he
  | append keyId r => exact Or.inl he

/-- **Along steady turns, a cached intermediate key** was cached from the first, or it was put when
it was that of the latest record, or when the session opened a record that names it. -/
theorem Paced.intermediate_play (h : Paced m p w) {turns : List Turn} (hfair : Fair m w turns)
    (hsteady : SteadyTurns p w.environment.clock turns) {i : Nat} {id : String} {created : Stamp}
    {e : CachedKey} (he : (w.play turns).HoldsIntermediate i id created.time e) :
    w.HoldsIntermediate i id created.time e ∨
      (∃ before after, turns = before ++ after ∧
        (w.play before).environment.clock.elapsed = e.since ∧
        (w.play before).environment.store.IsLatest ⟨id, created⟩) ∨
      ∃ before row after, turns = before ++ .request (.decrypt i row) :: after ∧
        (w.play before).environment.clock.elapsed = e.since ∧
        DataRow.named? row = some ⟨id, created⟩ := by
  induction turns generalizing w with
  | nil => exact Or.inl he
  | cons t rest ih =>
    rcases ih (h.take hfair.1 hsteady.1) hfair.2 (h.sound.clock_take t ▸ hsteady.2) he with
      he | ⟨before, after, rfl, hput⟩ | ⟨before, row, after, rfl, hput⟩
    · rcases h.intermediate_take he with he | hput | ⟨hsince, row, rfl, named⟩
      · exact Or.inl he
      · exact Or.inr (Or.inl ⟨[t], rest, rfl, hput⟩)
      · exact Or.inr (Or.inr ⟨[], row, rest, rfl, hsince, named⟩)
    · exact Or.inr (Or.inl ⟨t :: before, after, rfl, hput⟩)
    · exact Or.inr (Or.inr ⟨t :: before, row, after, rfl, hput⟩)

/-- A key that a session is offered by its cache was that of the latest record within the last
period, or the session has opened a record within it that names the key. -/
lemma Paced.of_offers (h : Paced m p w) {turns : List Turn} (hfair : Fair m w turns)
    (hsteady : SteadyTurns p w.environment.clock turns)
    (hempty : ∀ {i id t e}, ¬ w.HoldsIntermediate i id t e) {n : Nat} {q : KeyMeta}
    (ho : (w.play turns).Offers m n q) :
    w.WasLatest turns p.revokeCheck q ∨ w.WasRead turns p.revokeCheck n q := by
  have hplay := h.play hfair hsteady
  obtain ⟨s, t, k, hs, -, latest, -, rfl⟩ := ho
  obtain ⟨f, c, hseat⟩ := hplay.sound.seat hs
  obtain ⟨e, hentry, hfresh, rfl⟩ := hseat.sound.intermediateKeys.exists_entry latest
  have hcheck : s.intermediateKeys.revokeCheck = p.revokeCheck :=
    hseat.isOf.revokeCheck.trans (congrArg Policy.revokeCheck (hplay.uses hseat.factory))
  have hsince : (w.play turns).environment.clock.elapsed < e.since + p.revokeCheck.nanos := by
    rw [← hcheck]
    replace hfresh : (w.play turns).environment.clock.elapsed - e.since <
      s.intermediateKeys.revokeCheck.nanos := hfresh
    omega
  rcases h.intermediate_play hfair hsteady ⟨s, hs, rfl, hentry⟩ with
    he | ⟨before, after, hturns, helapsed, hlatest⟩ | ⟨before, row, after, hturns, helapsed, named⟩
  · exact absurd he hempty
  · exact Or.inl ⟨before, after, hturns, hlatest, helapsed ▸ hsince⟩
  · exact Or.inr ⟨before, row, after, hturns, named, helapsed ▸ hsince⟩

/-- **Writes name the latest intermediate key, up to a period**, just where the key that the cache
offers, if it offers one, has been the latest within the period. Such a key has been, unless the
session has opened a record that names it within the period. -/
theorem names_latest_iff (m : Key) (suffix : Option String) (clock : Clock) (random : Random)
    {p : Policy} {turns : List Turn} (hfair : Fair m (start m suffix clock random) turns)
    (hsteady : SteadyTurns p clock turns) {n : Nat} {payload text : Bytes} {w' : World}
    (hsealed : ((start m suffix clock random).play turns).encrypt n payload =
      some (.ok text, w')) :
    let w₀ := start m suffix clock random
    let IsCurrent (q : KeyMeta) : Prop :=
      w'.environment.store.IsLatest q ∨ w₀.WasLatest turns p.revokeCheck q
    ((∃ q, DataRow.named? text = some q ∧ IsCurrent q) ↔
      ∀ q, (w₀.play turns).Offers m n q → IsCurrent q) ∧
    ∀ q, (w₀.play turns).Offers m n q →
      w₀.WasLatest turns p.revokeCheck q ∨ w₀.WasRead turns p.revokeCheck n q := by
  intro w₀ IsCurrent
  have hstart : Paced m p w₀ := paced_start m suffix clock random p
  have hplay := hstart.play hfair hsteady
  have hempty : ∀ {i id t e}, ¬ w₀.HoldsIntermediate i id t e := by
    rintro i id t e ⟨s, hs, -⟩
    cases hs
  obtain ⟨s, f, c, v, hseat, rfl, hresult⟩ := hplay.sound.sealed_of_encrypt hsealed
  obtain ⟨q, named, hq⟩ := hresult.named hseat
  refine ⟨⟨?_, fun hcurrent => ⟨q, named, ?_⟩⟩,
    fun q ho => hstart.of_offers hfair hsteady hempty ho⟩
  · rintro ⟨q', named', hcurrent⟩ q'' ho
    cases named.symm.trans named'
    rcases hq with hoffers | ⟨hnone, -⟩
    · exact ho.unique hoffers ▸ hcurrent
    · exact absurd ho (hnone q'')
  · rcases hq with hoffers | ⟨-, k, newest, rfl⟩
    · exact hcurrent q hoffers
    · exact Or.inl (hplay.isLatest hseat newest)

/-- Without a read, a second write names a key that has been the latest within the hour. -/
theorem names_latest_without_reads :
    let w₀ := start .zeros none .epoch (.ofSeed 0)
    let turns := (beginning (.expiring 90) ++ [Request.advance (.ofMinutes 59)]).map Turn.request
    ∃ text w' q, (w₀.play turns).encrypt 0 [] = some (.ok text, w') ∧
      DataRow.named? text = some q ∧ (w'.environment.store.IsLatest q ∨
        w₀.WasLatest turns (Policy.expiring 90).revokeCheck q) := by
  intro w₀ turns
  obtain ⟨hbegun, -⟩ := begun_beginning (.expiring 90) rfl
  obtain ⟨s, hs, -⟩ := hbegun.session
  obtain ⟨text, htext⟩ := hbegun.sound.encrypt_later hbegun.faults hs [.advance (.ofMinutes 59)] []
    (by decide)
  obtain ⟨⟨_, w'⟩, htext, rfl⟩ := Option.map_eq_some_iff.1 htext
  rw [← run_append, ← play_map_request] at htext
  have hsteady : SteadyTurns (.expiring 90) Clock.epoch turns := by
    rw [steadyTurns_map_request]
    simp [beginning, opening, Steady, Request.IsSteady]
    decide
  obtain ⟨hiff, honly⟩ := names_latest_iff .zeros none .epoch (.ofSeed 0)
    (fair_map_request _ _ _) hsteady htext
  obtain ⟨q, named, hcurrent⟩ := hiff.2 fun q ho => by
    rcases honly q ho with hlatest | ⟨before, row, after, hturns, -⟩
    · exact Or.inr hlatest
    · have hmem : Turn.request (.decrypt 0 row) ∈ turns := by
        rw [show turns = _ from hturns]
        simp
      simp [turns, beginning, opening] at hmem
  exact ⟨text, w', q, htext, named, hcurrent⟩

/-! ### A read that keeps a replaced key in use -/

/-- A record that another process has appended is there ever after. -/
lemma Sound.isSome_of_append (h : w.Sound m) {before after : List Turn} {id : String}
    {r : KeyRecord} (hfair : Fair m w (before ++ .append id r :: after)) :
    ((w.play (before ++ .append id r :: after)).environment.store.load? id
      r.created.time).isSome := by
  obtain ⟨hbefore, happend, hafter⟩ := fair_append.1 hfair
  have hl : ((w.play before).environment.store.insert id r.created.time r).2.load? id
      r.created.time =
        some (((w.play before).environment.store.load? id r.created.time).getD r) := by
    rw [Store.load?_insert, if_pos ⟨rfl, rfl⟩]
  obtain ⟨r', hr', -⟩ := (((h.play hbefore).take happend).play_mono hafter).2.load hl
  rw [play_append, play_cons]
  exact Option.isSome_iff_exists.2 ⟨r', hr'⟩

/-- A record with a later one beside it is not the latest. -/
lemma Sound.not_isLatest (h : w.Sound m) {id : String} {later created : Stamp}
    (hl : (w.environment.store.load? id later.time).isSome) (hlt : created < later) :
    ¬ w.environment.store.IsLatest ⟨id, created⟩ := by
  intro hlatest
  obtain ⟨r, hr⟩ := Option.isSome_iff_exists.1 hl
  have hle := hlatest.le h.store.dated hr
  rw [← Stamp.time_lt_time, Time.lt_iff] at hlt
  exact absurd hlt (Int.not_lt.2 hle)

/-- A period after another process has appended a later record, the older one has not been the
latest within the period. -/
lemma Sound.not_wasLatest (h : w.Sound m) {before after : List Turn} {id : String} {r : KeyRecord}
    (hfair : Fair m w (before ++ .append id r :: after)) {created : Stamp}
    (hlt : created < r.created) {period : Duration}
    (hlate : (w.play before).environment.clock.elapsed + period.nanos ≤
      (w.play (before ++ .append id r :: after)).environment.clock.elapsed) :
    ¬ w.WasLatest (before ++ .append id r :: after) period ⟨id, created⟩ := by
  rintro ⟨early, late, hturns, hlatest, hlast⟩
  have hearly : Fair m w early := (fair_append.1 (hturns ▸ hfair)).1
  -- that moment is after the append, where the later record is there, or too long before now
  rcases List.append_eq_append_iff.1 hturns with ⟨rest, rfl, hrest⟩ | ⟨rest, rfl, -⟩
  · cases rest with
    | nil =>
      rw [List.append_nil] at hlast
      omega
    | cons t rest =>
      obtain ⟨rfl, -⟩ := List.cons.inj hrest
      exact (h.play hearly).not_isLatest (h.isSome_of_append hearly) hlt hlatest
  · have hrest := (fair_append.1 (fair_append.1 hfair).1).2
    have hmono := ((h.play hearly).play_mono hrest).1
    rw [← play_append] at hmono
    omega

/-- Another process appends a record, and later on the first session reads a row. -/
def appending (id : String) (r : KeyRecord) (row : Bytes) (d d' d'' : Duration) : List Turn :=
  [.request (.advance d), .append id r, .request (.advance d'), .request (.decrypt 0 row),
    .request (.advance d'')]

lemma fair_appending {id : String} {r : KeyRecord} (h : w.environment.store.Admits m id r)
    (row : Bytes) (d d' d'' : Duration) : Fair m w (appending id r row d d' d'') :=
  ⟨trivial, h, trivial, trivial, trivial, trivial⟩

lemma steadyTurns_appending {c : Clock} {id : String} {r : KeyRecord} {row : Bytes}
    {d d' d'' : Duration} (hd : (c.wall.add? d).isSome)
    (hr : r.created.time ≤ (p.intermediateStamp (c.advance d).wall).time)
    (hd' : ((c.advance d).wall.add? d').isSome)
    (hd'' : (((c.advance d).advance d').wall.add? d'').isSome) :
    SteadyTurns p c (appending id r row d d' d'') :=
  ⟨hd, fun _ => hr, hd', trivial, hd'', trivial⟩

/-- The record is there from then on, and a period later no older one has been the latest within the
period. -/
lemma Sound.of_appending (h : w.Sound m) {before : List Turn} {id : String} {r : KeyRecord}
    {row : Bytes} {d d' d'' period : Duration}
    (hfair : Fair m w (before ++ appending id r row d d' d''))
    (hlate : period.nanos ≤ d'.nanos + d''.nanos) {created : Stamp} (hlt : created < r.created) :
    ((w.play (before ++ appending id r row d d' d'')).environment.store.load? id
        r.created.time).isSome ∧
      ¬ w.WasLatest (before ++ appending id r row d d' d'') period ⟨id, created⟩ := by
  have hsplit : before ++ appending id r row d d' d'' =
      (before ++ [.request (.advance d)]) ++ .append id r ::
        [.request (.advance d'), .request (.decrypt 0 row), .request (.advance d'')] := by
    simp [appending]
  rw [hsplit] at hfair ⊢
  refine ⟨h.isSome_of_append hfair, h.not_wasLatest hfair hlt ?_⟩
  rw [h.clock_play hfair, h.clock_play (fair_append.1 hfair).1]
  simp only [List.foldl_append]
  generalize before.foldl Turn.tick w.environment.clock = c
  show c.elapsed + d.nanos + period.nanos ≤ c.elapsed + d.nanos + d'.nanos + d''.nanos
  omega

/-- Where another process has replaced the first key of a partition and a record under that key is
read a period later, the session is offered the old key again. -/
lemma Begun.offers_replaced {policy : Policy} {minutes : UInt32} {partition : Partition}
    {now : Clock} (hw : Begun m partition policy now w) (hpast : w.Past)
    (hp : policy.ChecksEvery minutes) (hcaches : policy.cachesIntermediateKeys = true)
    {row payload : Bytes} (hrow : w.environment.store.openRow m partition row = .ok payload)
    (hnamed : DataRow.named? row =
      some ⟨partition.intermediateKeyId, policy.intermediateStamp now.wall⟩)
    {r : KeyRecord} (hadmits : w.environment.store.Admits m partition.intermediateKeyId r)
    (d d' d'' : Duration) (hd : minutes.toNat * 60000000000 ≤ d'.nanos)
    (hd' : d''.nanos < minutes.toNat * 60000000000)
    (hlives : ¬ policy.IsExpired (((now.advance d).advance d').advance d'').wall
      (policy.intermediateStamp now.wall).time) :
    let w' := w.play (appending partition.intermediateKeyId r row d d' d'')
    w'.environment.faults = .none ∧
      w'.Offers m 0 ⟨partition.intermediateKeyId, policy.intermediateStamp now.wall⟩ := by
  intro w'
  obtain ⟨s, hs, rfl, rfl, hcheck, hrereads⟩ := hw.rereads hpast hcaches hrow hnamed
  obtain rfl := hw.clock
  obtain ⟨r₀, hr₀, hrevoked, -⟩ := hw.single.record
  have hextends := w.environment.store.extends_insert s.partition.intermediateKeyId
    r.created.time r
  let w₁ : World := { w with environment := { w.environment with
    store := (w.environment.store.insert s.partition.intermediateKeyId r.created.time r).2
    clock := (w.environment.clock.advance d).advance d' } }
  have hsound : w₁.Sound m := hw.sound.withEnvironment hw.sound.faults
    (hw.sound.store.insert hadmits) hextends.grows
  rw [hp.revokeCheck, Duration.nanos_ofMinutes] at hrereads
  have hlate : w.environment.clock.elapsed + minutes.toNat * 60000000000 ≤
      w.environment.clock.elapsed + d.nanos + d'.nanos := by
    omega
  have hrereads := hrereads w₁ hextends.grows hw.faults hlate
  obtain ⟨f, c, hseat⟩ := hsound.seat (i := 0) hs
  have hfaults := (hsound.run [.decrypt 0 row, .advance d'']).2.faults
  refine ⟨(hw.faults ▸ hfaults).eq_none,
    (hrereads.offers hseat hsound (hextends.load hr₀) hrevoked d'' ?_ hlives).1⟩
  rw [hcheck, hp.revokeCheck, Duration.nanos_ofMinutes]
  exact hd'

/-- The session then seals under the old key, which has not been the latest for a period. -/
lemma Begun.seals_replaced {policy : Policy} {minutes : UInt32} {partition : Partition}
    {now : Clock} {before : List Turn} (h : w.Sound m) (hfair : Fair m w before)
    (hw : Begun m partition policy now (w.play before)) (hpast : (w.play before).Past)
    (hp : policy.ChecksEvery minutes) (hcaches : policy.cachesIntermediateKeys = true)
    {row payload : Bytes}
    (hrow : (w.play before).environment.store.openRow m partition row = .ok payload)
    (hnamed : DataRow.named? row =
      some ⟨partition.intermediateKeyId, policy.intermediateStamp now.wall⟩)
    {r : KeyRecord}
    (hadmits : (w.play before).environment.store.Admits m partition.intermediateKeyId r)
    (hlt : policy.intermediateStamp now.wall < r.created) (d d' d'' : Duration)
    (hd : minutes.toNat * 60000000000 ≤ d'.nanos) (hd' : d''.nanos < minutes.toNat * 60000000000)
    (hlives : ¬ policy.IsExpired (((now.advance d).advance d').advance d'').wall
      (policy.intermediateStamp now.wall).time) :
    let turns := before ++ appending partition.intermediateKeyId r row d d' d''
    let old : KeyMeta := ⟨partition.intermediateKeyId, policy.intermediateStamp now.wall⟩
    Fair m w turns ∧ ∃ text w', (w.play turns).encrypt 0 [] = some (.ok text, w') ∧
      DataRow.named? text = some old ∧ ¬ w'.environment.store.IsLatest old ∧
      ¬ w.WasLatest turns policy.revokeCheck old := by
  intro turns old
  have hturns : Fair m w turns := fair_append.2 ⟨hfair, fair_appending hadmits ..⟩
  obtain ⟨hfaults, hoffers⟩ := hw.offers_replaced hpast hp hcaches hrow hnamed hadmits d d' d'' hd
    hd' hlives
  rw [← play_append] at hfaults hoffers
  have hsound := h.play hturns
  have hlate : policy.revokeCheck.nanos ≤ d'.nanos + d''.nanos := by
    rw [hp.revokeCheck, Duration.nanos_ofMinutes]
    omega
  obtain ⟨hthere, hnot⟩ := h.of_appending hturns hlate hlt
  obtain ⟨r', hr'⟩ := Option.isSome_iff_exists.1 hthere
  obtain ⟨s, _, _, hs, -⟩ := id hoffers
  obtain ⟨f, c, hseat⟩ := hsound.seat hs
  obtain ⟨text, v, htext, hsealed⟩ := hsound.encrypt_ok hfaults hseat [] (by decide)
  obtain ⟨q, named, hoffers' | ⟨hnone, -⟩⟩ := hsealed.named hseat
  · cases hoffers.unique hoffers'
    refine ⟨hturns, text, _, htext, named, ?_, hnot⟩
    exact (hsound.settle hseat hsealed.evolves).not_isLatest
      (Option.isSome_iff_exists.2 ⟨r', hsealed.evolves.store.load hr'⟩) hlt
  · exact absurd hoffers (hnone _)

/-- Two hours after a key has been replaced a session still seals under it, for it read a record an
hour before. -/
theorem replaced_key_lingers :
    let policy := Policy.expiring 90
    let old : KeyMeta :=
      ⟨Partition.given.intermediateKeyId, policy.intermediateStamp Clock.epoch.wall⟩
    let w₀ := start .zeros none .epoch (.ofSeed 0)
    ∃ row r, ((w₀.run (opening "product" "service" "partition" policy)).encrypt 0
        [104, 105]).map Prod.fst = some (.ok row) ∧
      let turns := (beginning policy).map .request ++
        appending Partition.given.intermediateKeyId r row (.ofMinutes 1) (.ofMinutes 60)
          (.ofMinutes 59)
      SteadyTurns policy .epoch turns ∧ Fair .zeros w₀ turns ∧
        ∃ text w', (w₀.play turns).encrypt 0 [] = some (.ok text, w') ∧
          DataRow.named? text = some old ∧ ¬ w'.environment.store.IsLatest old ∧
          ¬ w₀.WasLatest turns policy.revokeCheck old := by
  intro policy old w₀
  obtain ⟨hbegun, row, hrow, hopen, hnamed⟩ := begun_beginning policy rfl
  have hstart := onTime_start .zeros none .epoch (.ofSeed 0) policy
  have hsteady : Steady policy .epoch (beginning policy) := by
    simp [beginning, opening, Steady, Request.IsSteady]
  have hpast := (hstart.run hsteady).1.past
  -- a name for the time of the new record keeps the steps below from computing it
  obtain ⟨later, hlater⟩ : ∃ later,
      policy.intermediateStamp (Clock.epoch.advance (.ofMinutes 1)).wall = later := ⟨_, rfl⟩
  have hlt : policy.intermediateStamp Clock.epoch.wall < later := hlater ▸ by decide
  rw [← play_map_request] at hbegun hopen hpast
  obtain ⟨r₀, hr₀, -⟩ := hbegun.single.record
  obtain ⟨p, outer, -, -, hpid, houter, -⟩ := hbegun.sound.store.intermediate
    Partition.given.isIntermediateId_intermediateKeyId hr₀
  obtain ⟨wrapped, hadmits⟩ := Store.exists_admits
    Partition.given.isIntermediateId_intermediateKeyId hpid houter .zeros later
  refine ⟨row, _, hrow, steadyTurns_append.2 ⟨steadyTurns_map_request.2 hsteady, ?_⟩,
    hbegun.seals_replaced hstart.sound (fair_map_request ..) hpast (.expiring 90) rfl hopen hnamed
      hadmits hlt (.ofMinutes 1) (.ofMinutes 60) (.ofMinutes 59) (by decide) (by decide)
      (by decide)⟩
  have hclock : ((beginning policy).map Turn.request).foldl Turn.tick Clock.epoch = .epoch := rfl
  rw [hclock]
  refine steadyTurns_appending (by decide) ?_ (by decide) (by decide)
  rw [hlater]
  exact Int.le_refl _

end Envelope.World
