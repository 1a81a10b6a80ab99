import Envelope.Proofs.Availability
import Envelope.Proofs.Coherence
import Envelope.Proofs.Interruption

/-!
A failed write leaves nothing half-made.

A write fails only by the failure that it meets, and it may meet one between any two calls. All that
it has done by then is at the system tier: a system key may be new that nothing was sealed under
yet. The next write uses it.
-/

namespace Envelope

open Envelope.Action

open Planned (calm)

/-- A computation that would return without the plan fails only by a failure that it meets. -/
lemma Abrupt.yields {σ α : Type} [Planned σ] {a : Action σ Error α} (h : Abrupt a) {s : σ}
    (hs : (Planned.environment s).faults.Failing)
    (hcalm : a.Yields (calm s) (fun _ _ => True) fun _ _ => False) :
    a.Yields s
      (fun _ t => (Planned.environment s).faults.Clears (Planned.environment t).faults)
      (fun err t => (Planned.environment s).faults.Halts err (Planned.environment t).faults) := by
  obtain ⟨-, hcut⟩ := h s hs
  cases hcut with
  | through clears same =>
    unfold Yields at hcalm ⊢
    rw [same] at hcalm
    rcases hrun : a.outcome s with ⟨err | x, t⟩ <;> rw [hrun] at hcalm clears
    · exact hcalm.elim
    · exact clears
  | short err error halts store =>
    unfold Yields
    rcases hrun : a.outcome s with ⟨err' | x, t⟩ <;> rw [hrun] at error halts <;> cases error
    exact halts

namespace Engine

variable {e : Engine} {m : Key} {w : Workspace}

lemma sound_calm (hw : e.Sound m w) : e.Sound m (calm w) where
  service := hw.service
  faults := Faults.failing_none.truthful
  failing := Faults.failing_none
  dated := hw.dated
  systemKeys := hw.systemKeys
  intermediateKeys := hw.intermediateKeys
  store := hw.store

/-- **The intermediate key of a write** is found or made, unless the write meets a failure. Then it
has done nothing but at the system tier. -/
lemma yields_intermediateKeyForWrite_or_halts (hw : e.Sound m w) :
    e.intermediateKeyForWrite.Yields w
      (fun _ w' => w.environment.faults.Clears w'.environment.faults)
      (fun err w' => w.environment.faults.Halts err w'.environment.faults ∧
        e.Prepares m w w') := by
  have hcalm := (yields_intermediateKeyForWrite (sound_calm hw)).mono (R := fun _ _ => True)
    (F := fun _ _ => False) (fun _ _ _ => trivial) fun err _ h => Faults.not_plans_none err h.1
  refine (((abrupt_intermediateKeyForWrite hw.service).yields hw.failing hcalm).and
    (yields_intermediateKeyForWrite hw)).mono (fun _ _ h => h.1) fun _ _ h => ⟨h.1, h.2.2⟩

/-- **A write** fails only by a failure that it meets, or because the payload is too long. -/
theorem yields_encrypt_or_halts (hw : e.Sound m w) (payload : Bytes) :
    (e.encrypt payload).Yields w
      (fun _ w' => w.environment.faults.Clears w'.environment.faults)
      (fun err w' => w.environment.faults.Halts err w'.environment.faults ∧ e.Prepares m w w' ∨
        w.environment.faults.Clears w'.environment.faults ∧ err = .ofCipher .aeadFailure ∧
          Cipher.Siv.maxLength < payload.length) := by
  unfold encrypt
  refine (yields_intermediateKeyForWrite_or_halts hw).bind (fun handle w₁ h => ?_)
    fun _ _ h => Or.inl h
  refine yields_bind.2 (yields_lift.2 ?_)
  rw [Effect.yields_now]
  -- sealing meets no failure: all there is to it is the random bytes
  have hseal : (Effect.sealing (handle.key.sealPayload w₁.environment.clock.wall.stamp
      payload)).Yields w₁.environment
      (fun _ env => env.faults = w₁.environment.faults)
      (fun _ env => env.faults = w₁.environment.faults) := yields_of_state rfl
  refine yields_lift_bind (hseal.and
    (Effect.yields_sealing (Key.sealPayload_yields handle.key _ payload _)))
    (fun sealed env hs => ?_) fun err env hs => ?_
  · show w.environment.faults.Clears env.faults
    exact hs.1 ▸ h
  · obtain ⟨hfaults, ⟨fault, rfl, rfl, hlong⟩, -⟩ := hs
    exact Or.inr ⟨hfaults ▸ h, rfl, hlong⟩

end Engine

namespace World

variable {m : Key} {w w' : World} {p : Partition} {turns : List Turn}

/-- The text was returned for the payload, by a session of the partition, in one of the turns. -/
def Returned (w : World) (turns : List Turn) (p : Partition) (payload text : Bytes) : Prop :=
  ∃ before n after, turns = before ++ .request (.encrypt n payload) :: after ∧
    (w.play before).Session n p ∧
    ((w.play before).encrypt n payload).map Prod.fst = some (.ok text)

lemma returned_of_run {before : List Request} {n : Nat} {payload text : Bytes}
    (hs : (w.run before).Session n p)
    (htext : ((w.run before).encrypt n payload).map Prod.fst = some (.ok text))
    (after : List Request) :
    w.Returned ((before ++ .encrypt n payload :: after).map .request) p payload text := by
  rw [← play_map_request] at hs htext
  exact ⟨before.map .request, n, after.map .request, by simp, hs, htext⟩

/-- What was returned names a key of the partition that is in the store, and opens ever after. -/
lemma Sound.returned (h : w.Sound m) (hfair : Fair m w turns) {payload text : Bytes}
    (hr : w.Returned turns p payload text) :
    ∃ created k, DataRow.named? text = some ⟨p.intermediateKeyId, created⟩ ∧
      (w.play turns).environment.store.intermediateKey m ⟨p.intermediateKeyId, created⟩ = .ok k ∧
      (w.play turns).environment.store.openRow m p text = .ok payload := by
  obtain ⟨before, n, after, rfl, ⟨s, hs, rfl⟩, htext⟩ := hr
  obtain ⟨hbefore, -, hafter⟩ := fair_append.1 hfair
  have hw := h.play hbefore
  obtain ⟨f, c, hseat⟩ := hw.seat hs
  obtain ⟨created, k, named, hk, hopens⟩ := (hw.bench hseat).returned hseat.sound htext
  obtain ⟨-, hgrows⟩ := (hw.take (t := .request (.encrypt n payload)) trivial).play_mono hafter
  obtain ⟨k', hk', -⟩ := hgrows.intermediateKey hk
  rw [play_append, play_cons]
  exact ⟨created, k', named, hk',
    hgrows.openRow (hopens _ s.partition.accepts_intermediateKeyId)⟩

/-- The second world is the first but for one system key of the partition, which may be new. -/
structure Harmless (m : Key) (p : Partition) (w w' : World) : Prop where
  store : w'.environment.store = w.environment.store ∨ ∃ r k,
    w.environment.store.load? p.systemKeyId r.created.time = none ∧
    r.parent = none ∧ r.openWith m = .ok k ∧
    w'.environment.store = (w.environment.store.insert p.systemKeyId r.created.time r).2
  records : w.environment.store.Extends w'.environment.store
  intermediate : ∀ id, IsIntermediateId id → ∀ t,
    w'.environment.store.load? id t = w.environment.store.load? id t
  intermediateKeys : w'.engines = w.engines
  coherent : w'.Coherent m

/-- From the world on, whenever no failure is planned, every session seals, and it opens what was
returned for its partition in the turns so far. -/
def Recovers (m : Key) (origin : World) (turns : List Turn) (w : World) : Prop :=
  ∀ later, Fair m w later →
    let w' := (w.play later).take (.plan .none)
    ∀ n p, w'.Session n p →
      (∀ payload : Bytes, payload.length ≤ Cipher.Siv.maxLength →
        ∃ text, (w'.encrypt n payload).map Prod.fst = some (.ok text)) ∧
      ∀ payload text, origin.Returned turns p payload text →
        (w'.decrypt n text).map Prod.fst = some (.ok payload)

/-- A sound world recovers, if its store has grown from where the turns led. -/
lemma Sound.recovers {origin : World} (ho : origin.Sound m) (hfair : Fair m origin turns)
    (hw : w.Sound m) (hg : (origin.play turns).environment.store.Grows w.environment.store) :
    Recovers m origin turns w := by
  intro later hlater w' n p hs
  have hw' : w'.Sound m := (hw.play hlater).take (t := .plan .none) Faults.failing_none
  have hgrows : w.environment.store.Grows w'.environment.store := (hw.play_mono hlater).2
  refine ⟨fun payload hl => ?_, fun payload text hr => ?_⟩
  · rcases hw'.encrypt_cases rfl hs payload with ⟨text, htext, -⟩ | ⟨hlong, -⟩
    · exact ⟨text, htext⟩
    · exact absurd hlong (Nat.not_lt.2 hl)
  · obtain ⟨-, -, -, -, hopen⟩ := ho.returned hfair hr
    rw [hw'.decrypt_eq rfl hs]
    exact congrArg some ((hg.trans hgrows).openRow hopen)

/-- A write that has done nothing but at the system tier is harmless. -/
lemma Seat.harmless {n : Nat} {s : EngineState} {f : Factory} {c : KeyCache}
    (hw : w.Sound m) (hs : Seat m w n s f c) {v : Engine.Workspace}
    (hv : (s.engine m).Prepares m (w.workspace s c) v) :
    Harmless m s.partition w (w.settle n s v) where
  store := by
    have hadds := hv.store
    generalize (s.engine m).policy.systemStamp _ = created at hadds
    rcases hadds with hsame | ⟨hfree, wrapped, hadds⟩
    · exact Or.inl hsame
    · let r := KeyRecord.system created wrapped (some false)
      have hl : v.environment.store.load? s.partition.systemKeyId r.created.time = some r := by
        rw [hadds]
        exact Store.load?_insert_self hfree r
      obtain ⟨-, k, hk⟩ := hv.sound.system s.partition.isSystemId_systemKeyId hl
      exact Or.inr ⟨r, k, hfree, rfl, hk, hadds⟩
  records := hv.store.extends
  intermediate id hid t :=
    hv.store.load? (s.partition.isSystemId_systemKeyId.ne hid).symm t
  intermediateKeys := by
    show w.engines.set n { s with intermediateKeys := v.intermediateKeys } = w.engines
    rw [hv.intermediateKeys]
    exact set_of_getElem? hs.engine
  coherent := (hw.settle hs hv.evolves).coherent

/-- A write of a sound world is harmless and keeps it sound if it fails, which it does only by a
failure that it meets or because the payload is too long. -/
lemma Sound.encrypt_or_harmless (hw : w.Sound m) {n : Nat} (hs : w.Session n p)
    (payload : Bytes) : ∃ r w', w.encrypt n payload = some (r, w') ∧
      ((∃ err, r = .error err ∧ w.environment.faults.Halts err w'.environment.faults ∧
          Harmless m p w w' ∧ w'.Sound m) ∨
        w.environment.faults.Clears w'.environment.faults ∧
          ((∃ text, r = .ok text) ∨
            Cipher.Siv.maxLength < payload.length ∧ r = .error (.ofCipher .aeadFailure))) := by
  obtain ⟨s, hs, rfl⟩ := hs
  obtain ⟨f, c, hseat⟩ := hw.seat hs
  refine ⟨_, _, (hw.bench hseat).work_eq _, Action.Yields.outcome (P := fun r v =>
    (∃ err, r = .error err ∧ w.environment.faults.Halts err v.environment.faults ∧
        Harmless m s.partition w (w.settle n s v) ∧ (w.settle n s v).Sound m) ∨
      w.environment.faults.Clears v.environment.faults ∧ ((∃ text, r = .ok text) ∨
        Cipher.Siv.maxLength < payload.length ∧ r = .error (.ofCipher .aeadFailure))) ?_⟩
  refine (Engine.yields_encrypt_or_halts hseat.sound payload).bind (fun row v hclears => ?_)
    fun err v h => ?_
  · exact Or.inr ⟨hclears, Or.inl ⟨_, rfl⟩⟩
  · rcases h with ⟨hhalts, hv⟩ | ⟨hclears, rfl, hlong⟩
    · exact Or.inl ⟨err, rfl, hhalts, hseat.harmless hw hv, hw.settle hseat hv.evolves⟩
    · exact Or.inr ⟨hclears, Or.inr ⟨hlong, rfl⟩⟩

/-- **A failed write** fails with the very error of a call that failed and leaves nothing half-made:
at most one system key is new, which the master key opens, and no cached intermediate key has
changed. Later writes go on, and what was returned before opens. A write that meets no failure does
not fail, unless the payload is too long for the cipher. -/
theorem failed_writes_harmless (m : Key) (suffix : Option String) (clock : Clock)
    (random : Random) {turns : List Turn} (hfair : Fair m (start m suffix clock random) turns)
    {faults : Faults} (hfaults : faults.Failing) {n : Nat} {p : Partition}
    (hs : ((start m suffix clock random).play turns).Session n p) (payload : Bytes) :
    let w := ((start m suffix clock random).play turns).take (.plan faults)
    ∃ r w', w.encrypt n payload = some (r, w') ∧
      ((∃ err, r = .error err ∧ faults.Halts err w'.environment.faults ∧ Harmless m p w w' ∧
          Recovers m (start m suffix clock random) turns w') ∨
        faults.Clears w'.environment.faults ∧
          ((∃ text, r = .ok text) ∨
            Cipher.Siv.maxLength < payload.length ∧ r = .error (.ofCipher .aeadFailure))) := by
  intro w
  have hstart := sound_start m suffix clock random
  have hw : w.Sound m := (hstart.play hfair).take (t := .plan faults) hfaults
  have hsession : w.Session n p := hs
  obtain ⟨r, w', hr, hcases⟩ := hw.encrypt_or_harmless hsession payload
  refine ⟨r, w', hr, hcases.imp_left ?_⟩
  rintro ⟨err, herr, hhalts, hharmless, hw'⟩
  exact ⟨err, herr, hhalts, hharmless, hstart.recovers hfair hw' hharmless.records.grows⟩

end World

/-- The second insert fails. -/
def Faults.secondInsert (err : Error) : Faults :=
  ⟨[], [], [Option.none, some (.fail err)], [], []⟩

lemma Faults.failing_secondInsert (err : Error) : (secondInsert err).Failing where
  latest _ hx := by cases hx
  load _ hx := by cases hx
  insert x hx := ⟨err, Or.inl (by simpa [secondInsert] using hx)⟩

/-- A first write whose intermediate key is not stored after its system key has been. -/
theorem World.failed_first_insert_harmless :
    let turns : List Turn := (opening "product" "service" "partition" (.expiring 90)).map .request
    let origin := start .zeros none .epoch (.ofSeed 0)
    let w := (origin.play turns).take (.plan (.secondInsert (.application .malformedKeyRecord)))
    ∃ w', w.encrypt 0 [] = some (.error (.application .malformedKeyRecord), w') ∧
      (w'.environment.store.latest? Partition.given.systemKeyId).isSome ∧
      Harmless .zeros .given w w' ∧ Recovers .zeros origin turns w' := by
  intro turns origin w
  have hfails : (w.encrypt 0 []).map Prod.fst =
      some (.error (.application .malformedKeyRecord)) := by
    subst w origin turns
    rfl
  have hadds : (w.encrypt 0 []).map
      (fun x => (x.2.environment.store.latest? Partition.given.systemKeyId).isSome) =
        some true := by
    subst w origin turns
    rfl
  have hfair : Fair .zeros origin turns := fair_map_request ..
  obtain ⟨r, w', hr, hcases⟩ := failed_writes_harmless .zeros none .epoch (.ofSeed 0) hfair
    (Faults.failing_secondInsert (.application .malformedKeyRecord)) (n := 0) (p := .given)
    ⟨_, rfl, rfl⟩ []
  replace hr : w.encrypt 0 [] = some (r, w') := hr
  rw [hr] at hfails hadds
  obtain rfl : r = .error (.application .malformedKeyRecord) := Option.some.inj hfails
  refine ⟨w', hr, Option.some.inj hadds, ?_⟩
  rcases hcases with ⟨_, -, -, hharmless, hrecovers⟩ | ⟨-, ⟨text, htext⟩ | ⟨hlong, -⟩⟩
  · exact ⟨hharmless, hrecovers⟩
  · cases htext
  · exact absurd hlong (by decide)

end Envelope
