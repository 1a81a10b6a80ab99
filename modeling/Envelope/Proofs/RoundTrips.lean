import Envelope.Proofs.Availability
import Envelope.Proofs.SetUp
import Envelope.Trial.Execution

/-!
A trial with accepted settings and a fixed master key runs to completion.

What carries a trial is that its session stays one of a sound world, in which nothing is planned to
fail: there every payload is sealed, and what was sealed opens again. Sealing and opening take
turns, each at a time of its own, until all round trips are done. A process goes on like its trial,
up to the first time it would have to read a wall clock that shows a time before the epoch.
-/

namespace Envelope

/-- Only a payload that the cipher takes is ever opened. -/
lemma Store.length_le_of_openRow {s : Store} {m : Key} {p : Partition} {text payload : Bytes}
    (h : s.openRow m p text = .ok payload) : payload.length ≤ Cipher.Siv.maxLength := by
  obtain ⟨row, -, h⟩ := Except.bind_eq_ok_iff.1 h
  obtain ⟨readable, -, h⟩ := Except.bind_eq_ok_iff.1 h
  obtain ⟨k, -, h⟩ := Except.bind_eq_ok_iff.1 h
  obtain ⟨dataKey, -, hopen⟩ := Except.bind_eq_ok_iff.1 (Except.mapError_eq_ok_iff.1 h)
  exact Key.length_le_of_decrypt hopen

namespace Trial

open State

/-! ### One operation -/

namespace State

variable {s : State} {m : Key}

/-- The session of the trial is one of a sound world, and no failure is planned. -/
structure UnderWay (m : Key) (s : State) : Prop where
  sound : s.world.Sound m
  faults : s.world.environment.faults = .none
  session : s.world.Session s.session s.partition

/-- The environment may change, but not what is stored and what is planned to fail. -/
lemma UnderWay.withEnvironment (h : s.UnderWay m) (env : Environment)
    (hstore : env.store = s.world.environment.store)
    (hfaults : env.faults = s.world.environment.faults) :
    ({ s with world := { s.world with environment := env } } : State).UnderWay m where
  sound := by
    refine h.sound.withEnvironment (hfaults ▸ h.sound.faults) (hstore ▸ h.sound.store) ?_
    rw [hstore]
    exact .refl _
  faults := hfaults.trans h.faults
  session := h.session

lemma UnderWay.setClock (h : s.UnderWay m) (clock : Clock) : (s.setClock clock).UnderWay m :=
  h.withEnvironment _ rfl rfl

lemma UnderWay.collect (h : s.UnderWay m) : s.collect.UnderWay m := by
  have hw := h.withEnvironment s.world.environment.clearTrace rfl rfl
  exact ⟨hw.sound, hw.faults, hw.session⟩

lemma UnderWay.apply (h : s.UnderWay m) (q : Request) :
    ({ s with world := s.world.apply q } : State).UnderWay m := by
  obtain ⟨hsound, hstep⟩ := h.sound.apply q
  have hprecedes := (hstep.follows h.sound).toPrecedes
  refine ⟨hsound, ?_, hprecedes.session h.session⟩
  have hfaults := hprecedes.faults
  rw [h.faults] at hfaults
  exact hfaults.eq_none

lemma operate_eq {α : Type} {op : World → Nat → Option (Except Error α × World)}
    {r : Except Error α} {w : World} (h : op s.world s.session = some (r, w)) :
    s.operate op = (r, ({ s with world := w }).collect) := by
  unfold operate
  rw [h]

/-- A payload that the cipher takes is sealed, and what it is sealed into opens. -/
lemma UnderWay.encrypt (h : s.UnderWay m) (payload : Bytes) :
    (∃ row w, s.operate (·.encrypt · payload) = (.ok row, ({ s with world := w }).collect) ∧
      ({ s with world := w } : State).UnderWay m ∧
      w.environment.store.openRow m s.partition row = .ok payload) ∨
    Cipher.Siv.maxLength < payload.length ∧
      ∃ w, s.operate (·.encrypt · payload) =
        (.error (.ofCipher .aeadFailure), ({ s with world := w }).collect) := by
  have happly := h.apply (.encrypt s.session payload)
  rcases h.sound.encrypt_cases h.faults h.session payload with ⟨row, hrow, hopen⟩ | ⟨hl, hrow⟩
  · obtain ⟨⟨r, w⟩, hw, rfl⟩ := Option.map_eq_some_iff.1 hrow
    have hworld : s.world.apply (.encrypt s.session payload) = w := by
      simp [World.apply, hw]
    rw [hworld] at happly hopen
    exact Or.inl ⟨row, w, operate_eq hw, happly, hopen⟩
  · obtain ⟨⟨r, w⟩, hw, rfl⟩ := Option.map_eq_some_iff.1 hrow
    exact Or.inr ⟨hl, w, operate_eq hw⟩

/-- What is sealed opens to what the store says. -/
lemma UnderWay.decrypt (h : s.UnderWay m) (row : Bytes) :
    ∃ w, s.operate (·.decrypt · row) = (s.world.environment.store.openRow m s.partition row,
        ({ s with world := w }).collect) ∧
      ({ s with world := w } : State).UnderWay m := by
  have happly := h.apply (.decrypt s.session row)
  obtain ⟨⟨r, w⟩, hw, hr⟩ := Option.map_eq_some_iff.1
    (h.sound.decrypt_eq h.faults h.session row)
  have hworld : s.world.apply (.decrypt s.session row) = w := by
    simp [World.apply, hw]
  rw [hworld] at happly
  exact ⟨w, hr ▸ operate_eq hw, happly⟩

/-- The payload of the trial, in bytes. -/
def payload (s : State) : Bytes := Json.utf8Bytes s.settings.payload

lemma payload_eq {settings : Settings} (h : s.settings = settings) :
    s.payload = Json.utf8Bytes settings.payload := by
  unfold payload
  rw [h]

/-- The trial is about to open what its payload was sealed into. -/
def Holds (m : Key) (s : State) (row : Bytes) : Prop :=
  s.world.environment.store.openRow m s.partition row = .ok s.payload

lemma step_encrypting_eq {i : Nat} (hp : s.phase = .encrypting i) {clock : Clock}
    {r : Except Error Bytes} {s' : State}
    (hop : (s.setClock clock).operate (·.encrypt · s.payload) = (r, s')) :
    s.step clock = match r with
      | .ok row => { s'.emit (.encrypted i row) with phase := .decrypting i row }
      | .error e => s'.finish (.error (.encrypt i e)) := by
  unfold step
  dsimp only
  rw [show (s.setClock clock).phase = .encrypting i from hp]
  dsimp only
  rw [show (s.setClock clock).operate (·.encrypt · (Json.utf8Bytes
    (s.setClock clock).settings.payload)) = (r, s') from hop]
  cases r <;> rfl

lemma step_decrypting_eq {i : Nat} {row : Bytes} (hp : s.phase = .decrypting i row)
    {clock : Clock} {s' : State}
    (hop : (s.setClock clock).operate (·.decrypt · row) = (.ok s.payload, s')) :
    s.step clock = (s'.emit (.verified i)).proceed (i + 1) := by
  unfold step
  dsimp only
  rw [show (s.setClock clock).phase = .decrypting i row from hp]
  dsimp only
  rw [hop]
  exact if_pos rfl

/-- **Sealing** is followed by opening. -/
lemma UnderWay.step_encrypting (h : s.UnderWay m) {i : Nat} (hp : s.phase = .encrypting i)
    (hl : s.payload.length ≤ Cipher.Siv.maxLength) (clock : Clock) :
    ∃ row, ((s.setClock clock).operate (·.encrypt · s.payload)).1 = .ok row ∧
      (s.step clock).phase = .decrypting i row ∧ (s.step clock).settings = s.settings ∧
      (s.step clock).UnderWay m ∧ (s.step clock).Holds m row := by
  rcases (h.setClock clock).encrypt s.payload with ⟨row, w, hop, hway, hopen⟩ | ⟨hlong, -⟩
  · refine ⟨row, by rw [hop], ?_, ?_, ?_, ?_⟩ <;> rw [step_encrypting_eq hp hop]
    · rfl
    · exact ⟨hway.collect.sound, hway.collect.faults, hway.collect.session⟩
    · exact hopen
  · exact absurd hl (Nat.not_le.2 hlong)

/-- **Opening** is followed by the next round trip, if there is one. -/
lemma UnderWay.step_decrypting (h : s.UnderWay m) {i : Nat} {row : Bytes}
    (hp : s.phase = .decrypting i row) (hopen : s.Holds m row) (clock : Clock) :
    ((s.setClock clock).operate (·.decrypt · row)).1 = .ok s.payload ∧
      ∃ s' : State, s.step clock = s'.proceed (i + 1) ∧ s'.settings = s.settings ∧
        s'.UnderWay m := by
  obtain ⟨w, hop, hway⟩ := (h.setClock clock).decrypt row
  rw [show (s.setClock clock).world.environment.store.openRow m (s.setClock clock).partition row =
    .ok s.payload from hopen] at hop
  refine ⟨by rw [hop], _, step_decrypting_eq hp hop, rfl, ?_⟩
  exact ⟨hway.collect.sound, hway.collect.faults, hway.collect.session⟩

lemma proceed_of_le {i : Nat} (h : i ≤ s.settings.iterations.toNat) :
    s.proceed i = { s with phase := .encrypting i } := if_pos h

lemma outcome?_proceed {i : Nat} (h : ¬ i ≤ s.settings.iterations.toNat) :
    (s.proceed i).outcome? = some (.ok ()) := by
  unfold proceed
  rw [if_neg h]
  rfl

end State

/-! ### A whole trial -/

variable {settings : Settings} {client : RegionKey → RegionClient} {clocks : Nat → Clock}
  {random : Random}

/-- The trial after at most so many operations. -/
def progress (settings : Settings) (client : RegionKey → RegionClient) (clocks : Nat → Clock)
    (random : Random) (n : Nat) : State :=
  advance clocks 1 n (start settings client (clocks 0) random)

lemma advance_of_ended {s : State} {outcome : Except Fault Unit} (h : s.outcome? = some outcome)
    (reading n : Nat) : advance clocks reading n s = s := by
  cases n with
  | zero => rfl
  | succ n =>
    unfold outcome? at h
    cases hp : s.phase with
    | ended outcome => simp only [advance, hp]
    | encrypting i => simp [hp] at h
    | decrypting i row => simp [hp] at h

lemma advance_of_going {s : State} (h : s.outcome? = none) (reading n : Nat) :
    advance clocks reading (n + 1) s =
      advance clocks (reading + 1) n (s.step (clocks reading)) := by
  unfold outcome? at h
  cases hp : s.phase with
  | ended outcome => simp [hp] at h
  | encrypting i => simp only [advance, hp]
  | decrypting i row => simp only [advance, hp]

/-- A trial that has not ended takes one more step. -/
lemma advance_succ {reading n : Nat} {s : State}
    (h : (advance clocks reading n s).outcome? = none) :
    advance clocks reading (n + 1) s =
      (advance clocks reading n s).step (clocks (reading + n)) := by
  induction n generalizing reading s with
  | zero => exact advance_of_going h reading 0
  | succ n ih =>
    cases hs : s.outcome? with
    | some outcome =>
      rw [advance_of_ended hs, hs] at h
      cases h
    | none =>
      have hreading : reading + 1 + n = reading + (n + 1) := by omega
      rw [advance_of_going hs reading n] at h ⊢
      rw [advance_of_going hs reading (n + 1), ih h, hreading]

/-- With a fixed master key, the trial starts with a session under way. -/
lemma start_underWay (h : settings.check = .ok ()) (hs : settings.masterKeySource = .fixed)
    (client : RegionKey → RegionClient) (clock : Clock) (random : Random) :
    (∃ m, (start settings client clock random).UnderWay m) ∧
      (start settings client clock random).settings = settings ∧
      (start settings client clock random).phase = .encrypting 1 := by
  obtain ⟨m, hservice⟩ := keyService_of_fixed h hs client clock.wall
  obtain ⟨w, hfactory, hadd⟩ := factory_of_keyService h hservice random
  obtain ⟨-, w', w'', -, hfactory', hsession⟩ := set_up_of_check h client clock random
  obtain rfl : w = w' := Except.ok.inj (hfactory.symm.trans hfactory')
  have hw : w.Sound m := (World.sound_start m none clock random).addFactory hadd
  obtain ⟨sessions, hfactories, -⟩ := World.addFactory_eq_ok hadd
  obtain ⟨hsound, htidies, hopened⟩ := hw.session hsession
  obtain ⟨f, engine, hf, hengine, hpartition⟩ := hopened 0 rfl
  obtain rfl : f =
      ⟨settings.product, settings.service, settings.policy, 0, 0, sessions, false⟩ := by
    rw [hfactories] at hf
    exact (Option.some.inj hf).symm
  have hfaults : w''.environment.faults = .none := by
    have hleaves := htidies.environment.faults
    rw [hfactories] at hleaves
    exact hleaves.eq_none
  have hone : 1 ≤ settings.iterations.toNat := (Settings.accepted_of_check h).iterations
  have hstart : ∃ log, start settings client clock random =
      ({ settings, world := w'', session := 0, log, phase := .encrypting 1 } : State).collect := by
    unfold start prepare
    rw [hs]
    dsimp only
    rw [hfactory]
    dsimp only
    rw [hsession]
    dsimp only
    rw [proceed_of_le hone]
    exact ⟨_, rfl⟩
  obtain ⟨log, hstart⟩ := hstart
  rw [hstart]
  refine ⟨⟨m, UnderWay.collect ⟨hsound, hfaults, engine, hengine, ?_⟩⟩, rfl, rfl⟩
  rw [hpartition, hfactories]
  rfl

/-- The trial is about to make the round trip after so many others. -/
structure State.AtTrip (settings : Settings) (i : Nat) (s : State) : Prop where
  settings : s.settings = settings
  phase : s.phase = .encrypting (i + 1)
  underWay : ∃ m, s.UnderWay m

lemma State.outcome?_encrypting {s : State} {i : Nat} (h : s.phase = .encrypting i) :
    s.outcome? = none := by
  unfold outcome?
  rw [h]

lemma State.outcome?_decrypting {s : State} {i : Nat} {row : Bytes}
    (h : s.phase = .decrypting i row) : s.outcome? = none := by
  unfold outcome?
  rw [h]

lemma progress_succ {n : Nat} (h : (progress settings client clocks random n).outcome? = none) :
    progress settings client clocks random (n + 1) =
      (progress settings client clocks random n).step (clocks (n + 1)) := by
  have hnext := advance_succ h
  rwa [Nat.add_comm 1 n] at hnext

/-- The answers of a round trip, and what comes after it. -/
structure RoundTrip (settings : Settings) (client : RegionKey → RegionClient)
    (clocks : Nat → Clock) (random : Random) (i : Nat) : Prop where
  seals : (progress settings client clocks random (2 * i)).phase = .encrypting (i + 1)
  opens : ∃ row,
    (((progress settings client clocks random (2 * i)).setClock (clocks (2 * i + 1))).operate
      (·.encrypt · (Json.utf8Bytes settings.payload))).1 = .ok row ∧
    (progress settings client clocks random (2 * i + 1)).phase = .decrypting (i + 1) row ∧
    (((progress settings client clocks random (2 * i + 1)).setClock (clocks (2 * i + 2))).operate
      (·.decrypt · row)).1 = .ok (Json.utf8Bytes settings.payload)

/-- **One round trip.** -/
lemma State.AtTrip.roundTrip {i : Nat}
    (h : (progress settings client clocks random (2 * i)).AtTrip settings i)
    (hl : (Json.utf8Bytes settings.payload).length ≤ Cipher.Siv.maxLength) :
    RoundTrip settings client clocks random i ∧
      ∃ s' : State, progress settings client clocks random (2 * (i + 1)) = s'.proceed (i + 2) ∧
        s'.settings = settings ∧ ∃ m, s'.UnderWay m := by
  obtain ⟨m, hway⟩ := h.underWay
  have hpayload := payload_eq h.settings
  obtain ⟨row, hseal, hphase, hsettings, hway', hholds⟩ :=
    hway.step_encrypting h.phase (hpayload ▸ hl) (clocks (2 * i + 1))
  rw [← progress_succ (outcome?_encrypting h.phase)] at hphase hsettings hway' hholds
  have hpayload' := payload_eq (hsettings.trans h.settings)
  obtain ⟨hopen, s', hstep, hsettings', hway''⟩ :=
    hway'.step_decrypting hphase hholds (clocks (2 * i + 2))
  rw [← progress_succ (outcome?_decrypting hphase)] at hstep
  rw [hpayload] at hseal
  rw [hpayload'] at hopen
  exact ⟨⟨h.phase, row, hseal, hphase, hopen⟩, s', hstep,
    hsettings'.trans (hsettings.trans h.settings), m, hway''⟩

section

variable (client : RegionKey → RegionClient) (clocks : Nat → Clock) (random : Random)

/-- **All round trips** are made, one after the other. -/
lemma atTrip_of_lt (h : settings.check = .ok ()) (hs : settings.masterKeySource = .fixed)
    (hl : (Json.utf8Bytes settings.payload).length ≤ Cipher.Siv.maxLength) {i : Nat}
    (hi : i < settings.iterations.toNat) :
    (progress settings client clocks random (2 * i)).AtTrip settings i := by
  induction i with
  | zero =>
    obtain ⟨hway, hsettings, hphase⟩ := start_underWay h hs client (clocks 0) random
    exact ⟨hsettings, hphase, hway⟩
  | succ i ih =>
    obtain ⟨-, s', hnext, hsettings, m, hway⟩ := (ih (Nat.lt_of_succ_lt hi)).roundTrip hl
    rw [hnext, proceed_of_le (by rw [hsettings]; exact hi)]
    exact ⟨hsettings, rfl, m, hway.sound, hway.faults, hway.session⟩

lemma outcome?_run (h : settings.check = .ok ()) (hs : settings.masterKeySource = .fixed)
    (hl : (Json.utf8Bytes settings.payload).length ≤ Cipher.Siv.maxLength) :
    (run settings client clocks random).outcome? = some (.ok ()) := by
  obtain ⟨i, hi⟩ : ∃ i, settings.iterations.toNat = i + 1 :=
    Nat.exists_eq_succ_of_ne_zero (Nat.ne_of_gt (Settings.accepted_of_check h).iterations)
  have htrip := atTrip_of_lt client clocks random h hs hl
    (show i < settings.iterations.toNat by omega)
  obtain ⟨-, s', hnext, hsettings, -⟩ := htrip.roundTrip hl
  show (progress settings client clocks random (2 * settings.iterations.toNat)).outcome? = _
  rw [hi, hnext]
  exact outcome?_proceed (by rw [hsettings]; omega)

/-- A payload that is too long for the cipher ends the trial at the first operation. -/
lemma outcome?_run_of_long (h : settings.check = .ok ())
    (hs : settings.masterKeySource = .fixed)
    (hl : Cipher.Siv.maxLength < (Json.utf8Bytes settings.payload).length) :
    (run settings client clocks random).outcome? =
      some (.error (.encrypt 1 (.ofCipher .aeadFailure))) := by
  obtain ⟨⟨m, hway⟩, hsettings, hphase⟩ := start_underWay h hs client (clocks 0) random
  obtain ⟨s, hstart⟩ : ∃ s, s = start settings client (clocks 0) random := ⟨_, rfl⟩
  rw [← hstart] at hway hsettings hphase
  have hpayload := payload_eq hsettings
  obtain ⟨n, hn⟩ : ∃ n, 2 * settings.iterations.toNat = n + 1 := by
    have hpos := (Settings.accepted_of_check h).iterations
    exact ⟨2 * settings.iterations.toNat - 1, by omega⟩
  rcases (hway.setClock (clocks 1)).encrypt s.payload with ⟨row, w, -, -, hopen⟩ | ⟨-, w, hop⟩
  · rw [← hpayload] at hl
    exact absurd (Store.length_le_of_openRow hopen) (Nat.not_le.2 hl)
  · have hended : (s.step (clocks 1)).outcome? =
        some (.error (.encrypt 1 (.ofCipher .aeadFailure))) := by
      rw [step_encrypting_eq hphase hop]
      rfl
    unfold run
    rw [← hstart, hn, advance_of_going (outcome?_encrypting hphase), advance_of_ended hended,
      hended]

end

/-! ### A whole process -/

/-- The wall clock shows no time before the epoch where it is read: at the start of so many round
trips, and whenever one seals. -/
def IsReadable (clocks : Nat → Clock) (iterations : Nat) : Prop :=
  (clocks 0).IsSinceEpoch ∧ ∀ i < iterations, (clocks (2 * i + 1)).IsSinceEpoch

namespace Execution

lemma advance_of_stopped {e : Execution} (h : e.hasStopped = true) (reading n : Nat) :
    advance clocks reading n e = e := by
  cases n with
  | zero => rfl
  | succ n =>
    have hexit : e.exitCode?.isSome := by
      unfold exitCode?
      rw [h]
      rfl
    unfold advance
    rw [if_pos hexit]

lemma advance_of_ended {s : State} {outcome : Except Fault Unit} (h : s.outcome? = some outcome)
    (reading n : Nat) : advance clocks reading n ⟨s, false⟩ = ⟨s, false⟩ := by
  cases n with
  | zero => rfl
  | succ n =>
    have hexit : (exitCode? ⟨s, false⟩).isSome := by
      unfold exitCode?
      simp [h]
    unfold advance
    rw [if_pos hexit]

lemma advance_of_going {s : State} (h : s.outcome? = none) (reading n : Nat) :
    advance clocks reading (n + 1) ⟨s, false⟩ =
      advance clocks (reading + 1) n (step ⟨s, false⟩ (clocks reading)) := by
  have hexit : ¬ (exitCode? ⟨s, false⟩).isSome := by
    unfold exitCode?
    simp [h]
  rw [advance, if_neg hexit]

lemma step_of_readable {s : State} {clock : Clock}
    (h : ¬ (s.ReadsWall ∧ ¬ clock.IsSinceEpoch)) :
    step ⟨s, false⟩ clock = ⟨s.step clock, false⟩ := by
  unfold step
  rw [if_neg Bool.false_ne_true, if_neg h]

lemma start_of_readable {clock : Clock} (h : clock.IsSinceEpoch) :
    start settings client clock random = ⟨Trial.start settings client clock random, false⟩ :=
  if_neg fun hstop => hstop.2 h

/-- **A process** goes on like its trial, as long as the wall clock can be read where it is. -/
lemma advance_eq {reading n : Nat} {s : State}
    (h : ∀ k < n, (Trial.advance clocks reading k s).ReadsWall →
      (clocks (reading + k)).IsSinceEpoch) :
    advance clocks reading n ⟨s, false⟩ = ⟨Trial.advance clocks reading n s, false⟩ := by
  induction n generalizing reading s with
  | zero => rfl
  | succ n ih =>
    cases hs : s.outcome? with
    | some outcome => rw [advance_of_ended hs, Trial.advance_of_ended hs]
    | none =>
      have hnow : ¬ (s.ReadsWall ∧ ¬ (clocks reading).IsSinceEpoch) :=
        fun hnow => hnow.2 (h 0 (Nat.succ_pos n) hnow.1)
      rw [advance_of_going hs, Trial.advance_of_going hs, step_of_readable hnow]
      refine ih fun k hk hreads => ?_
      rw [← Trial.advance_of_going hs] at hreads
      have hlater := h (k + 1) (Nat.succ_lt_succ hk) hreads
      rwa [show reading + (k + 1) = reading + 1 + k by omega] at hlater

/-- A process stops where its trial would read a wall clock that cannot be read. -/
lemma hasStopped_advance {reading n k : Nat} {s : State} (hk : k < n)
    (hreads : (Trial.advance clocks reading k s).ReadsWall)
    (hclock : ¬ (clocks (reading + k)).IsSinceEpoch) :
    (advance clocks reading n ⟨s, false⟩).hasStopped = true := by
  induction n generalizing reading k s with
  | zero => exact absurd hk (Nat.not_lt_zero k)
  | succ n ih =>
    cases hs : s.outcome? with
    | some outcome =>
      rw [Trial.advance_of_ended hs] at hreads
      unfold State.ReadsWall at hreads
      unfold State.outcome? at hs
      split at hreads
      · next hphase =>
        rw [hphase] at hs
        cases hs
      · exact hreads.elim
    | none =>
      rw [advance_of_going hs]
      by_cases hnow : s.ReadsWall ∧ ¬ (clocks reading).IsSinceEpoch
      · have hstep : (step ⟨s, false⟩ (clocks reading)).hasStopped = true := by
          unfold step
          rw [if_neg Bool.false_ne_true, if_pos hnow]
        rw [advance_of_stopped hstep]
        exact hstep
      · rw [step_of_readable hnow]
        cases k with
        | zero => exact absurd ⟨hreads, hclock⟩ hnow
        | succ k =>
          rw [Trial.advance_of_going hs] at hreads
          refine ih (Nat.lt_of_succ_lt_succ hk) hreads ?_
          rwa [show reading + 1 + k = reading + (k + 1) by omega]

/-- **The exit code** says whether the wall clock could be read. -/
lemma exitCode?_run (client : RegionKey → RegionClient) (clocks : Nat → Clock) (random : Random)
    (h : settings.check = .ok ()) (hs : settings.masterKeySource = .fixed)
    (hl : (Json.utf8Bytes settings.payload).length ≤ Cipher.Siv.maxLength) :
    (IsReadable clocks settings.iterations.toNat →
      run settings client clocks random = ⟨Trial.run settings client clocks random, false⟩ ∧
      (run settings client clocks random).exitCode? = some 0) ∧
    (¬ IsReadable clocks settings.iterations.toNat →
      (run settings client clocks random).exitCode? = some stopCode) := by
  have htrip : ∀ i < settings.iterations.toNat,
      RoundTrip settings client clocks random i :=
    fun i hi => ((atTrip_of_lt client clocks random h hs hl hi).roundTrip hl).1
  refine ⟨fun hread => ?_, fun hunread => ?_⟩
  · have hrun : run settings client clocks random =
        ⟨Trial.run settings client clocks random, false⟩ := by
      unfold run
      rw [start_of_readable hread.1]
      refine advance_eq fun k hk hreads => ?_
      obtain ⟨i, rfl | rfl⟩ : ∃ i, k = 2 * i ∨ k = 2 * i + 1 := ⟨k / 2, by omega⟩
      · rw [Nat.add_comm]
        exact hread.2 i (by omega)
      · obtain ⟨-, row, -, hphase, -⟩ := htrip i (by omega)
        replace hreads : (progress settings client clocks random (2 * i + 1)).ReadsWall := hreads
        unfold State.ReadsWall at hreads
        rw [hphase] at hreads
        exact hreads.elim
    refine ⟨hrun, ?_⟩
    rw [hrun]
    unfold exitCode?
    simp [outcome?_run client clocks random h hs hl]
  · have hstopped : (run settings client clocks random).hasStopped = true := by
      by_cases hclock : (clocks 0).IsSinceEpoch
      · obtain ⟨i, hi, hlater⟩ : ∃ i, i < settings.iterations.toNat ∧
            ¬ (clocks (2 * i + 1)).IsSinceEpoch := by
          by_contra hall
          refine hunread ⟨hclock, fun i hi => ?_⟩
          by_contra hlater
          exact hall ⟨i, hi, hlater⟩
        unfold run
        rw [start_of_readable hclock]
        refine hasStopped_advance (k := 2 * i) (by omega) ?_ (by rwa [Nat.add_comm])
        show (progress settings client clocks random (2 * i)).ReadsWall
        unfold State.ReadsWall
        rw [(htrip i hi).seals]
        trivial
      · have hstart : start settings client (clocks 0) random =
            ⟨prepare settings (clocks 0) random, true⟩ := if_pos ⟨hs, hclock⟩
        unfold run
        rw [hstart, advance_of_stopped rfl]
    unfold exitCode?
    rw [if_pos hstopped]

end Execution

/-- **Accepted settings run to completion.** Whatever the clocks and the random stream: the key
management service and the factory are built and the session is opened. With a fixed master key,
every round trip is made, each sealing the payload and opening it again, and the trial succeeds;
only a payload that is too long for the cipher is refused, by the first operation. The process does
the same and exits with 0, unless the wall clock shows a time before the epoch where it is read: no
process can read that, and it stops. -/
theorem accepted_settings_run {settings : Settings} (h : settings.check = .ok ())
    (client : RegionKey → RegionClient) (clocks : Nat → Clock) (random : Random) :
    (∃ service w w', keyService settings client (clocks 0).wall = .ok service ∧
      factory settings client (clocks 0) random = .ok w ∧
      w.session 0 settings.partition = some (.ok 0, w')) ∧
    (settings.masterKeySource = .fixed →
      ((Json.utf8Bytes settings.payload).length ≤ Cipher.Siv.maxLength →
        (∀ i < settings.iterations.toNat, RoundTrip settings client clocks random i) ∧
        (run settings client clocks random).outcome? = some (.ok ()) ∧
        (IsReadable clocks settings.iterations.toNat →
          Execution.run settings client clocks random =
            ⟨run settings client clocks random, false⟩ ∧
          (Execution.run settings client clocks random).exitCode? = some 0) ∧
        (¬ IsReadable clocks settings.iterations.toNat →
          (Execution.run settings client clocks random).exitCode? = some stopCode)) ∧
      (Cipher.Siv.maxLength < (Json.utf8Bytes settings.payload).length →
        (run settings client clocks random).outcome? =
          some (.error (.encrypt 1 (.ofCipher .aeadFailure))))) := by
  refine ⟨set_up_of_check h client (clocks 0) random, fun hs => ⟨fun hl => ?_, fun hl => ?_⟩⟩
  · have hexit := Execution.exitCode?_run client clocks random h hs hl
    exact ⟨fun i hi => ((atTrip_of_lt client clocks random h hs hl hi).roundTrip hl).1,
      outcome?_run client clocks random h hs hl, hexit.1, hexit.2⟩
  · exact outcome?_run_of_long client clocks random h hs hl

/-- The settings that no variables give. -/
def standard : Settings where
  service := "reference_app"
  product := "productId"
  partition := "partitionId-1"
  payload := "mysupersecretpayload"
  iterations := 1
  masterKeySource := .fixed
  masterKey := "thisIsAStaticMasterKeyForTesting"
  regionKeys := none
  preferredRegion := none
  expirationDays := 90
  revokeCheckMinutes := 60
  cachesSystemKeys := true
  cachesIntermediateKeys := true
  cachesSessions := false
  rotation := .inline
  logLevel := "info"
  exportEndpoint := none

/-- With the clocks at the epoch. -/
theorem standard_runs :
    standard.check = .ok () ∧ standard.masterKeySource = .fixed ∧
      (Json.utf8Bytes standard.payload).length ≤ Cipher.Siv.maxLength ∧
      (Execution.run standard (fun _ => .unreachable) (fun _ => .epoch)
        (.ofSeed 0)).exitCode? = some 0 := by
  have hcheck : standard.check = .ok () := rfl
  have hl : (Json.utf8Bytes standard.payload).length ≤ Cipher.Siv.maxLength := by decide
  have hepoch : Clock.epoch.IsSinceEpoch := by decide
  have hread : IsReadable (fun _ => .epoch) standard.iterations.toNat :=
    ⟨hepoch, fun _ _ => hepoch⟩
  obtain ⟨-, hfixed⟩ := accepted_settings_run hcheck (fun _ => .unreachable) (fun _ => .epoch)
    (.ofSeed 0)
  obtain ⟨-, -, hexit, -⟩ := (hfixed rfl).1 hl
  exact ⟨hcheck, rfl, hl, (hexit hread).2⟩

/-- With the wall clock one second before the epoch. -/
theorem standard_stops_before_epoch :
    Settings.ofVariables [] = .ok standard ∧ standard.check = .ok () ∧
      standard.masterKeySource = .fixed ∧
      (Execution.run standard (fun _ => .unreachable)
        (fun _ => .start ⟨-1000000000, by decide, by decide⟩) (.ofSeed 1700)).exitCode? =
          some 101 := ⟨rfl, rfl, rfl, rfl⟩

end Trial

end Envelope
