import Envelope.Proofs.FirstWrite

/-!
Availability: in every run, every session seals, and what was sealed opens ever after.

Nothing in a run can take a key away from the store or change what it opens to, so the sessions of
a partition read each other's records, whatever else is asked in between.
-/

namespace Envelope.World

variable {m : Key} {w w' : World}

/-- The session of the number is there and belongs to the partition. -/
def Session (w : World) (n : Nat) (p : Partition) : Prop :=
  ∃ s : EngineState, w.engines[n]? = some s ∧ s.partition = p

lemma Precedes.session (h : w.Precedes w') {n : Nat} {p : Partition} (hs : w.Session n p) :
    w'.Session n p := by
  obtain ⟨s, hs, hp⟩ := hs
  obtain ⟨s', hs', hseat⟩ := h.engine hs
  exact ⟨s', hs', hseat.partition.trans hp⟩

/-- A session opens what the store says, if no failure is planned. -/
lemma Sound.decrypt_eq (h : w.Sound m) (hf : w.environment.faults = .none) {n : Nat}
    {p : Partition} (hs : w.Session n p) (text : Bytes) :
    (w.decrypt n text).map Prod.fst = some (w.environment.store.openRow m p text) := by
  obtain ⟨s, hs, rfl⟩ := hs
  obtain ⟨f, c, hseat⟩ := h.seat hs
  exact (h.bench hseat).decrypt_eq hseat.sound.toCoherent hf text

/-- A session seals any payload that the cipher takes, if no failure is planned. -/
lemma Sound.encrypt_cases (h : w.Sound m) (hf : w.environment.faults = .none) {n : Nat}
    {p : Partition} (hs : w.Session n p) (payload : Bytes) :
    (∃ text, (w.encrypt n payload).map Prod.fst = some (.ok text) ∧
      (w.apply (.encrypt n payload)).environment.store.openRow m p text = .ok payload) ∨
    Cipher.Siv.maxLength < payload.length ∧
      (w.encrypt n payload).map Prod.fst = some (.error (.ofCipher .aeadFailure)) := by
  obtain ⟨s, hs, rfl⟩ := hs
  obtain ⟨f, c, hseat⟩ := h.seat hs
  refine ((h.bench hseat).encrypt_cases hseat.sound hf payload).imp_left ?_
  rintro ⟨text, v, hr, hsealed⟩
  rw [apply_encrypt hr, hr]
  cases hsealed with
  | record text k v writes named opens =>
    exact ⟨text, rfl, opens _ s.partition.accepts_intermediateKeyId⟩

/-- **Availability**: after any run from an empty store, a session that is opened is there for
good; it seals every payload that the cipher takes, and whatever is asked from then on, every
session of its partition opens the record to the payload. -/
theorem sessions_available (m : Key) (suffix : Option String) (clock : Clock) (random : Random)
    (requests : List Request) :
    let w := (start m suffix clock random).run requests
    (∀ factory id n, (w.session factory id).map Prod.fst = some (.ok n) →
      ∃ f, w.factories[factory]? = some f ∧ (w.apply (.openSession factory id)).Session n
        (.ofIds id f.service f.product suffix)) ∧
    ∀ n p, w.Session n p →
      (∀ later, (w.run later).Session n p) ∧
      ∀ payload,
        (∃ text, (w.encrypt n payload).map Prod.fst = some (.ok text) ∧
          ∀ later n', (w.run (.encrypt n payload :: later)).Session n' p →
            ((w.run (.encrypt n payload :: later)).decrypt n' text).map Prod.fst =
              some (.ok payload)) ∨
        Cipher.Siv.maxLength < payload.length ∧
          (w.encrypt n payload).map Prod.fst = some (.error (.ofCipher .aeadFailure)) := by
  intro w
  obtain ⟨hw, hstart⟩ := (sound_start m suffix clock random).run requests
  have hsuffix : w.environment.store.suffix = suffix := hstart.store.suffix
  have hfaults : w.environment.faults = .none := faults_run m suffix clock random requests
  refine ⟨fun factory id n hn => ?_, fun n p hs => ⟨fun later => ?_, fun payload => ?_⟩⟩
  · obtain ⟨⟨r, w'⟩, hr, rfl⟩ := Option.map_eq_some_iff.1 hn
    obtain ⟨-, -, hopen⟩ := hw.session hr
    obtain ⟨f, s, hf, hs, hp⟩ := hopen n rfl
    have happly : w.apply (.openSession factory id) = w' := by
      simp [apply, hr]
    exact ⟨f, hf, happly ▸ ⟨s, hs, hsuffix ▸ hp⟩⟩
  · exact (hw.run later).2.session hs
  · refine (hw.encrypt_cases hfaults hs payload).imp_left ?_
    rintro ⟨text, htext, hopen⟩
    refine ⟨text, htext, fun later n' hs' => ?_⟩
    obtain ⟨hsealed, hstep⟩ := hw.apply (.encrypt n payload)
    obtain ⟨hlater, hprecedes⟩ := hsealed.run later
    have hfaults' := ((hstep.follows hw).toPrecedes.trans hprecedes).faults
    rw [hfaults] at hfaults'
    rw [run_cons, hlater.decrypt_eq hfaults'.eq_none hs', hprecedes.store.openRow hopen]

/-- A record still opens when its key has expired and its factory has been disposed of. -/
theorem session_opens_after_disposal :
    let w := (start .zeros none .epoch (.ofSeed 0)).run
      (opening "product" "service" "partition" (.expiring 90))
    ∃ text, (w.encrypt 0 [104, 105]).map Prod.fst = some (.ok text) ∧
      ((w.run [.encrypt 0 [104, 105], .disposeFactory 0, .advance (.ofDays 100)]).decrypt 0
        text).map Prod.fst = some (.ok [104, 105]) := by
  intro w
  have hsession : w.Session 0 .given := by
    obtain ⟨-, hengines⟩ := @run_opening (.expiring 90) "product" "service" "partition" .zeros
      none .epoch (.ofSeed 0) (by decide) (by decide) (by decide) rfl
    have hengine : w.engines[0]? =
        some ⟨.given, .expiring 90, 0, 0, .empty (Policy.expiring 90).revokeCheck⟩ := by
      rw [hengines]
      rfl
    exact ⟨_, hengine, rfl⟩
  obtain ⟨-, hsessions⟩ := sessions_available .zeros none .epoch (.ofSeed 0)
    (opening "product" "service" "partition" (.expiring 90))
  obtain ⟨hlater, hseals⟩ := hsessions 0 .given hsession
  rcases hseals [104, 105] with ⟨text, htext, hopens⟩ | ⟨hlong, -⟩
  · exact ⟨text, htext, hopens [.disposeFactory 0, .advance (.ofDays 100)] 0 (hlater _)⟩
  · exact absurd hlong (by decide)

end Envelope.World
