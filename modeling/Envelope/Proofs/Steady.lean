import Envelope.Proofs.Run

/-!
Steady runs: one policy for all factories, and clocks that only move forward, together.

In a steady run the wall clock and the elapsed time differ by a constant, no record is dated later
than now and no cached key was put later than now.
-/

namespace Envelope

/-- Creation times are whole minutes, and cached keys are read again after so many minutes. -/
structure Policy.ChecksEvery (p : Policy) (minutes : UInt32) : Prop where
  systemPrecision : p.systemPrecision = .ofMinutes 1
  intermediatePrecision : p.intermediatePrecision = .ofMinutes 1
  revokeCheck : p.revokeCheck = .ofMinutes minutes

section ChecksEvery

variable {p : Policy} {minutes : UInt32}

lemma Policy.ChecksEvery.lt_systemStamp (h : p.ChecksEvery minutes) (now : Time) :
    now.nanos < (p.systemStamp now).time.nanos + 60000000000 := by
  unfold systemStamp
  rw [h.systemPrecision]
  exact now.lt_floorTo_minute

lemma Policy.ChecksEvery.lt_intermediateStamp (h : p.ChecksEvery minutes) (now : Time) :
    now.nanos < (p.intermediateStamp now).time.nanos + 60000000000 := by
  unfold intermediateStamp
  rw [h.intermediatePrecision]
  exact now.lt_floorTo_minute

end ChecksEvery

lemma Policy.ChecksEvery.expiring (days : UInt32) : (Policy.expiring days).ChecksEvery 60 :=
  ⟨rfl, rfl, rfl⟩

/-- The request keeps to the policy and moves the clocks at most forward, within the legal range. -/
def Request.IsSteady (p : Policy) (clock : Clock) : Request → Prop
  | .openFactory _ _ policy => policy = p
  | .advance d => (clock.wall.add? d).isSome
  | .setWall _ => False
  | _ => True

/-- Every request of a run is steady when it is made. -/
def Steady (p : Policy) : Clock → List Request → Prop
  | _, [] => True
  | c, q :: rest => q.IsSteady p c ∧ Steady p (q.tick c) rest

lemma steady_append {p : Policy} {c : Clock} {a b : List Request} :
    Steady p c (a ++ b) ↔ Steady p c a ∧ Steady p (a.foldl Request.tick c) b := by
  induction a generalizing c with
  | nil => simp [Steady]
  | cons q rest ih => simp [Steady, ih, and_assoc]

namespace World

variable {m : Key} {w w' : World} {p : Policy}

/-- Every factory follows the policy. -/
def Uses (w : World) (p : Policy) : Prop :=
  ∀ {i : Nat} {f : Factory}, w.factories[i]? = some f → f.policy = p

/-- As much time has gone by on both clocks. -/
def InStep (w w' : World) : Prop :=
  w'.environment.clock.wall.nanos - w.environment.clock.wall.nanos =
    (w'.environment.clock.elapsed : Int) - w.environment.clock.elapsed

/-- The elapsed time at an instant, by how far it lies back. -/
def elapsedAt (w : World) (t : Time) : Int :=
  w.environment.clock.elapsed - (w.environment.clock.wall.nanos - t.nanos)

lemma InStep.elapsedAt (h : w.InStep w') (t : Time) : w'.elapsedAt t = w.elapsedAt t := by
  unfold InStep at h
  unfold World.elapsedAt
  omega

/-- **One steady request** keeps the policy and the clocks in step. -/
lemma Step.steady {q : Request} (h : Step m w q w') (hq : q.IsSteady p w.environment.clock)
    (hu : w.Uses p) : w'.Uses p ∧ w.InStep w' := by
  have same : ∀ {w' : World}, w'.environment.clock = w.environment.clock → w.InStep w' := by
    intro w' hc
    unfold InStep
    rw [hc]
    omega
  cases h with
  | tidied q w' tidy tidies =>
    refine ⟨fun hl => ?_, same tidies.environment.clock⟩
    obtain ⟨f, hf, hs⟩ := tidies.factory hl
    exact hs.policy.trans (hu hf)
  | added product service policy w' adds =>
    obtain ⟨sessions, rfl, -⟩ := addFactory_eq_ok adds
    refine ⟨fun hl => ?_, same rfl⟩
    rcases getElem?_append_one hl with hl | ⟨-, rfl⟩
    · exact hu hl
    · exact hq
  | sealed i payload s f c r v seat answer result => exact ⟨hu, same result.evolves.clock⟩
  | opened i text s f c r v seat result =>
    exact ⟨hu, same (seat.sound.evolves_of_opened result).clock⟩
  | advanced d =>
    refine ⟨hu, ?_⟩
    obtain ⟨t, ht⟩ := Option.isSome_iff_exists.1 hq
    have hadd := ht
    unfold Time.add? Time.ofNanos? at hadd
    split at hadd
    · have hn := congrArg Time.nanos (Option.some.inj hadd)
      unfold InStep advance Clock.advance
      simp only [ht, Option.getD_some]
      simp only at hn
      omega
    · cases hadd
  | set now => exact hq.elim
  | revoked keyId created log => exact ⟨hu, same rfl⟩

lemma Precedes.wall (h : w.Precedes w') (hs : w.InStep w') :
    w.environment.clock.wall ≤ w'.environment.clock.wall := by
  have := h.elapsed
  unfold InStep at hs
  rw [Time.le_iff]
  omega

/-- Nothing is from the future: no record is dated later than now, no key was put later than
now. -/
structure Past (w : World) : Prop where
  record : ∀ {id t r}, w.environment.store.load? id t = some r → t ≤ w.environment.clock.wall
  system : ∀ {id t e}, w.HoldsSystem id t e → e.since ≤ w.environment.clock.elapsed
  intermediate : ∀ {i id t e}, w.HoldsIntermediate i id t e →
    e.since ≤ w.environment.clock.elapsed

lemma past_start (m : Key) (suffix : Option String) (clock : Clock) (random : Random) :
    (start m suffix clock random).Past where
  record h := nomatch h
  system h := by
    obtain ⟨j, f, c, h, -⟩ := h
    cases h
  intermediate h := by
    obtain ⟨s, h, -⟩ := h
    cases h

lemma Follows.past (h : Follows m w w') (hs : w.InStep w') (hp : w.Past) : w'.Past where
  record hl := by
    refine Int.le_trans ?_ (h.wall hs)
    rcases h.record hl with ⟨r₀, hl, -⟩ | hle
    · exact hp.record hl
    · exact hle
  system he := by
    refine Nat.le_trans ?_ h.elapsed
    rcases h.system he with he | ⟨hsince, -⟩
    · exact hp.system he
    · exact Nat.le_of_eq hsince
  intermediate he := by
    refine Nat.le_trans ?_ h.elapsed
    rcases h.intermediate he with he | ⟨hsince, -⟩
    · exact hp.intermediate he
    · exact Nat.le_of_eq hsince

lemma InStep.trans {w'' : World} (h : w.InStep w') (h' : w'.InStep w'') : w.InStep w'' := by
  unfold InStep at h h' ⊢
  omega

/-- What a session has cached is not handed out a period later. -/
lemma Past.get?_eq_none (h : w.Past) {i : Nat} {s : EngineState} (hs : w.engines[i]? = some s)
    {elapsed : Nat}
    (hlate : w.environment.clock.elapsed + s.intermediateKeys.revokeCheck.nanos ≤ elapsed)
    (t : Time) : s.intermediateKeys.get? elapsed t = none := by
  rw [Option.eq_none_iff_forall_not_mem]
  intro k hk
  obtain ⟨e, he, hfresh, -⟩ := KeyCache.get?_eq_some.1 hk
  have hsince := h.intermediate ⟨s, hs, rfl, he⟩
  unfold KeyCache.IsFresh at hfresh
  omega

/-- What holds all along a steady run. -/
structure OnTime (m : Key) (p : Policy) (w : World) : Prop where
  sound : w.Sound m
  uses : w.Uses p
  past : w.Past

lemma onTime_start (m : Key) (suffix : Option String) (clock : Clock) (random : Random)
    (p : Policy) : OnTime m p (start m suffix clock random) :=
  ⟨sound_start m suffix clock random, nofun, past_start m suffix clock random⟩

lemma OnTime.apply (h : OnTime m p w) {q : Request} (hq : q.IsSteady p w.environment.clock) :
    OnTime m p (w.apply q) ∧ w.InStep (w.apply q) := by
  obtain ⟨hsound, hstep⟩ := h.sound.apply q
  obtain ⟨huses, hin⟩ := hstep.steady hq h.uses
  exact ⟨⟨hsound, huses, (hstep.follows h.sound).past hin h.past⟩, hin⟩

section Seat

variable {minutes : UInt32} {n : Nat} {s : EngineState} {f : Factory} {c : KeyCache}

lemma OnTime.policy (h : OnTime m p w) (hs : Seat m w n s f c) : s.policy = p :=
  hs.isOf.policy.trans (h.uses hs.factory)

/-- The caches of a session check as often as the policy says. -/
lemma OnTime.revokeCheck (h : OnTime m p w) (hp : p.ChecksEvery minutes) (hs : Seat m w n s f c) :
    c.revokeCheck.nanos = minutes.toNat * 60000000000 ∧
      s.intermediateKeys.revokeCheck.nanos = minutes.toNat * 60000000000 := by
  rw [hs.revokeCheck, hs.isOf.revokeCheck, h.uses hs.factory, hp.revokeCheck,
    Duration.nanos_ofMinutes]
  exact ⟨rfl, rfl⟩

lemma OnTime.lt_systemStamp (h : OnTime m p w) (hp : p.ChecksEvery minutes)
    (hs : Seat m w n s f c) : w.environment.clock.wall.nanos <
      (s.policy.systemStamp w.environment.clock.wall).time.nanos + 60000000000 := by
  rw [h.policy hs]
  exact hp.lt_systemStamp _

lemma OnTime.lt_intermediateStamp (h : OnTime m p w) (hp : p.ChecksEvery minutes)
    (hs : Seat m w n s f c) : w.environment.clock.wall.nanos <
      (s.policy.intermediateStamp w.environment.clock.wall).time.nanos + 60000000000 := by
  rw [h.policy hs]
  exact hp.lt_intermediateStamp _

end Seat

/-- The requests after a steady one are steady. -/
lemma OnTime.steady_rest (h : OnTime m p w) {q : Request} {rest : List Request}
    (hs : Steady p w.environment.clock (q :: rest)) :
    Steady p (w.apply q).environment.clock rest := by
  rw [(h.sound.apply q).2.clock]
  exact hs.2

/-- **A steady run** stays on time, with the clocks in step. -/
theorem OnTime.run (h : OnTime m p w) {requests : List Request}
    (hs : Steady p w.environment.clock requests) :
    OnTime m p (w.run requests) ∧ w.InStep (w.run requests) := by
  induction requests generalizing w with
  | nil => exact ⟨h, by unfold InStep; simp⟩
  | cons q rest ih =>
    obtain ⟨hq, hin⟩ := h.apply hs.1
    obtain ⟨hr, hin'⟩ := ih hq (h.steady_rest hs)
    exact ⟨hr, hin.trans hin'⟩

/-- Anywhere in a steady run, the rest of it is steady too. -/
lemma onTime_of_append (m : Key) (suffix : Option String) {clock : Clock} (random : Random)
    {before after : List Request} (hs : Steady p clock (before ++ after)) :
    OnTime m p ((start m suffix clock random).run before) ∧
      Steady p ((start m suffix clock random).run before).environment.clock after := by
  obtain ⟨hbefore, hafter⟩ := steady_append.1 hs
  refine ⟨((onTime_start m suffix clock random p).run hbefore).1, ?_⟩
  rw [(sound_start m suffix clock random).clock_run]
  exact hafter

end World

end Envelope
