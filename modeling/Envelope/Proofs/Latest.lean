import Envelope.Proofs.Parentage
import Envelope.Proofs.Steady
import Envelope.Proofs.Turns

/-!
The latest intermediate key.

Creation times are cut down to a step and clocks move forward, so no intermediate record is dated
ahead of the present step, as long as no other process appends one that is. The key that a write
resolves is then that of the latest record: one that it adds is dated at the present step, and one
that it finds is the latest by the look-up itself.
-/

namespace Envelope

/-! ### The latest intermediate record -/

/-- The latest record of the key id was made then. -/
def Store.IsLatest (s : Store) (q : KeyMeta) : Prop :=
  ∃ r, s.latest? q.keyId = some r ∧ r.created = q.created

lemma Store.IsLatest.le {s : Store} {q : KeyMeta} (h : s.IsLatest q) (hd : s.Dated) {t : Time}
    {r : KeyRecord} (hl : s.load? q.keyId t = some r) : t ≤ q.created.time := by
  obtain ⟨r', hlatest, hcreated⟩ := h
  exact hcreated ▸ (hd.latest? hlatest).2 t r hl

/-- **The newest intermediate key** is that of the latest record, once a write has resolved it, if
no record is dated ahead of the present step. -/
theorem Engine.NewestIntermediateKey.isLatest {e : Engine} {w : Workspace} {s' : Store} {k : Key}
    (h : e.NewestIntermediateKey w s' k)
    (hdated : ∀ {t r}, w.environment.store.load? e.partition.intermediateKeyId t = some r →
      t ≤ (e.policy.intermediateStamp w.environment.clock.wall).time) :
    s'.IsLatest ⟨e.partition.intermediateKeyId, k.created⟩ := by
  cases h with
  | latest r p latest permits parent parentPermits created same =>
    exact ⟨r, same ▸ latest, created.symm⟩
  | added s systemKey wrapped refuses free used created adds =>
    have hself := used.load?_insert (created ▸ free) (.intermediate k.created wrapped (some false)
      ⟨e.partition.systemKeyId, systemKey.created⟩)
    rw [← adds] at hself
    obtain ⟨r, hlatest⟩ := Store.exists_latest? hself
    obtain ⟨t, hl, hmax⟩ := Store.latest?_eq_some hlatest
    have hle : t ≤ k.created.time := by
      rw [adds] at hl
      rcases Store.load?_of_insert hl with hl | ⟨-, rfl, -⟩
      · rw [used.addsSystem.load? e.intermediateKeyId_ne] at hl
        exact created ▸ hdated hl
      · exact Int.le_refl _
    have ht : t = k.created.time := Time.ext (Int.le_antisymm hle (hmax _ _ hself))
    rw [ht, hself] at hl
    cases hl
    exact ⟨_, hlatest, rfl⟩
  | reloaded r systemKey refuses taken used latest created =>
    exact ⟨r, (used.addsSystem.latest? e.intermediateKeyId_ne).trans latest, created.symm⟩

/-! ### Steady turns -/

/-- The request is steady, and an appended intermediate record is not dated ahead of the present
step. -/
def Turn.IsSteady (p : Policy) (clock : Clock) : Turn → Prop
  | .request q => q.IsSteady p clock
  | .plan _ => True
  | .append keyId r =>
    IsIntermediateId keyId → r.created.time ≤ (p.intermediateStamp clock.wall).time

/-- Every turn is steady when it is taken. -/
def SteadyTurns (p : Policy) : Clock → List Turn → Prop
  | _, [] => True
  | c, t :: rest => t.IsSteady p c ∧ SteadyTurns p (t.tick c) rest

lemma steadyTurns_append {p : Policy} {c : Clock} {a b : List Turn} :
    SteadyTurns p c (a ++ b) ↔ SteadyTurns p c a ∧ SteadyTurns p (a.foldl Turn.tick c) b := by
  induction a generalizing c with
  | nil => simp [SteadyTurns]
  | cons t rest ih => simp [SteadyTurns, ih, and_assoc]

lemma steadyTurns_map_request {p : Policy} {c : Clock} {requests : List Request} :
    SteadyTurns p c (requests.map .request) ↔ Steady p c requests := by
  induction requests generalizing c with
  | nil => rfl
  | cons q rest ih => exact and_congr_right fun _ => ih

namespace World

variable {m : Key} {p : Policy} {w : World}

/-- What holds all along steady turns. -/
structure Paced (m : Key) (p : Policy) (w : World) : Prop where
  sound : w.Sound m
  uses : w.Uses p
  /-- No intermediate record is dated ahead of the present step. -/
  dated : ∀ {id t r}, IsIntermediateId id → w.environment.store.load? id t = some r →
    t ≤ (p.intermediateStamp w.environment.clock.wall).time

lemma paced_start (m : Key) (suffix : Option String) (clock : Clock) (random : Random)
    (p : Policy) : Paced m p (start m suffix clock random) :=
  ⟨sound_start m suffix clock random, nofun, fun _ h => nomatch h⟩

lemma Paced.policy (h : Paced m p w) {n : Nat} {s : EngineState} {f : Factory} {c : KeyCache}
    (hs : Seat m w n s f c) : s.policy = p :=
  hs.isOf.policy.trans (h.uses hs.factory)

/-- In a paced world, a write resolves the latest intermediate key. -/
lemma Paced.isLatest (h : Paced m p w) {n : Nat} {s : EngineState} {f : Factory} {c : KeyCache}
    (hs : Seat m w n s f c) {s' : Store} {k : Key}
    (hn : (s.engine m).NewestIntermediateKey (w.workspace s c) s' k) :
    s'.IsLatest ⟨s.partition.intermediateKeyId, k.created⟩ := by
  refine hn.isLatest fun hl => ?_
  have hpolicy : (s.engine m).policy = p := h.policy hs
  rw [hpolicy]
  exact h.dated s.partition.isIntermediateId_intermediateKeyId hl

/-- **One steady request** keeps a world paced. -/
lemma Paced.apply (h : Paced m p w) {q : Request} (hq : q.IsSteady p w.environment.clock) :
    Paced m p (w.apply q) := by
  obtain ⟨hsound, hstep⟩ := h.sound.apply q
  obtain ⟨huses, hin⟩ := hstep.steady hq h.uses
  have hwall := (hstep.follows h.sound).wall hin
  refine ⟨hsound, huses, fun {id t r} hid hl => ?_⟩
  refine Int.le_trans ?_ (Time.floorTo_mono hwall p.intermediatePrecision)
  obtain ⟨parent, outer, k, hparent, -⟩ := hsound.store.intermediate hid hl
  rcases hstep.of_isUnder ⟨r, hl, hparent⟩ with ⟨r₀, hl₀, -⟩ | ⟨n, s, f, c, s', k', hs, -, -, rfl⟩
  · exact h.dated hid hl₀
  · rw [h.policy hs]
    exact Int.le_refl _

/-- **One steady turn** keeps a world paced. -/
lemma Paced.take (h : Paced m p w) {t : Turn} (hfair : t.IsFair m w)
    (hsteady : t.IsSteady p w.environment.clock) : Paced m p (w.take t) := by
  cases t with
  | request q => exact h.apply hsteady
  | plan faults => exact ⟨h.sound.take (t := .plan faults) hfair, h.uses, h.dated⟩
  | append keyId r =>
    refine ⟨h.sound.take (t := .append keyId r) hfair, h.uses, fun {id t r'} hid hl => ?_⟩
    rcases Store.load?_of_insert hl with hl | ⟨rfl, rfl, -⟩
    · exact h.dated hid hl
    · exact hsteady hid

/-- **Steady turns** keep a world paced. -/
theorem Paced.play (h : Paced m p w) {turns : List Turn} (hfair : Fair m w turns)
    (hsteady : SteadyTurns p w.environment.clock turns) : Paced m p (w.play turns) := by
  induction turns generalizing w with
  | nil => exact h
  | cons t rest ih =>
    exact ih (h.take hfair.1 hsteady.1) hfair.2 (h.sound.clock_take t ▸ hsteady.2)

end World

end Envelope
