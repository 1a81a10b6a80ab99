import Envelope.Proofs.Run

/-!
Turns: what happens to a world, beside what is asked of it.

Calls may fail by a plan that is made for them, and another process may append records that it has
wrapped as an engine does. Neither takes away a record that a cache relies on, so a world stays
sound through any of it.
-/

namespace Envelope

/-- The record may be appended under the id: it opens, an intermediate one through its parent. -/
inductive Store.Admits (s : Store) (m : Key) (id : String) (r : KeyRecord) : Prop where
  | system (k : Key) (isSystem : IsSystemId id) (parent : r.parent = none)
      (opens : r.openWith m = .ok k)
  | intermediate (p : KeyMeta) (outer k : Key) (isIntermediate : IsIntermediateId id)
      (parent : r.parent = some p) (isSystem : IsSystemId p.keyId)
      (found : s.systemKey m p = .ok outer) (opens : r.openWith outer = .ok k)

lemma Store.Sound.insert {s : Store} {m : Key} {id : String} {r : KeyRecord} (h : s.Sound m)
    (ha : s.Admits m id r) : (s.insert id r.created.time r).2.Sound m := by
  cases ha with
  | system k isSystem parent opens => exact h.insert_system isSystem parent opens
  | intermediate p outer k isIntermediate parent isSystem found opens =>
    exact h.insert_intermediate isIntermediate parent isSystem found opens

/-- The master key can wrap any key, and the record of the key may then be appended. -/
lemma Store.exists_admits_system (s : Store) (m : Key) {id : String} (hid : IsSystemId id)
    (inner : Key) (created : Stamp) :
    ∃ r : KeyRecord, r.created = created ∧ s.Admits m id r := by
  obtain ⟨wrapped, hwraps⟩ := m.exists_wraps inner
  exact ⟨.system created wrapped (some false), rfl, .system (inner.restamp created false) hid rfl
    (KeyRecord.openWith_of_decrypt (KeyRecord.keyBytes_system ..) hwraps.decrypt rfl rfl)⟩

/-- A system key of the store can wrap any key, and the record of the key may then be appended. -/
lemma Store.exists_admits {s : Store} {m outer : Key} {p : KeyMeta} {id : String}
    (hid : IsIntermediateId id) (hp : IsSystemId p.keyId) (ho : s.systemKey m p = .ok outer)
    (inner : Key) (created : Stamp) :
    ∃ wrapped, s.Admits m id (.intermediate created wrapped (some false) p) := by
  obtain ⟨wrapped, hwraps⟩ := outer.exists_wraps inner
  exact ⟨wrapped, .intermediate p outer (inner.restamp created false) hid rfl hp ho
    (KeyRecord.openWith_of_decrypt (KeyRecord.keyBytes_intermediate ..) hwraps.decrypt rfl rfl)⟩

/-- A request, a plan by which the next calls fail, or a record from another process. -/
inductive Turn where
  | request (q : Request)
  | plan (faults : Faults)
  | append (keyId : String) (r : KeyRecord)

/-- The clock after a turn. -/
def Turn.tick (c : Clock) : Turn → Clock
  | .request q => q.tick c
  | .plan _ | .append _ _ => c

namespace World

/-- The world after a turn. -/
def take (w : World) : Turn → World
  | .request q => w.apply q
  | .plan faults => { w with environment := { w.environment with faults } }
  | .append keyId r => (w.putRecord keyId r.created.time r).2

/-- The world after turns of any kind. -/
def play (w : World) (turns : List Turn) : World := turns.foldl take w

@[simp] lemma play_nil (w : World) : w.play [] = w := rfl

@[simp] lemma play_cons (w : World) (t : Turn) (rest : List Turn) :
    w.play (t :: rest) = (w.take t).play rest := rfl

lemma play_append (w : World) (a b : List Turn) : w.play (a ++ b) = (w.play a).play b := by
  simp [play, List.foldl_append]

/-- Turns that are requests make a run. -/
lemma play_map_request (w : World) (requests : List Request) :
    w.play (requests.map .request) = w.run requests := by
  simp [play, run, List.foldl_map, take]

end World

/-- Planned failures are errors without effect, and an appended record opens. -/
def Turn.IsFair (m : Key) (w : World) : Turn → Prop
  | .request _ => True
  | .plan faults => faults.Failing
  | .append keyId r => w.environment.store.Admits m keyId r

/-- Every turn is fair when it is taken. -/
def Fair (m : Key) : World → List Turn → Prop
  | _, [] => True
  | w, t :: rest => t.IsFair m w ∧ Fair m (w.take t) rest

lemma fair_append {m : Key} {w : World} {a b : List Turn} :
    Fair m w (a ++ b) ↔ Fair m w a ∧ Fair m (w.play a) b := by
  induction a generalizing w with
  | nil => simp [Fair]
  | cons t rest ih => simp [Fair, ih, and_assoc]

lemma fair_map_request (m : Key) (w : World) (requests : List Request) :
    Fair m w (requests.map .request) := by
  induction requests generalizing w with
  | nil => trivial
  | cons q rest ih => exact ⟨trivial, ih _⟩

namespace World

variable {m : Key} {w : World} {t : Turn}

/-- **One fair turn** keeps a world sound. -/
lemma Sound.take (h : w.Sound m) (ht : t.IsFair m w) : (w.take t).Sound m := by
  cases t with
  | request q => exact (h.apply q).1
  | plan faults => exact h.withEnvironment ht h.store (.refl _)
  | append keyId r =>
    exact h.withEnvironment h.faults (h.store.insert ht) (Store.extends_insert _ _ _ _).grows

lemma Sound.clock_take (h : w.Sound m) (t : Turn) :
    (w.take t).environment.clock = t.tick w.environment.clock := by
  cases t with
  | request q => exact (h.apply q).2.clock
  | plan faults => rfl
  | append keyId r => rfl

/-- After a fair turn, time has gone by and the store has grown. -/
lemma Sound.take_mono (h : w.Sound m) (t : Turn) :
    w.environment.clock.elapsed ≤ (w.take t).environment.clock.elapsed ∧
      w.environment.store.Grows (w.take t).environment.store := by
  cases t with
  | request q =>
    have hf := (h.apply q).2.follows h
    exact ⟨hf.elapsed, hf.store⟩
  | plan faults => exact ⟨Nat.le_refl _, .refl _⟩
  | append keyId r => exact ⟨Nat.le_refl _, (Store.extends_insert _ _ _ _).grows⟩

/-- **Fair turns** keep a world sound, whatever they are and in whatever order. -/
theorem Sound.play (h : w.Sound m) {turns : List Turn} (ht : Fair m w turns) :
    (w.play turns).Sound m := by
  induction turns generalizing w with
  | nil => exact h
  | cons t rest ih => exact ih (h.take ht.1) ht.2

lemma Sound.clock_play (h : w.Sound m) {turns : List Turn} (ht : Fair m w turns) :
    (w.play turns).environment.clock = turns.foldl Turn.tick w.environment.clock := by
  induction turns generalizing w with
  | nil => rfl
  | cons t rest ih => rw [play_cons, ih (h.take ht.1) ht.2, h.clock_take, List.foldl_cons]

/-- **Fair turns** let time go by and the store grow. -/
theorem Sound.play_mono (h : w.Sound m) {turns : List Turn} (ht : Fair m w turns) :
    w.environment.clock.elapsed ≤ (w.play turns).environment.clock.elapsed ∧
      w.environment.store.Grows (w.play turns).environment.store := by
  induction turns generalizing w with
  | nil => exact ⟨Nat.le_refl _, .refl _⟩
  | cons t rest ih =>
    obtain ⟨helapsed, hgrows⟩ := h.take_mono t
    obtain ⟨helapsed', hgrows'⟩ := ih (h.take ht.1) ht.2
    exact ⟨Nat.le_trans helapsed helapsed', hgrows.trans hgrows'⟩

end World

end Envelope
