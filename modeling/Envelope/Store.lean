import Envelope.KeyRecord
import Envelope.Timeline

/-!
The store of key records: under each key id a timeline of records.

The view is `timeline`. Records are only added: an insert where a record is does nothing and says
so, and nothing but `revoke` changes a record.
-/

namespace Envelope

structure Store where
  /-- The suffix that ends the key ids of those who use the store. -/
  suffix : Option String
  series : List (String × Timeline KeyRecord)

namespace Store

def empty (suffix : Option String) : Store := ⟨suffix, []⟩

/-- The records of a key id. -/
def timeline (s : Store) (keyId : String) : Timeline KeyRecord := (s.series.lookup keyId).getD ∅

def setSeries (keyId : String) (l : Timeline KeyRecord) :
    List (String × Timeline KeyRecord) → List (String × Timeline KeyRecord)
  | [] => [(keyId, l)]
  | (id, m) :: rest => if keyId = id then (id, l) :: rest else (id, m) :: setSeries keyId l rest

/-- Replaces the records of a key id. -/
def setTimeline (s : Store) (keyId : String) (l : Timeline KeyRecord) : Store :=
  { s with series := setSeries keyId l s.series }

theorem timeline_setTimeline (s : Store) (keyId : String) (l : Timeline KeyRecord) (id : String) :
    (s.setTimeline keyId l).timeline id = if id = keyId then l else s.timeline id := by
  simp only [timeline, setTimeline]
  induction s.series with
  | nil =>
    by_cases h : id = keyId
    · simp [setSeries, h]
    · simp [setSeries, List.lookup_cons, beq_eq_false_iff_ne.2 h, h]
  | cons e rest ih =>
    obtain ⟨k, m⟩ := e
    unfold setSeries
    by_cases hk : keyId = k
    · subst hk
      by_cases h : id = keyId
      · simp [h]
      · simp [List.lookup_cons, beq_eq_false_iff_ne.2 h, h]
    · by_cases h : id = k
      · subst h
        simp [hk, Ne.symm hk]
      · have : (id == k) = false := by simpa using h
        simp only [if_neg hk, List.lookup_cons, this]
        exact ih

/-- The record of a key id at a time. -/
def load? (s : Store) (keyId : String) (t : Time) : Option KeyRecord := (s.timeline keyId).get? t

/-- The record of a key id at the greatest time it has one. -/
def latest? (s : Store) (keyId : String) : Option KeyRecord := (s.timeline keyId).latestValue?

def count (s : Store) (keyId : String) : Nat := (s.timeline keyId).size

/-- Adds a record where there is none; says whether it was added. -/
def insert (s : Store) (keyId : String) (t : Time) (r : KeyRecord) : Bool × Store :=
  ((s.load? keyId t).isNone, s.setTimeline keyId ((s.timeline keyId).insertIfNew t r))

/-- Marks a record as revoked; says whether there is one. -/
def revoke (s : Store) (keyId : String) (t : Time) : Bool × Store :=
  if (s.load? keyId t).isSome then
    (true, s.setTimeline keyId ((s.timeline keyId).modify t (·.withRevoked true)))
  else (false, s)

/-- All records with the key ids and times they are stored under. -/
def toList (s : Store) : List (String × Time × KeyRecord) :=
  s.series.flatMap fun (keyId, l) => l.entries.map fun (t, r) => (keyId, t, r)

@[simp] theorem suffix_setTimeline (s : Store) (keyId : String) (l : Timeline KeyRecord) :
    (s.setTimeline keyId l).suffix = s.suffix := rfl

theorem load?_insert (s : Store) (keyId : String) (t : Time) (r : KeyRecord) (id : String)
    (u : Time) : (s.insert keyId t r).2.load? id u =
      if id = keyId ∧ u = t then some ((s.load? keyId t).getD r) else s.load? id u := by
  simp only [insert, load?, timeline_setTimeline]
  by_cases h : id = keyId
  · subst h
    simp [Timeline.get?_insertIfNew]
  · simp [h]

theorem load?_revoke (s : Store) (keyId : String) (t : Time) (id : String) (u : Time) :
    (s.revoke keyId t).2.load? id u =
      if id = keyId ∧ u = t then (s.load? id u).map (·.withRevoked true) else s.load? id u := by
  unfold revoke
  split
  · simp only [load?, timeline_setTimeline]
    by_cases h : id = keyId
    · subst h
      simp [Timeline.get?_modify]
    · simp [h]
  · next h =>
    split
    · next he =>
      obtain ⟨rfl, rfl⟩ := he
      have h : s.load? id u = none := by simpa using h
      simp [h]
    · rfl

end Store

end Envelope
