import Mathlib.Tactic.Common
import Envelope.Engine

/-!
What is left of a state without its secrets.

The outline of a key has another secret, that of a record no wrapped key, and that of a state is
made of these and of the start of a random stream. All that stores and caches do to keys and records
they also do to their outlines.
-/

namespace Envelope

/-! ### Keys and records -/

/-- The key with a secret of zeros. -/
def Key.outline (k : Key) : Key :=
  ⟨List.replicate Cipher.Siv.keyLength 0, k.created, k.revoked, List.length_replicate⟩

lemma Key.outline_eq_iff {k k' : Key} :
    k.outline = k'.outline ↔ k.created = k'.created ∧ k.revoked = k'.revoked := by
  simp [outline]

@[simp] lemma Key.outline_revoke (k : Key) : k.revoke.outline = k.outline.revoke := rfl

/-- The record without the wrapped key. -/
def KeyRecord.outline (r : KeyRecord) : KeyRecord := { r with key := "" }

lemma KeyRecord.outline_eq_iff {r r' : KeyRecord} : r.outline = r'.outline ↔
    r.created = r'.created ∧ r.revoked = r'.revoked ∧ r.parent = r'.parent := by
  simp [outline]

lemma KeyRecord.isRevoked_of_outline {r r' : KeyRecord} (h : r.outline = r'.outline) :
    r.isRevoked = r'.isRevoked := by
  unfold isRevoked
  rw [(outline_eq_iff.1 h).2.1]

def CachedKey.outline (e : CachedKey) : CachedKey := { e with key := e.key.outline }

/-! ### Timelines -/

namespace Timeline

variable {α β : Type}

/-- Every value replaced by another. -/
def map (f : α → β) (l : Timeline α) : Timeline β :=
  ⟨l.entries.map fun e => (e.1, f e.2), List.pairwise_map.2 l.sorted⟩

variable (f : α → β) (l : Timeline α)

@[simp] lemma map_empty : (∅ : Timeline α).map f = ∅ := rfl

@[simp] lemma get?_map (t : Time) : (l.map f).get? t = (l.get? t).map f := by
  simp only [get?, map]
  induction l.entries with
  | nil => rfl
  | cons e rest ih =>
    simp only [List.map_cons, lookup, ih]
    split <;> rfl

@[simp] lemma latest?_map : (l.map f).latest? = l.latest?.map fun e => (e.1, f e.2) :=
  List.getLast?_map

@[simp] lemma latestValue?_map : (l.map f).latestValue? = l.latestValue?.map f := by
  simp [latestValue?, Function.comp_def]

lemma map_insertIfNew (t : Time) (a : α) :
    (l.insertIfNew t a).map f = (l.map f).insertIfNew t (f a) := by
  simp only [map, insertIfNew, mk.injEq]
  induction l.entries with
  | nil => rfl
  | cons e rest ih =>
    simp only [insertEntry, List.map_cons]
    split
    · rfl
    · split
      · rfl
      · simp only [List.map_cons, ih]

lemma map_modify (g : α → α) (g' : β → β) (h : ∀ a, f (g a) = g' (f a)) (t : Time) :
    (l.modify t g).map f = (l.map f).modify t g' := by
  simp only [map, modify, mk.injEq]
  induction l.entries with
  | nil => rfl
  | cons e rest ih =>
    simp only [modifyEntry, List.map_cons, ih]
    split <;> simp only [h]

end Timeline

/-! ### Stores -/

namespace Store

/-- The outlines of all records. -/
def outline (s : Store) : Store :=
  ⟨s.suffix, s.series.map fun e => (e.1, e.2.map KeyRecord.outline)⟩

variable (s : Store) (id : String) (t : Time)

@[simp] lemma timeline_outline : s.outline.timeline id = (s.timeline id).map KeyRecord.outline := by
  simp only [timeline, outline]
  induction s.series with
  | nil => rfl
  | cons e rest ih =>
    obtain ⟨k, l⟩ := e
    simp only [List.map_cons, List.lookup_cons]
    cases id == k <;> simp [ih]

@[simp] lemma load?_outline : s.outline.load? id t = (s.load? id t).map KeyRecord.outline := by
  simp [load?]

@[simp] lemma latest?_outline : s.outline.latest? id = (s.latest? id).map KeyRecord.outline := by
  simp [latest?]

lemma outline_setTimeline (l : Timeline KeyRecord) :
    (s.setTimeline id l).outline = s.outline.setTimeline id (l.map KeyRecord.outline) := by
  simp only [setTimeline, outline, mk.injEq, true_and]
  induction s.series with
  | nil => rfl
  | cons e rest ih =>
    simp only [setSeries, List.map_cons]
    split
    · rfl
    · simp only [List.map_cons, ih]

lemma outline_insert (r : KeyRecord) :
    (s.insert id t r).2.outline = (s.outline.insert id t r.outline).2 := by
  simp only [insert, outline_setTimeline, Timeline.map_insertIfNew, timeline_outline]

lemma outline_revoke : (s.revoke id t).2.outline = (s.outline.revoke id t).2 := by
  have hmodify := Timeline.map_modify KeyRecord.outline (s.timeline id) (·.withRevoked true)
    (·.withRevoked true) (fun _ => rfl) t
  unfold revoke
  simp only [load?_outline, Option.isSome_map]
  split
  · simp only [outline_setTimeline, hmodify, timeline_outline]
  · rfl

end Store

/-! ### Key caches -/

namespace KeyCache

/-- The outlines of all keys. -/
def outline (c : KeyCache) : KeyCache :=
  { c with held := c.held.map (Timeline.map CachedKey.outline) }

variable (c : KeyCache) (now : Nat) (t : Time)

lemma entries_outline : c.outline.entries = c.entries.map CachedKey.outline := by
  unfold entries outline
  cases c.held <;> rfl

lemma get?_outline : c.outline.get? now t = (c.get? now t).map Key.outline := by
  unfold get?
  rw [entries_outline, Timeline.get?_map]
  cases c.entries.get? t with
  | none => rfl
  | some e =>
    have hfresh : c.outline.IsFresh now e.outline = c.IsFresh now e := rfl
    simp only [Option.map_some, Option.filter_some, hfresh]
    split <;> rfl

lemma latest?_outline :
    c.outline.latest? now = (c.latest? now).map fun e => (e.1, e.2.outline) := by
  unfold latest?
  rw [entries_outline, Timeline.latest?_map]
  cases c.entries.latest? with
  | none => rfl
  | some e =>
    have hfresh : c.outline.IsFresh now e.2.outline = c.IsFresh now e.2 := rfl
    simp only [Option.map_some, Option.filter_some, hfresh]
    split <;> rfl

lemma outline_put (k : Key) : (c.put now t k).1.outline = (c.outline.put now t k.outline).1 ∧
    (c.put now t k).2.outline = (c.outline.put now t k.outline).2 := by
  unfold put
  cases hheld : c.held with
  | none => simp [outline, hheld]
  | some l =>
    simp only [outline, hheld, Option.map_some, Timeline.get?_map]
    cases l.get? t with
    | none => exact ⟨rfl, by simp [Timeline.map_insertIfNew, CachedKey.outline]⟩
    | some e =>
      have hkept : (if k.revoked then e.key.revoke else e.key).outline =
          if k.outline.revoked then e.outline.key.revoke else e.outline.key := by
        show _ = if k.revoked then _ else _
        split <;> rfl
      refine ⟨hkept, ?_⟩
      simp only [Option.map_some, mk.injEq, true_and, Option.some.injEq]
      exact Timeline.map_modify _ _ _ _ (fun _ => congrArg (CachedKey.mk · now) hkept) t

end KeyCache

/-! ### States -/

/-- The outline of the store, and the start of a random stream. -/
def Environment.outline (e : Environment) : Environment :=
  { e with random := .ofSeed 0, store := e.store.outline }

end Envelope
