import Envelope.Time

/-!
Values by time: at most one value for each instant, kept in order of time.

The view of a timeline is `get?`. Each operation is characterised through it, and `latest?` is the
value at the greatest instant that has one.
-/

namespace Envelope

structure Timeline (α : Type) where
  entries : List (Time × α)
  sorted : entries.Pairwise (·.1 < ·.1)

namespace Timeline

variable {α : Type}

def empty : Timeline α := ⟨[], .nil⟩

instance : EmptyCollection (Timeline α) := ⟨empty⟩

def size (l : Timeline α) : Nat := l.entries.length

def isEmpty (l : Timeline α) : Bool := l.entries.isEmpty

def lookup (t : Time) : List (Time × α) → Option α
  | [] => none
  | (u, a) :: rest => if t = u then some a else lookup t rest

/-- The value at an instant. -/
def get? (l : Timeline α) (t : Time) : Option α := lookup t l.entries

/-- The greatest instant that has a value, with the value. -/
def latest? (l : Timeline α) : Option (Time × α) := l.entries.getLast?

def insertEntry (t : Time) (a : α) : List (Time × α) → List (Time × α)
  | [] => [(t, a)]
  | (u, b) :: rest =>
    if t < u then (t, a) :: (u, b) :: rest
    else if t = u then (u, b) :: rest
    else (u, b) :: insertEntry t a rest

def modifyEntry (t : Time) (f : α → α) : List (Time × α) → List (Time × α)
  | [] => []
  | (u, b) :: rest => (u, if t = u then f b else b) :: modifyEntry t f rest

theorem fst_mem_insertEntry {t u : Time} {a : α} {es : List (Time × α)}
    (h : u ∈ (insertEntry t a es).map Prod.fst) : u = t ∨ u ∈ es.map Prod.fst := by
  induction es with
  | nil => simpa [insertEntry] using h
  | cons e rest ih =>
    obtain ⟨v, b⟩ := e
    unfold insertEntry at h
    split at h
    · simpa using h
    · split at h
      · exact Or.inr h
      · rw [List.map_cons, List.mem_cons] at h ⊢
        rcases h with h | h
        · exact Or.inr (Or.inl h)
        · rcases ih h with h | h
          · exact Or.inl h
          · exact Or.inr (Or.inr h)

theorem sorted_insertEntry {t : Time} {a : α} {es : List (Time × α)}
    (h : es.Pairwise (·.1 < ·.1)) : (insertEntry t a es).Pairwise (·.1 < ·.1) := by
  induction es with
  | nil => simp [insertEntry]
  | cons e rest ih =>
    obtain ⟨u, b⟩ := e
    obtain ⟨hu, hrest⟩ := List.pairwise_cons.1 h
    unfold insertEntry
    split
    · next htu =>
      refine List.pairwise_cons.2 ⟨fun p hp => ?_, h⟩
      rcases List.mem_cons.1 hp with rfl | hp
      · exact htu
      · exact Int.lt_trans htu (hu p hp)
    · next htu =>
      split
      · exact h
      · next hne =>
        refine List.pairwise_cons.2 ⟨fun p hp => ?_, ih hrest⟩
        rcases fst_mem_insertEntry (List.mem_map_of_mem hp) with hpt | hp
        · have hle : ¬ t.nanos < u.nanos := htu
          have hne : t.nanos ≠ u.nanos := fun he => hne (Time.ext he)
          show u.nanos < p.1.nanos
          rw [hpt]
          omega
        · obtain ⟨q, hq, he⟩ := List.mem_map.1 hp
          exact he ▸ hu q hq

theorem map_fst_modifyEntry (t : Time) (f : α → α) (es : List (Time × α)) :
    (modifyEntry t f es).map Prod.fst = es.map Prod.fst := by
  induction es with
  | nil => rfl
  | cons e rest ih => simp [modifyEntry, ih]

theorem sorted_modifyEntry {t : Time} {f : α → α} {es : List (Time × α)}
    (h : es.Pairwise (·.1 < ·.1)) : (modifyEntry t f es).Pairwise (·.1 < ·.1) := by
  have h := List.pairwise_map.2 h
  rw [← map_fst_modifyEntry t f] at h
  exact List.pairwise_map.1 h

/-- Puts a value at an instant that has none; a value that is there stays. -/
def insertIfNew (l : Timeline α) (t : Time) (a : α) : Timeline α :=
  ⟨insertEntry t a l.entries, sorted_insertEntry l.sorted⟩

/-- Changes the value at an instant, if there is one. -/
def modify (l : Timeline α) (t : Time) (f : α → α) : Timeline α :=
  ⟨modifyEntry t f l.entries, sorted_modifyEntry l.sorted⟩

/-! ### The view -/

theorem lookup_eq_none_of_forall_lt {t : Time} {es : List (Time × α)}
    (h : ∀ e ∈ es, t < e.1) : lookup t es = none := by
  induction es with
  | nil => rfl
  | cons e rest ih =>
    obtain ⟨u, b⟩ := e
    have hu : t.nanos < u.nanos := h (u, b) (by simp)
    have : t ≠ u := fun he => by subst he; omega
    simp [lookup, this, ih fun e he => h e (by simp [he])]

theorem lookup_eq_some_iff {t : Time} {a : α} {es : List (Time × α)}
    (h : es.Pairwise (·.1 < ·.1)) : lookup t es = some a ↔ (t, a) ∈ es := by
  induction es with
  | nil => simp [lookup]
  | cons e rest ih =>
    obtain ⟨u, b⟩ := e
    obtain ⟨hu, hrest⟩ := List.pairwise_cons.1 h
    unfold lookup
    split
    · next he =>
      subst he
      constructor
      · intro hb
        simp [Option.some.inj hb]
      · intro hm
        rcases List.mem_cons.1 hm with hm | hm
        · simp [(Prod.mk.inj hm).2]
        · have : t.nanos < t.nanos := hu (t, a) hm
          omega
    · next hne =>
      rw [ih hrest]
      simp [hne]

theorem get?_eq_some_iff {l : Timeline α} {t : Time} {a : α} :
    l.get? t = some a ↔ (t, a) ∈ l.entries := lookup_eq_some_iff l.sorted

@[simp] theorem get?_empty (t : Time) : (∅ : Timeline α).get? t = none := rfl

theorem lookup_insertEntry (t : Time) (a : α) (u : Time) {es : List (Time × α)}
    (h : es.Pairwise (·.1 < ·.1)) :
    lookup u (insertEntry t a es) =
      if u = t then some ((lookup t es).getD a) else lookup u es := by
  induction es with
  | nil => simp [insertEntry, lookup]
  | cons e rest ih =>
    obtain ⟨v, b⟩ := e
    obtain ⟨hv, hrest⟩ := List.pairwise_cons.1 h
    unfold insertEntry
    split
    · next htv =>
      have hnone : lookup t ((v, b) :: rest) = none := by
        refine lookup_eq_none_of_forall_lt fun e he => ?_
        rcases List.mem_cons.1 he with rfl | he
        · exact htv
        · exact Int.lt_trans htv (hv e he)
      rw [hnone]
      simp [lookup]
    · split
      · next he =>
        subst he
        by_cases hu : u = t <;> simp [lookup, hu]
      · next hne =>
        by_cases hu : u = v
        · subst hu
          simp [lookup, Ne.symm hne]
        · simp only [lookup, if_neg hu, if_neg hne, ih hrest]

theorem get?_insertIfNew (l : Timeline α) (t : Time) (a : α) (u : Time) :
    (l.insertIfNew t a).get? u = if u = t then some ((l.get? t).getD a) else l.get? u :=
  lookup_insertEntry t a u l.sorted

theorem get?_modify (l : Timeline α) (t : Time) (f : α → α) (u : Time) :
    (l.modify t f).get? u = if u = t then (l.get? u).map f else l.get? u := by
  simp only [get?, modify]
  induction l.entries with
  | nil => simp [modifyEntry, lookup]
  | cons e rest ih =>
    obtain ⟨v, b⟩ := e
    simp only [modifyEntry, lookup]
    by_cases hu : u = v
    · subst hu
      by_cases ht : u = t
      · simp [ht]
      · simp [ht, Ne.symm ht]
    · simp [hu, ih]

/-- The latest value is one that has no value after it. -/
theorem latest?_eq_some_iff {l : Timeline α} {t : Time} {a : α} :
    l.latest? = some (t, a) ↔ l.get? t = some a ∧ ∀ u b, l.get? u = some b → u ≤ t := by
  have hs := l.sorted
  simp only [get?_eq_some_iff, latest?]
  constructor
  · intro h
    obtain ⟨front, he⟩ := List.getLast?_eq_some_iff.1 h
    rw [he] at hs ⊢
    refine ⟨by simp, fun u b hu => ?_⟩
    rcases List.mem_append.1 hu with hu | hu
    · exact Int.le_of_lt ((List.pairwise_append.1 hs).2.2 (u, b) hu (t, a) (by simp))
    · have hu := (List.mem_singleton.1 hu)
      exact (Prod.mk.inj hu).1 ▸ Int.le_refl _
  · rintro ⟨hmem, hmax⟩
    cases he : l.entries.getLast? with
    | none => simp [List.getLast?_eq_none_iff.1 he] at hmem
    | some e =>
      obtain ⟨u, b⟩ := e
      obtain ⟨front, hfront⟩ := List.getLast?_eq_some_iff.1 he
      rw [hfront] at hs hmem hmax
      have hle : u.nanos ≤ t.nanos := hmax u b (by simp)
      rcases List.mem_append.1 hmem with hm | hm
      · have : t.nanos < u.nanos :=
          (List.pairwise_append.1 hs).2.2 (t, a) hm (u, b) (by simp)
        omega
      · rw [List.mem_singleton.1 hm]

theorem latest?_eq_none_iff {l : Timeline α} : l.latest? = none ↔ ∀ t, l.get? t = none := by
  constructor
  · intro h t
    have : l.entries = [] := List.getLast?_eq_none_iff.1 h
    simp [get?, this, lookup]
  · intro h
    rw [latest?, List.getLast?_eq_none_iff]
    cases he : l.entries with
    | nil => rfl
    | cons e rest =>
      have := get?_eq_some_iff.2 (show (e.1, e.2) ∈ l.entries by simp [he])
      simp [h] at this

/-- The value at the greatest instant that has one. -/
def latestValue? (l : Timeline α) : Option α := l.latest?.map Prod.snd

end Timeline

end Envelope
