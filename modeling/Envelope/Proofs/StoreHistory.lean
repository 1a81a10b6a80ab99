import Envelope.Proofs.Store
import Envelope.Proofs.Timeline

/-!
A store agrees with its history.

What a store holds for a key id at a time is the record that was inserted there first, marked if it
was revoked since. Each change does one of three things to a record (`load?_change`), and a run of
changes adds them up. What is changed under one key id says nothing about another: a store acts key
id by key id (`timeline_after_filter`).
-/

namespace Envelope

namespace Store

/-- A call that may change a store. -/
inductive Change where
  | insert (keyId : String) (t : Time) (r : KeyRecord)
  | revoke (keyId : String) (t : Time)
deriving DecidableEq

namespace Change

def keyId : Change → String
  | .insert id _ _ => id
  | .revoke id _ => id

/-- The time of an insert under a key id. -/
def time? (id : String) : Change → Option Time
  | .insert id' t _ => if id' = id then some t else none
  | .revoke _ _ => none

/-- The times at which records are inserted under a key id, whether there is one already or not. -/
def insertTimes (id : String) (changes : List Change) : List Time := changes.filterMap (time? id)

lemma time?_eq_some {id : String} {t : Time} {c : Change} :
    c.time? id = some t ↔ ∃ r, c = .insert id t r := by
  cases c with
  | insert id' u r =>
    by_cases hid : id' = id
    · simp [time?, hid]
    · simp [time?, hid]
  | revoke id' u => simp [time?]

lemma mem_insertTimes {id : String} {t : Time} {changes : List Change} :
    t ∈ insertTimes id changes ↔ ∃ r, .insert id t r ∈ changes := by
  unfold insertTimes
  rw [List.mem_filterMap]
  simp only [time?_eq_some]
  constructor
  · rintro ⟨c, hc, r, rfl⟩
    exact ⟨r, hc⟩
  · rintro ⟨r, hr⟩
    exact ⟨_, hr, r, rfl⟩

lemma notMem_insertTimes_cons {id : String} {t : Time} {c : Change} {changes : List Change} :
    t ∉ insertTimes id (c :: changes) ↔ c.time? id ≠ some t ∧ t ∉ insertTimes id changes := by
  unfold insertTimes
  cases hc : c.time? id with
  | none => simp [hc]
  | some u => simp [hc, eq_comm]

end Change

open Change

variable {s s' : Store} {id : String} {t : Time} {r : KeyRecord} {changes : List Change}

/-- What a change answers, and the store after it. -/
def change (s : Store) : Change → Bool × Store
  | .insert id t r => s.insert id t r
  | .revoke id t => s.revoke id t

def after (s : Store) (changes : List Change) : Store :=
  changes.foldl (fun s c => (s.change c).2) s

@[simp] lemma after_nil (s : Store) : s.after [] = s := rfl

@[simp] lemma after_cons (s : Store) (c : Change) (changes : List Change) :
    s.after (c :: changes) = (s.change c).2.after changes := rfl

@[simp] lemma after_append (s : Store) (changes changes' : List Change) :
    s.after (changes ++ changes') = (s.after changes).after changes' := List.foldl_append

/-! ### One change -/

/-- **A change** puts a record where there is none, marks a record or leaves it as it is. -/
lemma load?_change (s : Store) (c : Change) (id : String) (t : Time) :
    (s.change c).2.load? id t =
      match s.load? id t with
      | some r => some (if c = .revoke id t then r.withRevoked true else r)
      | none =>
        match c with
        | .insert id' u r => if id' = id ∧ u = t then some r else none
        | .revoke _ _ => none := by
  cases c with
  | insert id' u r =>
    show (s.insert id' u r).2.load? id t = _
    rw [load?_insert]
    by_cases he : id = id' ∧ t = u
    · obtain ⟨rfl, rfl⟩ := he
      cases s.load? id t <;> simp
    · have he' : ¬ (id' = id ∧ u = t) := fun h => he ⟨h.1.symm, h.2.symm⟩
      cases s.load? id t <;> simp [he, he']
  | revoke id' u =>
    show (s.revoke id' u).2.load? id t = _
    rw [load?_revoke]
    by_cases he : id = id' ∧ t = u
    · obtain ⟨rfl, rfl⟩ := he
      cases s.load? id t <;> simp
    · have he' : ¬ (id' = id ∧ u = t) := fun h => he ⟨h.1.symm, h.2.symm⟩
      cases s.load? id t <;> simp [he, he']

lemma load?_change_of_some (h : s.load? id t = some r) (c : Change) :
    (s.change c).2.load? id t = some (if c = .revoke id t then r.withRevoked true else r) := by
  rw [load?_change, h]

lemma load?_change_of_none (h : s.load? id t = none) {c : Change} (hc : c.time? id ≠ some t) :
    (s.change c).2.load? id t = none := by
  rw [load?_change, h]
  cases c with
  | insert id' u r =>
    refine if_neg ?_
    rintro ⟨rfl, rfl⟩
    exact hc (if_pos rfl)
  | revoke id' u => rfl

/-- A change under another key id keeps all records of this one. -/
lemma timeline_change_of_ne (s : Store) {c : Change} (h : c.keyId ≠ id) :
    (s.change c).2.timeline id = s.timeline id := by
  have hne : id ≠ c.keyId := Ne.symm h
  cases c with
  | insert id' t r =>
    show (s.setTimeline id' _).timeline id = _
    rw [timeline_setTimeline]
    exact if_neg hne
  | revoke id' t =>
    show (s.revoke id' t).2.timeline id = _
    unfold revoke
    split
    · rw [timeline_setTimeline]
      exact if_neg hne
    · rfl

/-- What a change does under a key id depends on the records of that key id only. -/
lemma timeline_change_congr (h : s.timeline id = s'.timeline id) (c : Change) :
    (s.change c).2.timeline id = (s'.change c).2.timeline id := by
  by_cases hid : c.keyId = id
  · subst hid
    cases c with
    | insert id t r =>
      have h : s.timeline id = s'.timeline id := h
      show (s.setTimeline id _).timeline id = (s'.setTimeline id _).timeline id
      rw [timeline_setTimeline, timeline_setTimeline, if_pos rfl, if_pos rfl, h]
    | revoke id t =>
      have h : s.timeline id = s'.timeline id := h
      show (s.revoke id t).2.timeline id = (s'.revoke id t).2.timeline id
      unfold revoke load?
      rw [h]
      split
      · rw [timeline_setTimeline, timeline_setTimeline, if_pos rfl, if_pos rfl]
      · exact h
  · rw [timeline_change_of_ne s hid, timeline_change_of_ne s' hid, h]

/-! ### A run of changes -/

lemma load?_after_of_some (h : s.load? id t = some r) (changes : List Change) :
    (s.after changes).load? id t =
      some (if .revoke id t ∈ changes then r.withRevoked true else r) := by
  induction changes generalizing s r with
  | nil => simpa using h
  | cons c changes ih =>
    rw [after_cons, ih (load?_change_of_some h c)]
    by_cases hc : c = .revoke id t
    · subst hc
      simp [KeyRecord.withRevoked]
    · simp [hc, Ne.symm hc]

lemma load?_after_of_none (h : s.load? id t = none) (ht : t ∉ insertTimes id changes) :
    (s.after changes).load? id t = none := by
  induction changes generalizing s with
  | nil => exact h
  | cons c changes ih =>
    obtain ⟨hc, ht⟩ := notMem_insertTimes_cons.1 ht
    exact ih (load?_change_of_none h hc) ht

/-- **A store acts key id by key id.** -/
lemma timeline_after_filter (h : s.timeline id = s'.timeline id) (changes : List Change) :
    (s.after changes).timeline id =
      (s'.after (changes.filter (·.keyId = id))).timeline id := by
  induction changes generalizing s s' with
  | nil => exact h
  | cons c changes ih =>
    by_cases hc : c.keyId = id
    · rw [List.filter_cons_of_pos (by simpa using hc)]
      exact ih (timeline_change_congr h c)
    · rw [List.filter_cons_of_neg (by simpa using hc)]
      exact ih ((timeline_change_of_ne s hc).trans h)

/-! ### The history of a store -/

section

variable (suffix : Option String) {done : List Change}

lemma load?_of_notMem (ht : t ∉ insertTimes id done) :
    ((empty suffix).after done).load? id t = none :=
  load?_after_of_none rfl ht

/-- What the first insert makes of all that follows. -/
lemma load?_of_first_insert {before : List Change} (ht : t ∉ insertTimes id before)
    (r : KeyRecord) (later : List Change) :
    ((empty suffix).after (before ++ .insert id t r :: later)).load? id t =
      some (if .revoke id t ∈ later then r.withRevoked true else r) := by
  rw [after_append, after_cons]
  exact load?_after_of_some (load?_insert_self (load?_of_notMem suffix ht) r) later

lemma isSome_load?_iff :
    (((empty suffix).after done).load? id t).isSome ↔ t ∈ insertTimes id done := by
  by_cases ht : t ∈ insertTimes id done
  · obtain ⟨r, hr⟩ := mem_insertTimes.1 ht
    obtain ⟨before, later, rfl⟩ := List.append_of_mem hr
    obtain ⟨r', hr'⟩ : ∃ r', (((empty suffix).after before).change (.insert id t r)).2.load? id t =
        some r' := ⟨_, (load?_insert ..).trans (if_pos ⟨rfl, rfl⟩)⟩
    rw [after_append, after_cons, load?_after_of_some hr']
    exact iff_of_true rfl ht
  · simp [load?_of_notMem suffix ht, ht]

/-- The latest record is that of the greatest time there was an insert at. -/
lemma latest?_of_inserts (hne : insertTimes id done ≠ []) :
    ∃ t ∈ insertTimes id done, (∀ u ∈ insertTimes id done, u ≤ t) ∧
      ((empty suffix).after done).latest? id = ((empty suffix).after done).load? id t := by
  obtain ⟨u, hu⟩ := List.exists_mem_of_ne_nil _ hne
  obtain ⟨r', hr'⟩ := Option.isSome_iff_exists.1 ((isSome_load?_iff suffix).2 hu)
  obtain ⟨r, hr⟩ := exists_latest? hr'
  obtain ⟨t, ht, hmax⟩ := latest?_eq_some hr
  refine ⟨t, (isSome_load?_iff suffix).1 (by rw [ht]; rfl), fun v hv => ?_, by rw [hr, ht]⟩
  obtain ⟨r'', hr''⟩ := Option.isSome_iff_exists.1 ((isSome_load?_iff suffix).2 hv)
  exact hmax v r'' hr''

lemma latest?_of_no_insert (h : insertTimes id done = []) :
    ((empty suffix).after done).latest? id = none := by
  cases hl : ((empty suffix).after done).latest? id with
  | none => rfl
  | some r =>
    obtain ⟨t, ht, -⟩ := latest?_eq_some hl
    have hmem := (isSome_load?_iff suffix).1 (by rw [ht]; rfl)
    rw [h] at hmem
    cases hmem

end

/-- **The first insert wins, and nothing but a revocation changes a record.** Whatever was inserted
and revoked, at whatever times and however the records themselves are dated: an insert is taken
exactly if it is the first for its key id and time, a revocation finds a record exactly if there was
an insert, and a look-up gives the record of the first insert, marked if and only if it was revoked
since and otherwise as it was. The latest record is that of the greatest time, the count is that of
the times, and all this depends on the changes under the same key id only. -/
theorem first_insert_wins (suffix : Option String) (done : List Change) :
    let s := (empty suffix).after done
    (∀ id t r, (s.insert id t r).1 = true ↔ t ∉ insertTimes id done) ∧
    (∀ id t, (s.revoke id t).1 = true ↔ t ∈ insertTimes id done) ∧
    (∀ id, ∀ t ∉ insertTimes id done, s.load? id t = none) ∧
    (∀ before id t r later, done = before ++ .insert id t r :: later →
      t ∉ insertTimes id before →
        s.load? id t = some (if .revoke id t ∈ later then { r with revoked := some true } else r)) ∧
    (∀ id, insertTimes id done ≠ [] → ∃ t ∈ insertTimes id done,
      (∀ u ∈ insertTimes id done, u ≤ t) ∧ s.latest? id = s.load? id t) ∧
    (∀ id, insertTimes id done = [] → s.latest? id = none) ∧
    (∀ id, s.count id = (insertTimes id done).toFinset.card) ∧
    ∀ id, let own := (empty suffix).after (done.filter (·.keyId = id))
      s.count id = own.count id ∧ s.latest? id = own.latest? id ∧
        ∀ t, s.load? id t = own.load? id t := by
  intro s
  refine ⟨fun id t r => ?_, fun id t => ?_, fun id t ht => load?_of_notMem suffix ht,
    fun before id t r later hdone ht => ?_, fun id => latest?_of_inserts suffix,
    fun id => latest?_of_no_insert suffix, fun id => ?_, fun id => ?_⟩
  · rw [← isSome_load?_iff suffix]
    show (s.load? id t).isNone = true ↔ _
    simp [s]
  · rw [revoke_fst, isSome_load?_iff]
  · subst hdone
    exact load?_of_first_insert suffix ht r later
  · refine Timeline.size_eq_card fun t => ?_
    rw [List.mem_toFinset, ← isSome_load?_iff suffix]
    rfl
  · have hsame : (empty suffix).timeline id = (empty suffix).timeline id := rfl
    have htimeline := timeline_after_filter hsame done
    unfold count latest? load?
    exact ⟨congrArg _ htimeline, congrArg _ htimeline, fun t => congrArg (·.get? t) htimeline⟩

/-- A later time is stored first, half a second in; the second record for it is refused. -/
example :
    let half : Time := ⟨500000000, by decide, by decide⟩
    let zero : Time := ⟨0, by decide, by decide⟩
    let a : KeyRecord := ⟨⟨7, by decide, by decide⟩, "a", none, none⟩
    let b : KeyRecord := ⟨⟨9, by decide, by decide⟩, "b", some false, none⟩
    let s := (empty none).after
      [.insert "id" half a, .insert "id" zero b, .insert "id" half b, .revoke "id" zero]
    s.count "id" = 2 ∧ s.latest? "id" = some a ∧
      s.load? "id" zero = some { b with revoked := some true } := by
  decide

end Store

end Envelope
