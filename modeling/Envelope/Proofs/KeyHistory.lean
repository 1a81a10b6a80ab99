import Envelope.KeyCache.Handout
import Envelope.Proofs.KeyCache
import Envelope.Proofs.Timeline

/-!
A key cache agrees with its history.

What a cache does with a time depends on three things that happened: the first put at the time
says which key is handed out, the last one how long, and all of them, with what was marked since,
whether the key is revoked. Each use of the cache changes what is kept at a time in one of four
ways (`use_put`, `use_revoke` and those that change nothing), and a run of uses adds them up.
-/

namespace Envelope

namespace Key

/-- The same key, revoked if it was or if it is now said to be. -/
def mark (k : Key) (revoked : Bool) : Key := { k with revoked := k.revoked || revoked }

@[simp] lemma mark_false (k : Key) : k.mark false = k := by
  unfold mark
  rw [Bool.or_false]

@[simp] lemma mark_true (k : Key) : k.mark true = k.revoke := by
  unfold mark
  rw [Bool.or_true]
  rfl

@[simp] lemma mark_mark (k : Key) (b c : Bool) : (k.mark b).mark c = k.mark (b || c) := by
  unfold mark
  rw [← Bool.or_assoc]

lemma ite_revoke (k : Key) (b : Bool) : (if b then k.revoke else k) = k.mark b := by
  cases b <;> simp

lemma persists_mark (k : Key) (b : Bool) : k.Persists (k.mark b) :=
  ⟨rfl, rfl, fun h => by simp [mark, h]⟩

end Key

namespace KeyCache

/-- A use of a cache, or of a key that it has handed out. -/
inductive Use where
  | put (t : Time) (key : Key)
  | get (t : Time)
  | latest
  | advance (d : Duration)
  | revoke (x : Handle)
  | dispose
deriving DecidableEq

namespace Use

def time? : Use → Option Time
  | .put t _ => some t
  | _ => none

def nanos : Use → Nat
  | .advance d => d.nanos
  | _ => 0

/-- The times at which keys are put. -/
def putTimes (uses : List Use) : List Time := uses.filterMap time?

/-- The nanoseconds that pass. -/
def passed : List Use → Nat
  | [] => 0
  | u :: uses => u.nanos + passed uses

/-- The use revokes the key of a time: it marks it, or puts a revoked one there. -/
def revokes (t : Time) : Use → Bool
  | .put u k => decide (u = t) && k.revoked
  | .revoke x => decide (x = .shared t)
  | _ => false

lemma mem_putTimes {t : Time} {uses : List Use} : t ∈ putTimes uses ↔ ∃ k, .put t k ∈ uses := by
  unfold putTimes
  rw [List.mem_filterMap]
  constructor
  · rintro ⟨u, hu, ht⟩
    cases u with
    | put t' k =>
      cases ht
      exact ⟨k, hu⟩
    | _ => cases ht
  · rintro ⟨k, hk⟩
    exact ⟨_, hk, rfl⟩

lemma notMem_putTimes_cons {t : Time} {u : Use} {uses : List Use} :
    t ∉ putTimes (u :: uses) ↔ u.time? ≠ some t ∧ t ∉ putTimes uses := by
  unfold putTimes
  cases hu : u.time? with
  | none => simp [hu]
  | some t' => simp [hu, eq_comm]

lemma any_revokes_iff {t : Time} {uses : List Use} : uses.any (revokes t) = true ↔
    (∃ k, .put t k ∈ uses ∧ k.revoked = true) ∨ .revoke (.shared t) ∈ uses := by
  rw [List.any_eq_true]
  constructor
  · rintro ⟨u, hu, hr⟩
    cases u with
    | put u k =>
      obtain ⟨ht, hk⟩ := Bool.and_eq_true_iff.1 hr
      exact Or.inl ⟨k, of_decide_eq_true ht ▸ hu, hk⟩
    | revoke x => exact Or.inr (of_decide_eq_true hr ▸ hu)
    | _ => cases hr
  · rintro (⟨k, hk, hr⟩ | hx)
    · exact ⟨_, hk, by simp [revokes, hr]⟩
    · exact ⟨_, hx, by simp [revokes]⟩

end Use

open Use

namespace Handout

variable {h : Handout} {t : Time} {k : Key} {e : CachedKey} {uses : List Use}

def use (h : Handout) : Use → Handout
  | .put t key => (h.put t key).2
  | .get _ | .latest => h
  | .advance d => h.advance d
  | .revoke x => h.revoke x
  | .dispose => h.dispose

def run (h : Handout) (uses : List Use) : Handout := uses.foldl use h

@[simp] lemma run_nil (h : Handout) : h.run [] = h := rfl

@[simp] lemma run_cons (h : Handout) (u : Use) (uses : List Use) :
    h.run (u :: uses) = (h.use u).run uses := rfl

@[simp] lemma run_append (h : Handout) (uses uses' : List Use) :
    h.run (uses ++ uses') = (h.run uses).run uses' := List.foldl_append

/-- What is kept at a time, or was when the cache was disposed. -/
def kept? (h : Handout) (t : Time) : Option CachedKey :=
  (if h.cache.isDisposed then h.retired else h.cache.entries).get? t

lemma key?_shared (h : Handout) (t : Time) : h.key? (.shared t) = (h.kept? t).map (·.key) := rfl

/-! ### One use -/

/-- The cache is in use. -/
def InUse (h : Handout) : Prop := h.cache.isDisposed = false

lemma InUse.kept? (hu : h.InUse) (t : Time) : h.kept? t = h.cache.entries.get? t := by
  unfold Handout.kept?
  rw [hu]
  rfl

lemma InUse.held (hu : h.InUse) : h.cache.held = some h.cache.entries := by
  unfold InUse isDisposed at hu
  cases hh : h.cache.held with
  | none =>
    rw [hh] at hu
    cases hu
  | some l => rw [entries_of_held hh]

lemma inUse_iff : h.InUse ↔ h.cache.held.isSome := by
  unfold InUse isDisposed
  cases h.cache.held <;> simp

lemma InUse.put_fst (hu : h.InUse) (t : Time) (k : Key) : (h.put t k).1 = .shared t := by
  unfold put
  rw [hu]
  rfl

lemma InUse.put_snd (hu : h.InUse) (t : Time) (k : Key) :
    (h.put t k).2 = { h with cache := (h.cache.put h.elapsed t k).2 } := by
  unfold put
  rw [hu]
  rfl

lemma InUse.use (hu : h.InUse) {u : Use} (hne : u ≠ .dispose) : (h.use u).InUse := by
  cases u with
  | put t k =>
    show (h.put t k).2.InUse
    rw [hu.put_snd, inUse_iff]
    show (h.cache.put h.elapsed t k).2.held.isSome
    rw [isSome_held_put]
    exact inUse_iff.1 hu
  | get t => exact hu
  | latest => exact hu
  | advance d => exact hu
  | revoke x =>
    cases x with
    | shared t =>
      rw [inUse_iff]
      show (h.cache.held.map _).isSome
      rw [Option.isSome_map]
      exact inUse_iff.1 hu
    | loose n => exact hu
  | dispose => exact absurd rfl hne

/-- The key that a put leaves at its time. -/
def usable (k : Key) : Option CachedKey → Key
  | none => k
  | some e => e.key.mark k.revoked

/-- **A put** keeps the first key of its time and renews it. -/
lemma InUse.kept?_put (hu : h.InUse) (u t : Time) (k : Key) :
    (h.use (.put u k)).kept? t =
      if t = u then some ⟨usable k (h.kept? u), h.elapsed⟩ else h.kept? t := by
  have hnext : (h.use (.put u k)).InUse := hu.use (by simp)
  rw [hnext.kept?, hu.kept?, hu.kept?]
  show (h.put u k).2.cache.entries.get? t = _
  rw [hu.put_snd]
  show (h.cache.put h.elapsed u k).2.entries.get? t = _
  cases hg : h.cache.entries.get? u with
  | none =>
    rw [put_of_new hu.held hg]
    show (h.cache.entries.insertIfNew u _).get? t = _
    rw [Timeline.get?_insertIfNew, hg]
    rfl
  | some e =>
    rw [put_of_get? hu.held hg (e.key.ite_revoke k.revoked)]
    show (h.cache.entries.modify u _).get? t = _
    rw [Timeline.get?_modify]
    by_cases ht : t = u
    · rw [if_pos ht, if_pos ht, ht, hg]
      rfl
    · rw [if_neg ht, if_neg ht]

/-- **A mark** reaches the key wherever it is held. -/
lemma kept?_revoke (h : Handout) (x : Handle) (t : Time) :
    (h.use (.revoke x)).kept? t =
      if x = .shared t then (h.kept? t).map fun e => { e with key := e.key.revoke }
      else h.kept? t := by
  cases x with
  | loose n => rfl
  | shared u =>
    have hx : (Handle.shared u = .shared t) ↔ t = u := by
      rw [Handle.shared.injEq]
      exact eq_comm
    obtain ⟨elapsed, ⟨period, held⟩, retired, loose⟩ := h
    cases held with
    | none =>
      show (retired.modify u _).get? t = if _ then _ else _
      simp only [Timeline.get?_modify, hx]
      rfl
    | some l =>
      show (l.modify u _).get? t = if _ then _ else _
      simp only [Timeline.get?_modify, hx]
      rfl

/-- **The key of a time** stays, revoked or not; only a put renews it. -/
lemma InUse.kept?_use (hu : h.InUse) {u : Use} (hne : u ≠ .dispose) (he : h.kept? t = some e) :
    (h.use u).kept? t =
      some ⟨e.key.mark (u.revokes t), if u.time? = some t then h.elapsed else e.since⟩ := by
  have hsame : some e = some ⟨e.key.mark false, e.since⟩ := by rw [Key.mark_false]
  cases u with
  | put u k =>
    rw [hu.kept?_put]
    by_cases ht : t = u
    · subst ht
      rw [if_pos rfl, he]
      simp [usable, revokes, time?]
    · rw [if_neg ht, he]
      simp [revokes, time?, Ne.symm ht]
  | get t' => exact he.trans hsame
  | latest => exact he.trans hsame
  | advance d => exact he.trans hsame
  | revoke x =>
    rw [kept?_revoke, he]
    by_cases hx : x = .shared t <;> simp [revokes, time?, hx]
  | dispose => exact absurd rfl hne

/-- Nothing but a put leaves a key at a time that has none. -/
lemma InUse.kept?_use_none (hu : h.InUse) {u : Use} (hne : u ≠ .dispose) (ht : u.time? ≠ some t)
    (he : h.kept? t = none) : (h.use u).kept? t = none := by
  cases u with
  | put u k =>
    have htu : t ≠ u := fun htu => ht (by rw [htu]; rfl)
    rw [hu.kept?_put, if_neg htu, he]
  | get t' => exact he
  | latest => exact he
  | advance d => exact he
  | revoke x => simp [kept?_revoke, he]
  | dispose => exact absurd rfl hne

@[simp] lemma revokeCheck_use (h : Handout) (u : Use) :
    (h.use u).cache.revokeCheck = h.cache.revokeCheck := by
  cases u with
  | put t k =>
    show (h.put t k).2.cache.revokeCheck = _
    unfold put
    split
    · rfl
    · exact revokeCheck_put t
  | revoke x => cases x <;> rfl
  | dispose =>
    show h.dispose.cache.revokeCheck = _
    unfold dispose
    split <;> rfl
  | _ => rfl

@[simp] lemma elapsed_use (h : Handout) (u : Use) : (h.use u).elapsed = h.elapsed + u.nanos := by
  cases u with
  | put t k =>
    show (h.put t k).2.elapsed = _
    unfold put
    split <;> rfl
  | revoke x => cases x <;> rfl
  | dispose =>
    show h.dispose.elapsed = _
    unfold dispose
    split <;> rfl
  | _ => rfl

/-! ### A run of uses -/

@[simp] lemma revokeCheck_run (h : Handout) (uses : List Use) :
    (h.run uses).cache.revokeCheck = h.cache.revokeCheck := by
  induction uses generalizing h with
  | nil => rfl
  | cons u uses ih => rw [run_cons, ih, revokeCheck_use]

lemma elapsed_run (h : Handout) (uses : List Use) :
    (h.run uses).elapsed = h.elapsed + passed uses := by
  induction uses generalizing h with
  | nil => rfl
  | cons u uses ih =>
    rw [run_cons, ih, elapsed_use, Nat.add_assoc]
    rfl

lemma InUse.run (hu : h.InUse) (hne : .dispose ∉ uses) : (h.run uses).InUse := by
  induction uses generalizing h with
  | nil => exact hu
  | cons u uses ih =>
    obtain ⟨hhead, hrest⟩ := not_or.1 (List.mem_cons.not.1 hne)
    exact ih (hu.use (Ne.symm hhead)) hrest

lemma InUse.kept?_run (hu : h.InUse) (hne : .dispose ∉ uses) (he : h.kept? t = some e) :
    ∃ since, (h.run uses).kept? t =
        some ⟨e.key.mark (uses.any (revokes t)), since⟩ ∧
      (t ∉ putTimes uses → since = e.since) := by
  induction uses generalizing h e with
  | nil => exact ⟨e.since, by simpa using he, fun _ => rfl⟩
  | cons u uses ih =>
    obtain ⟨hhead, hrest⟩ := not_or.1 (List.mem_cons.not.1 hne)
    have hstep := hu.kept?_use (Ne.symm hhead) he
    obtain ⟨since, hrun, hsince⟩ := ih (hu.use (Ne.symm hhead)) hrest hstep
    refine ⟨since, ?_, fun ht => ?_⟩
    · rw [run_cons, hrun, List.any_cons, Key.mark_mark]
    · obtain ⟨hu, ht⟩ := notMem_putTimes_cons.1 ht
      rw [hsince ht]
      exact if_neg hu

lemma InUse.kept?_run_none (hu : h.InUse) (hne : .dispose ∉ uses) (ht : t ∉ putTimes uses)
    (he : h.kept? t = none) : (h.run uses).kept? t = none := by
  induction uses generalizing h with
  | nil => exact he
  | cons u uses ih =>
    obtain ⟨hhead, hrest⟩ := not_or.1 (List.mem_cons.not.1 hne)
    obtain ⟨hut, ht⟩ := notMem_putTimes_cons.1 ht
    exact ih (hu.use (Ne.symm hhead)) hrest ht (hu.kept?_use_none (Ne.symm hhead) hut he)

/-! ### What is handed out -/

lemma InUse.get?_eq (hu : h.InUse) (he : h.kept? t = some e) :
    h.get? t = if h.cache.IsFresh h.elapsed e then some (.shared t) else none := by
  rw [hu.kept?] at he
  unfold get? KeyCache.get?
  rw [he, Option.filter_some]
  by_cases hf : h.cache.IsFresh h.elapsed e <;> simp [hf]

lemma InUse.get?_eq_none (hu : h.InUse) (he : h.kept? t = none) : h.get? t = none := by
  rw [hu.kept?] at he
  unfold get? KeyCache.get?
  rw [he]
  rfl

/-- Only the greatest time with a key counts, fresh or not. -/
lemma InUse.latest?_eq (hu : h.InUse) (he : h.kept? t = some e)
    (hmax : ∀ u, (h.kept? u).isSome → u ≤ t) :
    h.latest? = if h.cache.IsFresh h.elapsed e then some (.shared t) else none := by
  have hlatest : h.cache.entries.latest? = some (t, e) := by
    refine Timeline.latest?_eq_some_iff.2 ⟨by rw [← hu.kept?, he], fun u e' hu' => hmax u ?_⟩
    rw [hu.kept?, hu']
    rfl
  unfold latest? KeyCache.latest?
  rw [hlatest, Option.filter_some]
  by_cases hf : h.cache.IsFresh h.elapsed e <;> simp [hf]

lemma InUse.latest?_eq_none (hu : h.InUse) (he : ∀ t, h.kept? t = none) : h.latest? = none := by
  have hlatest : h.cache.entries.latest? = none :=
    Timeline.latest?_eq_none_iff.2 fun t => by rw [← hu.kept?, he]
  unfold latest? KeyCache.latest?
  rw [hlatest]
  rfl

/-! ### The history of a cache -/

section

variable {before after used : List Use} (period : Duration)

lemma inUse_ofPeriod : (ofPeriod period).InUse := rfl

lemma kept?_of_notMem (hused : .dispose ∉ used) (ht : t ∉ putTimes used) :
    ((ofPeriod period).run used).kept? t = none :=
  (inUse_ofPeriod period).kept?_run_none hused ht rfl

/-- What a put leaves at its time in the end. -/
lemma kept?_after_put (hused : .dispose ∉ before ++ .put t k :: after) :
    ∃ since, ((ofPeriod period).run (before ++ .put t k :: after)).kept? t =
        some ⟨(usable k (((ofPeriod period).run before).kept? t)).mark
          (after.any (revokes t)), since⟩ ∧
      (t ∉ putTimes after → since = passed before) := by
  obtain ⟨hbefore, hafter⟩ := not_or.1 (List.mem_append.not.1 hused)
  obtain ⟨hput, hafter⟩ := not_or.1 (List.mem_cons.not.1 hafter)
  have hu := (inUse_ofPeriod period).run hbefore
  have helapsed : ((ofPeriod period).run before).elapsed = passed before :=
    (elapsed_run _ before).trans (Nat.zero_add _)
  obtain ⟨since, hrun, hsince⟩ := (hu.use (Ne.symm hput)).kept?_run hafter
    ((hu.kept?_put t t k).trans (if_pos rfl))
  exact ⟨since, by rw [run_append, run_cons, hrun], fun ht => (hsince ht).trans helapsed⟩

/-- What the first put at a time makes of all that follows. -/
lemma kept?_of_first_put (hused : .dispose ∉ before ++ .put t k :: after)
    (ht : t ∉ putTimes before) :
    ∃ since, ((ofPeriod period).run (before ++ .put t k :: after)).kept? t =
      some ⟨k.mark (after.any (revokes t)), since⟩ := by
  obtain ⟨since, hkept, -⟩ := kept?_after_put period hused
  rw [kept?_of_notMem period (not_or.1 (List.mem_append.not.1 hused)).1 ht] at hkept
  exact ⟨since, hkept⟩

/-- What the last put at a time says about how long it is ago. -/
lemma kept?_of_last_put (hused : .dispose ∉ before ++ .put t k :: after)
    (ht : t ∉ putTimes after) :
    ∃ e, ((ofPeriod period).run (before ++ .put t k :: after)).kept? t = some e ∧
      ((ofPeriod period).run (before ++ .put t k :: after)).elapsed = e.since + passed after := by
  obtain ⟨since, hkept, hsince⟩ := kept?_after_put period hused
  have hzero : (ofPeriod period).elapsed = 0 := rfl
  refine ⟨_, hkept, ?_⟩
  rw [hsince ht, run_append, run_cons, elapsed_run, elapsed_use, elapsed_run, hzero, Nat.zero_add]
  rfl

lemma isSome_kept?_iff (hused : .dispose ∉ used) :
    (((ofPeriod period).run used).kept? t).isSome ↔ t ∈ putTimes used := by
  by_cases ht : t ∈ putTimes used
  · obtain ⟨k, hk⟩ := mem_putTimes.1 ht
    obtain ⟨before, after, rfl⟩ := List.append_of_mem hk
    obtain ⟨since, hkept, -⟩ := kept?_after_put period hused
    exact iff_of_true (by rw [hkept]; rfl) ht
  · simp [kept?_of_notMem period hused ht, ht]

/-- **A cache holds** one key for each time of a put. -/
lemma size_run (hused : .dispose ∉ used) :
    ((ofPeriod period).run used).cache.size = (putTimes used).toFinset.card := by
  refine Timeline.size_eq_card fun t => ?_
  rw [← ((inUse_ofPeriod period).run hused).kept?, isSome_kept?_iff period hused, List.mem_toFinset]

end

/-! ### After disposal -/

/-- The cache is disposed. -/
def IsGone (h : Handout) : Prop := h.cache.held = none

lemma IsGone.isDisposed (hg : h.IsGone) : h.cache.isDisposed = true := by
  unfold KeyCache.isDisposed
  rw [hg]
  rfl

lemma inUse_or_isGone (h : Handout) : h.InUse ∨ h.IsGone := by
  unfold InUse IsGone KeyCache.isDisposed
  cases h.cache.held with
  | none => exact Or.inr rfl
  | some l => exact Or.inl rfl

lemma InUse.isGone_dispose (hu : h.InUse) : h.dispose.IsGone := by
  unfold dispose
  rw [hu]
  rfl

lemma InUse.kept?_dispose (hu : h.InUse) (t : Time) : h.dispose.kept? t = h.kept? t := by
  rw [hu.kept?]
  unfold dispose
  rw [hu]
  rfl

/-- A disposed cache stays as it is. -/
lemma IsGone.cache_use (hg : h.IsGone) (u : Use) : (h.use u).cache = h.cache := by
  cases u with
  | put t k =>
    show (h.put t k).2.cache = _
    unfold put
    rw [hg.isDisposed]
    rfl
  | revoke x =>
    cases x with
    | shared t =>
      obtain ⟨elapsed, ⟨period, held⟩, retired, loose⟩ := h
      obtain rfl : held = none := hg
      rfl
    | loose n => rfl
  | dispose =>
    show h.dispose.cache = _
    unfold dispose
    rw [hg.isDisposed]
    rfl
  | _ => rfl

lemma IsGone.use (hg : h.IsGone) (u : Use) : (h.use u).IsGone := by
  unfold IsGone
  rw [hg.cache_use]
  exact hg

lemma IsGone.kept?_use (hg : h.IsGone) (he : h.kept? t = some e) (u : Use) :
    (h.use u).kept? t = some { e with key := e.key.mark (u = .revoke (.shared t)) } := by
  have hsame : some e = some { e with key := e.key.mark false } := by rw [Key.mark_false]
  cases u with
  | put u k =>
    have hput : (h.use (.put u k)).kept? t = h.kept? t := by
      show (h.put u k).2.kept? t = _
      unfold put
      rw [hg.isDisposed]
      rfl
    rw [hput, he]
    simp
  | get t' => exact he.trans hsame
  | latest => exact he.trans hsame
  | advance d => exact he.trans hsame
  | revoke x =>
    rw [kept?_revoke, he]
    by_cases hx : x = .shared t <;> simp [hx]
  | dispose =>
    have hdispose : (h.use .dispose).kept? t = h.kept? t := by
      show h.dispose.kept? t = _
      unfold dispose
      rw [hg.isDisposed]
      rfl
    rw [hdispose, he]
    simp

lemma IsGone.run (hg : h.IsGone) (uses : List Use) : (h.run uses).IsGone := by
  induction uses generalizing h with
  | nil => exact hg
  | cons u uses ih => exact ih (hg.use u)

lemma IsGone.kept?_run (hg : h.IsGone) (he : h.kept? t = some e) (uses : List Use) :
    (h.run uses).kept? t = some { e with key := e.key.mark (.revoke (.shared t) ∈ uses) } := by
  induction uses generalizing h e with
  | nil => simpa using he
  | cons u uses ih =>
    rw [run_cons, ih (hg.use u) (hg.kept?_use he u)]
    simp only [List.mem_cons, Bool.decide_or, Key.mark_mark, eq_comm (a := u)]

/-! ### Handles -/

lemma inUse_of_entry (he : h.cache.entries.get? t = some e) : h.InUse := by
  rcases h.inUse_or_isGone with hu | hg
  · exact hu
  · unfold entries at he
    rw [hg] at he
    cases he

/-- **A handle** stands for the key that the cache returns with it. -/
theorem key?_put (h : Handout) (t : Time) (k : Key) :
    (h.put t k).2.key? (h.put t k).1 = some (h.cache.put h.elapsed t k).1 := by
  rcases h.inUse_or_isGone with hu | hg
  · have hkept := hu.kept?_put t t k
    rw [if_pos rfl] at hkept
    rw [hu.put_fst, key?_shared]
    show ((h.use (.put t k)).kept? t).map _ = _
    rw [hkept, hu.kept?]
    cases he : h.cache.entries.get? t with
    | none =>
      rw [put_of_new hu.held he]
      rfl
    | some e =>
      rw [put_of_get? hu.held he (e.key.ite_revoke k.revoked)]
      rfl
  · rw [put_of_disposed hg]
    unfold put
    rw [hg.isDisposed]
    show (h.loose ++ [k])[h.loose.length]? = some k
    exact List.getElem?_concat_length

theorem bind_get? (h : Handout) (t : Time) :
    (h.get? t).bind h.key? = h.cache.get? h.elapsed t := by
  unfold get?
  cases hget : h.cache.get? h.elapsed t with
  | none => rfl
  | some k =>
    obtain ⟨e, he, -, rfl⟩ := get?_eq_some.1 hget
    show h.key? (.shared t) = _
    rw [key?_shared, (inUse_of_entry he).kept?, he]
    rfl

theorem bind_latest? (h : Handout) :
    h.latest?.bind h.key? = (h.cache.latest? h.elapsed).map Prod.snd := by
  unfold latest?
  cases hlatest : h.cache.latest? h.elapsed with
  | none => rfl
  | some p =>
    obtain ⟨t, k⟩ := p
    obtain ⟨e, he, -, rfl⟩ := latest?_eq_some.1 hlatest
    have he := get?_of_latest? he
    show h.key? (.shared t) = _
    rw [key?_shared, (inUse_of_entry he).kept?, he]
    rfl

/-! ### Revocation is one-way -/

/-- **No use takes a revocation back**, and none changes a key otherwise. -/
lemma key?_use_persists {x : Handle} (hk : h.key? x = some k) (u : Use) :
    ∃ k', (h.use u).key? x = some k' ∧ k.Persists k' := by
  cases x with
  | shared t =>
    rw [key?_shared] at hk ⊢
    obtain ⟨e, he, rfl⟩ := Option.map_eq_some_iff.1 hk
    rcases h.inUse_or_isGone with hu | hg
    · by_cases hd : u = .dispose
      · subst hd
        refine ⟨e.key, ?_, .refl _⟩
        show (h.dispose.kept? t).map _ = _
        rw [hu.kept?_dispose, he]
        rfl
      · rw [hu.kept?_use hd he]
        exact ⟨_, rfl, e.key.persists_mark _⟩
    · rw [hg.kept?_use he]
      exact ⟨_, rfl, e.key.persists_mark _⟩
  | loose n =>
    have hn : h.loose[n]? = some k := hk
    cases u with
    | put t k' =>
      refine ⟨k, ?_, .refl k⟩
      show (h.put t k').2.loose[n]? = some k
      unfold put
      split
      · exact (List.getElem?_append_left (List.getElem?_eq_some_iff.1 hn).1).trans hn
      · exact hn
    | revoke x =>
      cases x with
      | shared t => exact ⟨k, hk, .refl k⟩
      | loose m =>
        show ∃ k', (h.loose.modify m Key.revoke)[n]? = some k' ∧ _
        rw [List.getElem?_modify, hn]
        by_cases hm : m = n
        · exact ⟨k.mark true, by simp [hm], k.persists_mark true⟩
        · exact ⟨k, by simp [hm], .refl k⟩
    | dispose =>
      refine ⟨k, ?_, .refl k⟩
      show h.dispose.loose[n]? = some k
      unfold dispose
      split <;> exact hn
    | _ => exact ⟨k, hk, .refl k⟩

lemma key?_run_persists {x : Handle} (hk : h.key? x = some k) (uses : List Use) :
    ∃ k', (h.run uses).key? x = some k' ∧ k.Persists k' := by
  induction uses generalizing h k with
  | nil => exact ⟨k, hk, .refl k⟩
  | cons u uses ih =>
    obtain ⟨k₁, hk₁, hp₁⟩ := key?_use_persists hk u
    obtain ⟨k₂, hk₂, hp₂⟩ := ih hk₁
    exact ⟨k₂, hk₂, hp₁.trans hp₂⟩

/-! ### Agreement -/

section

variable {before after : List Use}

/-- A put at a time without a key hands out the key itself, under a handle that is new. -/
lemma InUse.put_new (hu : h.InUse) (he : h.kept? t = none) (k : Key) :
    ∃ x next, h.put t k = (x, next) ∧ h.key? x = none ∧ next.key? x = some k := by
  refine ⟨.shared t, (h.put t k).2, Prod.ext (hu.put_fst t k) rfl, ?_, ?_⟩
  · rw [key?_shared, he]
    rfl
  · have hput := hu.kept?_put t t k
    rw [if_pos rfl, he] at hput
    show ((h.put t k).2.kept? t).map _ = some k
    rw [show (h.put t k).2.kept? t = some ⟨usable k none, h.elapsed⟩ from hput]
    rfl

/-- Which puts and marks count for the key of a time. -/
lemma mark_first_put (k : Key) (after : List Use) (ht : t ∉ putTimes before) (more : List Use) :
    ∃ revoked, k.mark (after.any (revokes t) || decide (.revoke (.shared t) ∈ more)) =
        { k with revoked } ∧
      (revoked = true ↔ (∃ k', .put t k' ∈ before ++ .put t k :: after ∧ k'.revoked = true) ∨
        .revoke (.shared t) ∈ after ++ more) := by
  refine ⟨_, rfl, ?_⟩
  have hputs : (∃ k', .put t k' ∈ before ++ .put t k :: after ∧ k'.revoked = true) ↔
      k.revoked = true ∨ ∃ k', .put t k' ∈ after ∧ k'.revoked = true := by
    constructor
    · rintro ⟨k', hmem, hr⟩
      rcases List.mem_append.1 hmem with hmem | hmem
      · exact absurd (mem_putTimes.2 ⟨k', hmem⟩) ht
      · rcases List.mem_cons.1 hmem with hmem | hmem
        · cases hmem
          exact Or.inl hr
        · exact Or.inr ⟨k', hmem, hr⟩
    · rintro (hr | ⟨k', hmem, hr⟩)
      · exact ⟨k, by simp, hr⟩
      · exact ⟨k', by simp [hmem], hr⟩
  rw [hputs, Bool.or_eq_true, Bool.or_eq_true, any_revokes_iff, decide_eq_true_iff,
    List.mem_append, or_assoc, or_assoc]

lemma get?_of_last_put (period : Duration) (hused : .dispose ∉ before ++ .put t k :: after)
    (ht : t ∉ putTimes after) :
    ((ofPeriod period).run (before ++ .put t k :: after)).get? t =
        (if passed after < period.nanos then some (.shared t) else none) ∧
      ((∀ u ∈ putTimes (before ++ .put t k :: after), u ≤ t) →
        ((ofPeriod period).run (before ++ .put t k :: after)).latest? =
          if passed after < period.nanos then some (.shared t) else none) := by
  have hu := (inUse_ofPeriod period).run hused
  obtain ⟨e, he, helapsed⟩ := kept?_of_last_put period hused ht
  have hfresh : ((ofPeriod period).run (before ++ .put t k :: after)).cache.IsFresh
      ((ofPeriod period).run (before ++ .put t k :: after)).elapsed e ↔
        passed after < period.nanos := by
    unfold IsFresh
    rw [helapsed, revokeCheck_run, Nat.add_sub_cancel_left]
    exact Iff.rfl
  constructor
  · rw [hu.get?_eq he]
    simp only [hfresh]
  · intro hmax
    rw [hu.latest?_eq he fun u hkept => hmax u ((isSome_kept?_iff period hused).1 hkept)]
    simp only [hfresh]

/-- A disposed cache hands a key back as it is, under a handle that is new. -/
lemma IsGone.put_loose (hg : h.IsGone) (t : Time) (k : Key) :
    ∃ x next, h.put t k = (x, next) ∧ h.key? x = none ∧ next.key? x = some k ∧
      next.cache = h.cache := by
  refine ⟨.loose h.loose.length, { h with loose := h.loose ++ [k] }, ?_, ?_, ?_, rfl⟩
  · unfold put
    rw [hg.isDisposed]
    rfl
  · exact List.getElem?_eq_none (Nat.le_refl _)
  · show (h.loose ++ [k])[h.loose.length]? = some k
    rw [List.getElem?_append_right (Nat.le_refl _), Nat.sub_self]
    rfl

lemma IsGone.holds_nothing (hg : h.IsGone) :
    h.cache.size = 0 ∧ h.latest? = none ∧ ∀ t, h.get? t = none := by
  have hentries : h.cache.entries = ∅ := by
    unfold entries
    rw [hg]
    rfl
  unfold size latest? get? KeyCache.latest? KeyCache.get?
  rw [hentries]
  exact ⟨rfl, rfl, fun _ => rfl⟩

end

/-- **A key cache agrees with its history.** Before it is disposed, a put hands out the key of the
first put at its time, which is revoked if some put at the time was or if it was marked; a look-up
hands out that key while the last put at the time is younger than the revoke-check period, and the
latest key is that of the greatest time there was a put at, however young others are. No use takes a
revocation back. Once disposed, the cache holds nothing, finds nothing and keeps nothing. -/
theorem agrees_with_history (period : Duration) {used : List Use} (hused : .dispose ∉ used)
    (later : List Use) :
    let now := (ofPeriod period).run used
    let gone := (ofPeriod period).run (used ++ .dispose :: later)
    now.cache.size = (putTimes used).toFinset.card ∧
    (putTimes used = [] → now.latest? = none) ∧
    (∀ t ∉ putTimes used, now.get? t = none ∧
      ∀ k, ∃ x next, now.put t k = (x, next) ∧ now.key? x = none ∧ next.key? x = some k) ∧
    (∀ before t first after, used = before ++ .put t first :: after → t ∉ putTimes before →
      ∃ x, (((ofPeriod period).run before).put t first).1 = x ∧ (∀ k, (now.put t k).1 = x) ∧
        (∃ revoked, now.key? x = some { first with revoked } ∧ (revoked = true ↔
          (∃ k, .put t k ∈ used ∧ k.revoked = true) ∨ .revoke x ∈ after)) ∧
        (∃ revoked, gone.key? x = some { first with revoked } ∧ (revoked = true ↔
          (∃ k, .put t k ∈ used ∧ k.revoked = true) ∨ .revoke x ∈ after ++ later)) ∧
        ∀ earlier last since, used = earlier ++ .put t last :: since → t ∉ putTimes since →
          now.get? t = (if passed since < period.nanos then some x else none) ∧
          ((∀ u ∈ putTimes used, u ≤ t) →
            now.latest? = if passed since < period.nanos then some x else none)) ∧
    (∀ uses more x k, ((ofPeriod period).run uses).key? x = some k →
      ∃ k', ((ofPeriod period).run (uses ++ more)).key? x = some k' ∧ k.Persists k') ∧
    gone.cache.size = 0 ∧ gone.latest? = none ∧ (∀ t, gone.get? t = none) ∧
    ∀ t k, ∃ x next, gone.put t k = (x, next) ∧ gone.key? x = none ∧ next.key? x = some k ∧
      next.cache = gone.cache := by
  intro now gone
  have hu : now.InUse := (inUse_ofPeriod period).run hused
  have hgone : gone = now.dispose.run later := by
    rw [show gone = ((ofPeriod period).run used).run (.dispose :: later) from run_append ..]
    rfl
  have hg : gone.IsGone := by
    rw [hgone]
    exact hu.isGone_dispose.run later
  obtain ⟨hsize, hlatest, hget⟩ := hg.holds_nothing
  refine ⟨size_run period hused, fun hnone => hu.latest?_eq_none fun t => ?_, fun t ht => ?_,
    fun before t first after horder ht => ?_, fun uses more x k hk => ?_, hsize, hlatest, hget,
    hg.put_loose⟩
  · exact kept?_of_notMem period hused (by simp [hnone])
  · have hkept := kept?_of_notMem period hused ht
    exact ⟨hu.get?_eq_none hkept, hu.put_new hkept⟩
  · have hfirst : ∃ since, now.kept? t = some ⟨first.mark (after.any (revokes t)), since⟩ := by
      subst horder
      exact kept?_of_first_put period hused ht
    obtain ⟨since, hkept⟩ := hfirst
    have hbefore : .dispose ∉ before := by
      rw [horder] at hused
      exact (not_or.1 (List.mem_append.not.1 hused)).1
    refine ⟨.shared t, ((inUse_ofPeriod period).run hbefore).put_fst t first,
      fun k => hu.put_fst t k, ?_, ?_, fun earlier last since horder' ht' => ?_⟩
    · obtain ⟨revoked, hk, hr⟩ := mark_first_put first after ht []
      refine ⟨revoked, ?_, by rwa [List.append_nil, ← horder] at hr⟩
      rw [key?_shared, hkept, ← hk]
      simp
    · obtain ⟨revoked, hk, hr⟩ := mark_first_put first after ht later
      refine ⟨revoked, ?_, by rwa [← horder] at hr⟩
      have hkept' := hu.isGone_dispose.kept?_run ((hu.kept?_dispose t).trans hkept) later
      rw [hgone, key?_shared, hkept', ← hk, ← Key.mark_mark]
      rfl
    · have hlast := get?_of_last_put period (horder' ▸ hused) ht'
      rwa [← horder'] at hlast
  · rw [run_append]
    exact key?_run_persists hk more

/-- A key that is put again, revoked and with another secret, after it has gone stale. -/
theorem second_put_revokes_and_renews :
    let hour : Duration := ⟨3600000000000, by decide⟩
    let t : Time := ⟨0, by decide, by decide⟩
    let k : Key := ⟨List.replicate 32 1, ⟨0, by decide, by decide⟩, false, rfl⟩
    let k' : Key := ⟨List.replicate 32 2, ⟨0, by decide, by decide⟩, true, rfl⟩
    let used : List Use := [.put t k, .advance hour, .put t k', .get t]
    .dispose ∉ used ∧ ∃ x, ((ofPeriod hour).run used).get? t = some x ∧
      ((ofPeriod hour).run used).key? x = some { k with revoked := true } := by
  intro hour t k k' used
  have hused : .dispose ∉ used := by simp [used]
  obtain ⟨-, -, -, hfirst, -⟩ := agrees_with_history hour hused []
  obtain ⟨x, -, -, ⟨revoked, hkey, hr⟩, -, hlast⟩ :=
    hfirst [] t k [.advance hour, .put t k', .get t] rfl List.not_mem_nil
  have hput : revoked = true := hr.2 (Or.inl ⟨k', by simp [used], rfl⟩)
  subst hput
  have hget := (hlast [.put t k, .advance hour] k' [.get t] rfl List.not_mem_nil).1
  exact ⟨hused, x, hget.trans (if_pos (by decide)), hkey⟩

end Handout

end KeyCache

end Envelope
