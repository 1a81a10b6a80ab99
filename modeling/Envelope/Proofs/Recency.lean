import Mathlib.Data.Finset.Card
import Envelope.Proofs.Admissions

/-!
# The least recently used session goes

Between two requests for one partition the cache keeps the session of the first just as long as the
partitions asked for since then leave room for it and it is not idle. Those partitions are the ones
of the sessions in front of it, so that their number says how far back it stands.
-/

namespace Envelope

namespace SessionCache

variable {c : SessionCache} {p q : String} {engine since now t fresh : Nat} {seen : Finset String}
  {a : Admission}

/-- Where the session of `p` stands that was last asked for at `since`: behind the sessions of the
partitions `seen` since then, or nowhere, for one of two reasons. -/
inductive Standing (c : SessionCache) (p : String) (engine since now : Nat) (seen : Finset String) :
    Prop
  | held (front back : List CachedSession)
      (sessions : c.sessions = front ++ ⟨p, engine, since⟩ :: back)
      (recent : ∀ x ∈ front, since < x.lastUsed) (former : ∀ x ∈ back, x.lastUsed < since)
      (seen_eq : (front.map (·.partition)).toFinset = seen)
  | gone (absent : ∀ x ∈ c.sessions, x.partition ≠ p)
      (reason : c.expiry.nanos ≤ now - since ∨ c.limit ≤ seen.card)

/-- What a session alive has in front of it is alive. -/
lemma alive_of_front {front back : List CachedSession}
    (hsessions : c.sessions = front ++ ⟨p, engine, since⟩ :: back)
    (hrecent : ∀ x ∈ front, since < x.lastUsed) (halive : now - since < c.expiry.nanos) :
    c.alive now = front ++ ⟨p, engine, since⟩ :: back.filter (c.IsAlive now ·) := by
  have hfront : front.filter (c.IsAlive now ·) = front := by
    refine List.filter_eq_self.2 fun x hx => decide_eq_true ?_
    have := hrecent x hx
    show now - x.lastUsed < c.expiry.nanos
    omega
  have hself : c.IsAlive now ⟨p, engine, since⟩ := halive
  rw [alive, hsessions, List.filter_append, hfront, List.filter_cons_of_pos (by simpa using hself)]

/-- Each of the partitions asked for since has one session in front. -/
lemma Tidy.card_front (h : c.Tidy t) {front back : List CachedSession}
    (hsessions : c.sessions = front ++ back) :
    (front.map (·.partition)).toFinset.card = front.length := by
  have hnodup := h.nodup
  rw [hsessions, List.map_append] at hnodup
  rw [List.toFinset_card_of_nodup (List.nodup_append.1 hnodup).1, List.length_map]

/-- A session moved to the front is that of a partition asked for since. -/
lemma insert_toFinset_filter (front : List CachedSession) (q : String) :
    insert q ((front.filter (·.partition ≠ q)).map (·.partition)).toFinset =
      insert q (front.map (·.partition)).toFinset := by
  ext id
  by_cases hid : id = q
  · simp [hid]
  · simp only [Finset.mem_insert, hid, false_or, List.mem_toFinset, List.mem_map, List.mem_filter]
    constructor
    · rintro ⟨x, ⟨hx, -⟩, rfl⟩
      exact ⟨x, hx, rfl⟩
    · rintro ⟨x, hx, rfl⟩
      exact ⟨x, ⟨hx, by simpa using hid⟩, rfl⟩

lemma Standing.mono (h : c.Standing p engine since t seen) (ht : t ≤ now) :
    c.Standing p engine since now seen := by
  cases h with
  | held front back sessions recent former seen_eq =>
    exact .held front back sessions recent former seen_eq
  | gone absent reason => exact .gone absent (by omega)

/-- What stands in front of a session is of other partitions. -/
lemma Tidy.ne_of_front (h : c.Tidy t) {front back : List CachedSession}
    (hsessions : c.sessions = front ++ ⟨p, engine, since⟩ :: back)
    (hrecent : ∀ x ∈ front, since < x.lastUsed) : ∀ x ∈ front, x.partition ≠ p := by
  intro x hx hxp
  have heq : x = ⟨p, engine, since⟩ :=
    h.eq_of_partition (by simp [hsessions, hx]) (by simp [hsessions]) hxp
  have hlt := hrecent x hx
  rw [heq] at hlt
  exact Nat.lt_irrefl _ hlt

/-- A session that is the last alive makes room for another: as many partitions have been asked
for since as there is room for. -/
lemma Tidy.gone_of_full (h : c.Tidy t) {front back : List CachedSession}
    (hsessions : c.sessions = front ++ ⟨p, engine, since⟩ :: back)
    (hrecent : ∀ x ∈ front, since < x.lastUsed)
    (halive : c.alive now = front ++ [⟨p, engine, since⟩])
    (hfull : c.limit ≤ (c.alive now).length) (hnew : ∀ x ∈ c.alive now, x.partition ≠ q) :
    let rest := (c.alive now).erase ⟨p, engine, since⟩
    SessionCache.Standing { c with sessions := ⟨q, fresh, now⟩ :: rest } p engine since now
      (insert q (front.map (·.partition)).toFinset) := by
  intro rest
  have hrest : rest = front := (h.alive_concat halive).1
  rw [hrest]
  refine .gone (List.forall_mem_cons.2 ⟨?_, h.ne_of_front hsessions hrecent⟩) (Or.inr ?_)
  · exact (hnew ⟨p, engine, since⟩ (by simp [halive])).symm
  · have hq : q ∉ (front.map (·.partition)).toFinset := by
      simpa using fun x hx => hnew x (by simp [halive, hx])
    rw [Finset.card_insert_of_notMem hq, h.card_front hsessions]
    simpa [halive] using hfull

/-- While the session is alive, it goes only if it is the last and there is no room. -/
lemma Grants.standing_of_alive (g : c.Grants now q fresh a) (htidy : c.Tidy t)
    (hlimit : c.limit ≠ 0) (hq : q ≠ p) (hsince : since < now) {front back : List CachedSession}
    (hsessions : c.sessions = front ++ ⟨p, engine, since⟩ :: back)
    (hrecent : ∀ x ∈ front, since < x.lastUsed) (hformer : ∀ x ∈ back, x.lastUsed < since)
    (halive : now - since < c.expiry.nanos) :
    a.cache.Standing p engine since now (insert q (front.map (·.partition)).toFinset) := by
  have hal := alive_of_front hsessions hrecent halive
  replace hformer : ∀ x ∈ back.filter (c.IsAlive now ·), x.lastUsed < since :=
    fun x hx => hformer x (List.mem_filter.1 hx).1
  generalize back.filter (c.IsAlive now ·) = back' at hal hformer
  cases g with
  | uncached hlimit' => exact absurd hlimit' hlimit
  | shared s _ hs hp =>
    refine .held ({ s with lastUsed := now } :: front.filter (·.partition ≠ q))
      (back'.filter (·.partition ≠ q)) ?_ ?_ ?_ ?_
    · simp [hal, Ne.symm hq]
    · exact List.forall_mem_cons.2 ⟨hsince, fun x hx => hrecent x (List.mem_filter.1 hx).1⟩
    · exact fun x hx => hformer x (List.mem_filter.1 hx).1
    · rw [List.map_cons, List.toFinset_cons, hp, insert_toFinset_filter]
  | added _ hp _ =>
    refine .held (⟨q, fresh, now⟩ :: front) back' (by simp [hal])
      (List.forall_mem_cons.2 ⟨hsince, hrecent⟩) hformer ?_
    rw [List.map_cons, List.toFinset_cons]
  | replaced victim _ hp hfull hv hleast =>
    rw [hal] at hv hleast
    have hfront : victim ∉ front := fun hmem => by
      have hlt := hrecent victim hmem
      have hle : victim.lastUsed ≤ since := hleast ⟨p, engine, since⟩ (by simp)
      omega
    rcases List.mem_cons.1 ((List.mem_append.1 hv).resolve_left hfront) with rfl | hback
    · -- nothing can stand behind the session that is least recently used
      have hnil : back' = [] := List.eq_nil_iff_forall_not_mem.2 fun x hx => by
        have hlt := hformer x hx
        have hle : since ≤ x.lastUsed := hleast x (by simp [hx])
        omega
      subst hnil
      exact htidy.gone_of_full hsessions hrecent hal hfull hp
    · have hne : (⟨p, engine, since⟩ : CachedSession) ≠ victim := by
        rintro rfl
        exact Nat.lt_irrefl _ (hformer _ hback)
      refine .held (⟨q, fresh, now⟩ :: front) (back'.erase victim) ?_
        (List.forall_mem_cons.2 ⟨hsince, hrecent⟩)
        (fun x hx => hformer x (List.mem_of_mem_erase hx)) ?_
      · simp [hal, List.erase_append_right _ hfront, List.erase_cons_tail, hne]
      · rw [List.map_cons, List.toFinset_cons]

/-- **One request for another partition**: the session stays where it stands, one partition further
back, or goes for one of the two reasons. -/
theorem Standing.grants (h : c.Standing p engine since t seen) (htidy : c.Tidy t)
    (g : c.Grants now q fresh a) (hlimit : c.limit ≠ 0) (hq : q ≠ p) (hsince : since < now)
    (ht : t ≤ now) : a.cache.Standing p engine since now (insert q seen) := by
  obtain ⟨hsetlimit, hsetexpiry⟩ := g.settings
  cases h with
  | gone absent reason =>
    refine .gone (fun x hx => ?_) ?_
    · rcases g.mem htidy hlimit hx with rfl | ⟨hx, -⟩
      · exact hq
      · exact absent x (mem_alive.1 hx).1
    · have hcard := Finset.card_le_card (Finset.subset_insert q seen)
      rw [hsetlimit, hsetexpiry]
      omega
  | held front back sessions recent former seen_eq =>
    by_cases halive : now - since < c.expiry.nanos
    · rw [← seen_eq]
      exact g.standing_of_alive htidy hlimit hq hsince sessions recent former halive
    · refine .gone (fun x hx hxp => ?_) (Or.inl (by rw [hsetexpiry]; omega))
      rcases g.mem htidy hlimit hx with rfl | ⟨hx, -⟩
      · exact hq hxp
      · obtain ⟨hx, hxalive⟩ := mem_alive.1 hx
        rw [htidy.eq_of_partition hx (y := ⟨p, engine, since⟩) (by simp [sessions]) hxp] at hxalive
        exact halive hxalive

/-- **The next request for the partition** finds the session if it is not idle and there has been
room for it, and no session otherwise. -/
theorem Standing.answer (h : c.Standing p engine since t seen) (htidy : c.Tidy t)
    (g : c.Grants now p fresh a) (hlimit : c.limit ≠ 0) (ht : t ≤ now) :
    (now - since < c.expiry.nanos ∧ seen.card < c.limit ∧ a.engine = engine ∧ a.isNew = false) ∨
      (¬ (now - since < c.expiry.nanos ∧ seen.card < c.limit) ∧ a.engine = fresh ∧
        a.isNew = true) := by
  cases h with
  | gone absent reason =>
    refine Or.inr ⟨by omega, ?_⟩
    cases g with
    | shared s _ hs hp => exact absurd hp (absent s (mem_alive.1 hs).1)
    | _ => exact ⟨rfl, rfl⟩
  | held front back sessions recent former seen_eq =>
    have hentry : ⟨p, engine, since⟩ ∈ c.sessions := by simp [sessions]
    have hroom : seen.card < c.limit := by
      have hsize := htidy.size
      rw [sessions, List.length_append, List.length_cons] at hsize
      rw [← seen_eq, htidy.card_front sessions]
      omega
    by_cases halive : now - since < c.expiry.nanos
    · have hal : ⟨p, engine, since⟩ ∈ c.alive now := mem_alive.2 ⟨hentry, halive⟩
      refine Or.inl ⟨halive, hroom, ?_⟩
      cases g with
      | uncached hlimit' => exact absurd hlimit' hlimit
      | shared s _ hs hp =>
        rw [htidy.eq_of_partition (mem_alive.1 hs).1 hentry hp]
        exact ⟨rfl, rfl⟩
      | added _ hp _ => exact absurd rfl (hp _ hal)
      | replaced _ _ hp _ _ _ => exact absurd rfl (hp _ hal)
    · refine Or.inr ⟨fun h => halive h.1, ?_⟩
      cases g with
      | shared s _ hs hp =>
        obtain ⟨hs, hsalive⟩ := mem_alive.1 hs
        rw [htidy.eq_of_partition hs hentry hp] at hsalive
        exact absurd hsalive halive
      | _ => exact ⟨rfl, rfl⟩

end SessionCache

/-! ### Runs of requests -/

/-- A call for the session of a partition, at a time. -/
structure Demand where
  time : Nat
  partition : String

/-- A session cache with the number of engines that have been made for it: the next one takes that
number. -/
structure Desk where
  cache : SessionCache
  made : Nat

namespace Desk

def opened (limit : Nat) (expiry : Duration) : Desk := ⟨.empty limit expiry, 0⟩

/-- What a call is answered. -/
def answer (d : Desk) (q : Demand) : Admission := d.cache.request q.time q.partition d.made

/-- The desk after a call. -/
def serve (d : Desk) (q : Demand) : Desk :=
  ⟨(d.answer q).cache, if (d.answer q).isNew then d.made + 1 else d.made⟩

/-- The desk after some calls. -/
def after (d : Desk) (calls : List Demand) : Desk := calls.foldl serve d

/-- What the calls are answered, one after the other. -/
def answers (d : Desk) : List Demand → List Admission
  | [] => []
  | q :: rest => d.answer q :: (d.serve q).answers rest

@[simp] lemma after_nil (d : Desk) : d.after [] = d := rfl

@[simp] lemma after_cons (d : Desk) (q : Demand) (rest : List Demand) :
    d.after (q :: rest) = (d.serve q).after rest := rfl

lemma after_append (d : Desk) (a b : List Demand) : d.after (a ++ b) = (d.after a).after b := by
  simp [after, List.foldl_append]

variable {d : Desk} {q : Demand} {calls : List Demand} {t : Nat}

/-! ### The engines of a desk -/

/-- The cached engines have been made. -/
def Numbers (d : Desk) : Prop := ∀ x ∈ d.cache.sessions, x.engine < d.made

lemma made_le_serve (d : Desk) (q : Demand) : d.made ≤ (d.serve q).made := by
  unfold serve
  split <;> simp

/-- An engine that is handed out has been made by then. -/
lemma Numbers.engine_lt (h : d.Numbers) (q : Demand) : (d.answer q).engine < (d.serve q).made := by
  unfold serve
  rcases d.cache.request_engine q.time q.partition d.made with ⟨hnew, heq⟩ | ⟨hnew, y, hy, -, heq⟩
  · simp [answer, hnew, heq]
  · simp [answer, hnew, heq, h y hy]

lemma Numbers.serve (h : d.Numbers) (q : Demand) : (d.serve q).Numbers := by
  intro x hx
  rcases d.cache.mem_request q.time q.partition d.made x hx with ⟨y, hy, -, heq⟩ | ⟨hnew, -, heq⟩
  · rw [heq]
    exact Nat.lt_of_lt_of_le (h y hy) (d.made_le_serve q)
  · simp [Desk.serve, answer, hnew, heq]

lemma Numbers.after (h : d.Numbers) (calls : List Demand) : (d.after calls).Numbers := by
  induction calls generalizing d with
  | nil => exact h
  | cons q rest ih => exact ih (h.serve q)

lemma made_le_after (d : Desk) (calls : List Demand) : d.made ≤ (d.after calls).made := by
  induction calls generalizing d with
  | nil => exact Nat.le_refl _
  | cons q rest ih => exact Nat.le_trans (d.made_le_serve q) (ih (d.serve q))

/-- **Every engine handed out** has been made by the end. -/
lemma Numbers.answers_lt (h : d.Numbers) (calls : List Demand) :
    ∀ x ∈ d.answers calls, x.engine < (d.after calls).made := by
  induction calls generalizing d with
  | nil => exact fun _ h => nomatch h
  | cons q rest ih =>
    intro x hx
    rcases List.mem_cons.1 hx with rfl | hx
    · exact Nat.lt_of_lt_of_le (h.engine_lt q) (made_le_after _ rest)
    · exact ih (h.serve q) x hx

/-- A desk that keeps nothing makes an engine for every call. -/
lemma nodup_answers (hlimit : d.cache.limit = 0) (calls : List Demand) :
    (∀ x ∈ d.answers calls, d.made ≤ x.engine) ∧ ((d.answers calls).map (·.engine)).Nodup := by
  induction calls generalizing d with
  | nil => exact ⟨fun _ h => (nomatch h), List.nodup_nil⟩
  | cons q rest ih =>
    have hanswer : d.answer q = ⟨d.made, true, [], none, d.cache⟩ := by
      simp [answer, SessionCache.request, hlimit]
    have hserve : d.serve q = ⟨d.cache, d.made + 1⟩ := by simp [serve, hanswer]
    obtain ⟨hle, hnodup⟩ := ih (d := d.serve q) (by rw [hserve]; exact hlimit)
    rw [hserve] at hle hnodup
    simp only [answers, hserve, hanswer, List.map_cons, List.nodup_cons, List.forall_mem_cons]
    refine ⟨⟨Nat.le_refl _, fun x hx => Nat.le_of_succ_le (hle x hx)⟩, fun hmem => ?_, hnodup⟩
    obtain ⟨x, hx, heq⟩ := List.mem_map.1 hmem
    exact Nat.not_succ_le_self d.made (heq ▸ hle x hx)

/-! ### The cache of a desk -/

/-- The calls come one after the other. -/
def Rising (calls : List Demand) : Prop := calls.Pairwise fun x y => x.time < y.time

lemma Rising.le_of_cons {rest : List Demand} (h : Rising (q :: rest)) :
    ∀ r ∈ rest, q.time ≤ r.time := fun r hr => Nat.le_of_lt ((List.pairwise_cons.1 h).1 r hr)

lemma limit_serve (d : Desk) (q : Demand) : (d.serve q).cache.limit = d.cache.limit := by
  unfold serve answer SessionCache.request
  split
  · rfl
  · dsimp only
    split <;> rfl

lemma expiry_serve (d : Desk) (q : Demand) : (d.serve q).cache.expiry = d.cache.expiry := by
  unfold serve answer SessionCache.request
  split
  · rfl
  · dsimp only
    split <;> rfl

lemma settings_after (d : Desk) (calls : List Demand) :
    (d.after calls).cache.limit = d.cache.limit ∧
      (d.after calls).cache.expiry = d.cache.expiry := by
  induction calls generalizing d with
  | nil => exact ⟨rfl, rfl⟩
  | cons q rest ih =>
    obtain ⟨hlimit, hexpiry⟩ := ih (d.serve q)
    exact ⟨hlimit.trans (d.limit_serve q), hexpiry.trans (d.expiry_serve q)⟩

lemma tidy_serve (h : d.cache.Tidy t) (ht : t ≤ q.time) : (d.serve q).cache.Tidy q.time :=
  (h.request_grants q.time q.partition d.made).tidy h ht

lemma tidy_after (h : d.cache.Tidy t) (hrising : Rising calls) (ht : ∀ q ∈ calls, t ≤ q.time)
    {u : Nat} (htu : t ≤ u) (hu : ∀ q ∈ calls, q.time ≤ u) : (d.after calls).cache.Tidy u := by
  induction calls generalizing d t with
  | nil => exact h.mono htu
  | cons q rest ih =>
    obtain ⟨htq, -⟩ := List.forall_mem_cons.1 ht
    obtain ⟨hqu, hu⟩ := List.forall_mem_cons.1 hu
    exact ih (tidy_serve h htq) hrising.of_cons hrising.le_of_cons hqu hu

/-- What an opened desk has cached was asked for before. -/
lemma lastUsed_lt_after (limit : Nat) (expiry : Duration) (hrising : Rising calls) {u : Nat}
    (hu : ∀ q ∈ calls, q.time < u) :
    ∀ x ∈ ((opened limit expiry).after calls).cache.sessions, x.lastUsed < u := by
  have htidy := SessionCache.tidy_empty limit expiry 0
  cases u with
  | zero =>
    have hnil : calls = [] :=
      List.eq_nil_iff_forall_not_mem.2 fun q hq => Nat.not_lt_zero _ (hu q hq)
    subst hnil
    exact fun _ h => nomatch h
  | succ n =>
    have h := tidy_after (d := opened limit expiry) htidy hrising (fun _ _ => Nat.zero_le _)
      (Nat.zero_le n) fun q hq => Nat.le_of_lt_succ (hu q hq)
    exact fun x hx => Nat.lt_succ_of_le (h.past x hx)

/-- **Requests for other partitions**: the session stays where it stands, further back by the
partitions asked for, or goes for one of the two reasons. -/
theorem standing_after {p : String} {engine since : Nat} {seen : Finset String}
    (h : d.cache.Standing p engine since t seen) (htidy : d.cache.Tidy t)
    (hlimit : d.cache.limit ≠ 0) (hrising : Rising calls) (ht : ∀ q ∈ calls, t ≤ q.time)
    (hp : ∀ q ∈ calls, q.partition ≠ p) (hsince : ∀ q ∈ calls, since < q.time) {u : Nat}
    (htu : t ≤ u) (hu : ∀ q ∈ calls, q.time ≤ u) :
    (d.after calls).cache.Standing p engine since u
      (seen ∪ (calls.map (·.partition)).toFinset) := by
  induction calls generalizing d t seen with
  | nil =>
    rw [List.map_nil, List.toFinset_nil, Finset.union_empty]
    exact h.mono htu
  | cons q rest ih =>
    obtain ⟨htq, -⟩ := List.forall_mem_cons.1 ht
    obtain ⟨hqp, hp⟩ := List.forall_mem_cons.1 hp
    obtain ⟨hsq, hsince⟩ := List.forall_mem_cons.1 hsince
    obtain ⟨hqu, hu⟩ := List.forall_mem_cons.1 hu
    have hstep : (d.serve q).cache.Standing p engine since q.time (insert q.partition seen) :=
      h.grants htidy (htidy.request_grants q.time q.partition d.made) hlimit hqp hsq htq
    have hrest := ih hstep (tidy_serve htidy htq) ((d.limit_serve q).symm ▸ hlimit)
      hrising.of_cons hrising.le_of_cons hp hsince hqu hu
    rwa [Finset.insert_union, ← Finset.union_insert, ← List.toFinset_cons, ← List.map_cons] at hrest

/-- A call leaves its session in front of all others. -/
lemma standing_serve {limit : Nat} (expiry : Duration) (hlimit : 1 ≤ limit) {before : List Demand}
    {p : String} {a : Nat} (hrising : Rising (before ++ [⟨a, p⟩])) :
    let d := (opened limit expiry).after before
    (d.serve ⟨a, p⟩).cache.Standing p (d.answer ⟨a, p⟩).engine a a ∅ ∧
      (d.serve ⟨a, p⟩).cache.Tidy a := by
  intro d
  obtain ⟨hbefore, -, hfirst⟩ := List.pairwise_append.1 hrising
  have hstart : ∀ q ∈ before, q.time < a :=
    fun q hq => hfirst q hq ⟨a, p⟩ (List.mem_singleton_self _)
  have hne : d.cache.limit ≠ 0 := by
    rw [((opened limit expiry).settings_after before).1]
    exact Nat.one_le_iff_ne_zero.1 hlimit
  have htidy : d.cache.Tidy a := tidy_after (SessionCache.tidy_empty limit expiry 0) hbefore
    (fun _ _ => Nat.zero_le _) (Nat.zero_le a) fun q hq => Nat.le_of_lt (hstart q hq)
  refine ⟨?_, tidy_serve htidy (Nat.le_refl a)⟩
  obtain ⟨rest, hsessions, hsub, -, -⟩ := (htidy.request_grants a p d.made).sessions_eq htidy hne
  refine .held [] rest hsessions (fun _ h => nomatch h) (fun x hx => ?_) rfl
  exact lastUsed_lt_after limit expiry hbefore hstart x
    ((hsub.trans (d.cache.alive_sublist a)).subset hx)

/-- The next call for the partition, after calls for others. -/
lemma answer_after {p : String} {engine a b : Nat} (h : d.cache.Standing p engine a a ∅)
    (htidy : d.cache.Tidy a) (hlimit : d.cache.limit ≠ 0)
    (hrising : Rising (⟨a, p⟩ :: calls ++ [⟨b, p⟩])) (hp : ∀ q ∈ calls, q.partition ≠ p) :
    let met := b - a < d.cache.expiry.nanos ∧
      (calls.map (·.partition)).toFinset.card < d.cache.limit
    let second := (d.after calls).answer ⟨b, p⟩
    (met ∧ second.engine = engine ∧ second.isNew = false) ∨
      (¬ met ∧ second.engine = (d.after calls).made ∧ second.isNew = true) := by
  intro met second
  obtain ⟨hfrom, -, hlast⟩ := List.pairwise_append.1 hrising
  obtain ⟨hsince, hcalls⟩ := List.pairwise_cons.1 hfrom
  have hend : ∀ q ∈ (⟨a, p⟩ : Demand) :: calls, q.time ≤ b := fun q hq =>
    Nat.le_of_lt (hlast q hq ⟨b, p⟩ (List.mem_singleton_self _))
  obtain ⟨hab, hub⟩ := List.forall_mem_cons.1 hend
  have hfrom : ∀ q ∈ calls, a ≤ q.time := fun q hq => Nat.le_of_lt (hsince q hq)
  have hafter := standing_after h htidy hlimit hcalls hfrom hp hsince hab hub
  have htidy' := tidy_after htidy hcalls hfrom hab hub
  obtain ⟨hlimit', hexpiry'⟩ := d.settings_after calls
  have hanswer := hafter.answer htidy' (htidy'.request_grants b p (d.after calls).made)
    (hlimit'.symm ▸ hlimit) (Nat.le_refl b)
  rw [hlimit', hexpiry', Finset.empty_union] at hanswer
  exact hanswer.imp (fun h => ⟨⟨h.1, h.2.1⟩, h.2.2⟩) id

/-- **A session cache goes by last use and idle time**, and by nothing else. Of two calls for one
partition with calls for other partitions between them, the second is answered with the engine of
the first just if less than the expiry has gone by and fewer other partitions than the limit have
been asked for; otherwise its engine is a new one. A cache without room shares no engine. -/
theorem lru (limit : Nat) (expiry : Duration) :
    (1 ≤ limit → ∀ (before between : List Demand) (p : String) (a b : Nat),
      Rising (before ++ ⟨a, p⟩ :: between ++ [⟨b, p⟩]) → (∀ q ∈ between, q.partition ≠ p) →
      let d := (opened limit expiry).after before
      let first := d.answer ⟨a, p⟩
      let second := ((d.serve ⟨a, p⟩).after between).answer ⟨b, p⟩
      (second.engine = first.engine ↔
        b - a < expiry.nanos ∧ (between.map (·.partition)).toFinset.card < limit) ∧
      (second.engine = first.engine → second.isNew = false) ∧
      (second.engine ≠ first.engine → second.isNew = true ∧
        ∀ x ∈ (opened limit expiry).answers (before ++ ⟨a, p⟩ :: between),
          x.engine ≠ second.engine)) ∧
    (limit = 0 → ∀ calls : List Demand,
      (((opened limit expiry).answers calls).map (·.engine)).Nodup) := by
  refine ⟨fun hlimit before between p a b hrising hp => ?_,
    fun hlimit calls => (nodup_answers hlimit calls).2⟩
  intro d first second
  have hnumbers : (opened limit expiry).Numbers := fun _ h => nomatch h
  obtain ⟨hdlimit, hdexpiry⟩ := (opened limit expiry).settings_after before
  have hlimit' : (d.serve ⟨a, p⟩).cache.limit = limit := (d.limit_serve _).trans hdlimit
  have hexpiry' : (d.serve ⟨a, p⟩).cache.expiry = expiry := (d.expiry_serve _).trans hdexpiry
  have hinit : Rising (before ++ [⟨a, p⟩]) := hrising.sublist (by simp)
  have htail : Rising (⟨a, p⟩ :: between ++ [⟨b, p⟩]) := hrising.sublist (by simp)
  obtain ⟨hstanding, htidy⟩ := standing_serve expiry hlimit hinit
  have hanswer := answer_after hstanding htidy
    (hlimit'.symm ▸ Nat.one_le_iff_ne_zero.1 hlimit) htail hp
  rw [hlimit', hexpiry'] at hanswer
  -- an engine made for the second call has a number that no engine had before
  have hbefore : ∀ x ∈ (opened limit expiry).answers (before ++ ⟨a, p⟩ :: between),
      x.engine < ((d.serve ⟨a, p⟩).after between).made := by
    have h := hnumbers.answers_lt (before ++ ⟨a, p⟩ :: between)
    rwa [after_append, after_cons] at h
  have hfirst : first.engine < ((d.serve ⟨a, p⟩).after between).made :=
    Nat.lt_of_lt_of_le ((hnumbers.after before).engine_lt ⟨a, p⟩) (made_le_after _ between)
  rcases hanswer with ⟨hmet, hsame, hold⟩ | ⟨hnot, hmade, hnew⟩
  · exact ⟨⟨fun _ => hmet, fun _ => hsame⟩, fun _ => hold, fun h => absurd hsame h⟩
  · have hne : second.engine ≠ first.engine := fun h => by
      rw [← h] at hfirst
      exact absurd hmade (Nat.ne_of_lt hfirst)
    refine ⟨⟨fun h => absurd h hne, fun h => absurd h hnot⟩, fun h => absurd h hne,
      fun _ => ⟨hnew, fun x hx => ?_⟩⟩
    exact fun h => absurd (h.trans hmade) (Nat.ne_of_lt (hbefore x hx))

/-- Room for two: after calls for one other partition the engine is shared, after calls for two it
is not, and neither is it after the expiry. -/
theorem lru_two :
    let d := opened 2 (.ofMinutes 1)
    let minute := (Duration.ofMinutes 1).nanos
    (((d.serve ⟨0, "p"⟩).after [⟨1, "q"⟩, ⟨2, "q"⟩]).answer ⟨3, "p"⟩).engine = 0 ∧
      (((d.serve ⟨0, "p"⟩).after [⟨1, "q"⟩, ⟨2, "r"⟩]).answer ⟨3, "p"⟩).engine ≠ 0 ∧
      (((d.serve ⟨0, "p"⟩).after []).answer ⟨minute, "p"⟩).engine ≠ 0 := by
  intro d minute
  have hlru := (lru 2 (.ofMinutes 1)).1 (by decide)
  refine ⟨?_, ?_, ?_⟩
  · exact (hlru [] [⟨1, "q"⟩, ⟨2, "q"⟩] "p" 0 3 (by simp [Rising]) (by simp)).1.2 (by decide)
  · refine (hlru [] [⟨1, "q"⟩, ⟨2, "r"⟩] "p" 0 3 (by simp [Rising]) (by simp)).1.not.2 (by decide)
  · refine (hlru [] [] "p" 0 minute (by simp [Rising]; decide) (by simp)).1.not.2 (by decide)

end Desk

end Envelope
