import Mathlib.Data.List.Nodup
import Envelope.Proofs.SessionCache

/-!
# How a session cache answers

A request for a session drops what has been idle for too long, then shares the session of the
partition or makes room for a new one. Which of several sessions with the least last use goes is
left open by `Grants`; the cache itself, which keeps its sessions in the order of use, takes the
last. Any answer in order keeps the cache to one session for a partition and to its limit.
-/

namespace Envelope

/-- The sessions that a request drives out. -/
def Admission.gone (a : Admission) : List CachedSession := a.idle ++ a.oldest.toList

namespace SessionCache

variable {c : SessionCache} {now t fresh : Nat} {partition : String} {a : Admission}

/-! ### What a request may do -/

/-- The sessions that have not been idle for too long. -/
def alive (c : SessionCache) (now : Nat) : List CachedSession := c.sessions.filter (c.IsAlive now ·)

/-- The sessions that have. -/
def idle (c : SessionCache) (now : Nat) : List CachedSession :=
  c.sessions.filter (¬ c.IsAlive now ·)

lemma mem_alive {x : CachedSession} : x ∈ c.alive now ↔ x ∈ c.sessions ∧ c.IsAlive now x := by
  simp [alive]

lemma mem_idle {x : CachedSession} : x ∈ c.idle now ↔ x ∈ c.sessions ∧ ¬ c.IsAlive now x := by
  simp [idle]

lemma alive_sublist (c : SessionCache) (now : Nat) : (c.alive now).Sublist c.sessions :=
  List.filter_sublist

/-- The answers to a request that are in order: if a session has to go to make room, it is any of
those least recently used. -/
inductive Grants (c : SessionCache) (now : Nat) (partition : String) (fresh : Nat) :
    Admission → Prop
  /-- Nothing is ever kept. -/
  | uncached (hlimit : c.limit = 0) : Grants c now partition fresh ⟨fresh, true, [], none, c⟩
  | shared (s : CachedSession) (hlimit : c.limit ≠ 0) (hs : s ∈ c.alive now)
      (hp : s.partition = partition) :
    Grants c now partition fresh ⟨s.engine, false, c.idle now, none,
      { c with sessions :=
          { s with lastUsed := now } :: (c.alive now).filter (·.partition ≠ partition) }⟩
  | added (hlimit : c.limit ≠ 0) (hp : ∀ s ∈ c.alive now, s.partition ≠ partition)
      (hroom : (c.alive now).length < c.limit) :
    Grants c now partition fresh ⟨fresh, true, c.idle now, none,
      { c with sessions := ⟨partition, fresh, now⟩ :: c.alive now }⟩
  | replaced (victim : CachedSession) (hlimit : c.limit ≠ 0)
      (hp : ∀ s ∈ c.alive now, s.partition ≠ partition) (hfull : c.limit ≤ (c.alive now).length)
      (hv : victim ∈ c.alive now) (hleast : ∀ s ∈ c.alive now, victim.lastUsed ≤ s.lastUsed) :
    Grants c now partition fresh ⟨fresh, true, c.idle now, some victim,
      { c with sessions := ⟨partition, fresh, now⟩ :: (c.alive now).erase victim }⟩

/-- What a session cache is kept like: one session for a partition, the latest used first, and no
more than there is room for. -/
structure Tidy (c : SessionCache) (now : Nat) : Prop where
  nodup : (c.sessions.map (·.partition)).Nodup
  sorted : c.sessions.Pairwise fun x y => y.lastUsed ≤ x.lastUsed
  past : ∀ x ∈ c.sessions, x.lastUsed ≤ now
  size : c.sessions.length ≤ c.limit

lemma tidy_empty (limit : Nat) (expiry : Duration) (now : Nat) : (empty limit expiry).Tidy now :=
  ⟨List.nodup_nil, List.Pairwise.nil, fun _ h => (nomatch h), Nat.zero_le _⟩

lemma Tidy.mono (h : c.Tidy t) (ht : t ≤ now) : c.Tidy now :=
  ⟨h.nodup, h.sorted, fun x hx => Nat.le_trans (h.past x hx) ht, h.size⟩

/-- A partition has one session. -/
lemma Tidy.eq_of_partition (h : c.Tidy t) {x y : CachedSession} (hx : x ∈ c.sessions)
    (hy : y ∈ c.sessions) (hp : x.partition = y.partition) : x = y :=
  List.inj_on_of_nodup_map h.nodup hx hy hp

lemma Tidy.nodup_sessions (h : c.Tidy t) : c.sessions.Nodup := h.nodup.of_map _

/-- The sessions that are alive, without the last of them. -/
lemma Tidy.alive_concat (h : c.Tidy t) {kept : List CachedSession} {last : CachedSession}
    (halive : c.alive now = kept ++ [last]) :
    (c.alive now).erase last = kept ∧ ∀ s ∈ c.alive now, last.lastUsed ≤ s.lastUsed := by
  have hnodup := h.nodup_sessions.sublist (c.alive_sublist now)
  have hsorted := h.sorted.sublist (c.alive_sublist now)
  rw [halive] at hnodup hsorted ⊢
  have hlast : last ∉ kept := fun hmem =>
    (List.nodup_append.1 hnodup).2.2 last hmem last (List.mem_singleton_self last) rfl
  refine ⟨?_, fun s hs => ?_⟩
  · rw [List.erase_append_right _ hlast, List.erase_cons_head, List.append_nil]
  · rcases List.mem_append.1 hs with hs | hs
    · exact (List.pairwise_append.1 hsorted).2.2 s hs last (List.mem_singleton_self last)
    · exact List.mem_singleton.1 hs ▸ Nat.le_refl _

/-- The cache answers in order: the last of its sessions is one of those least recently used. -/
lemma Tidy.request_grants (h : c.Tidy t) (now : Nat) (partition : String) (fresh : Nat) :
    c.Grants now partition fresh (c.request now partition fresh) := by
  unfold request
  split
  · next hlimit => exact .uncached hlimit
  · next hlimit =>
    dsimp only
    split
    · next s hs =>
      change (c.alive now).find? _ = some s at hs
      exact .shared s hlimit (List.mem_of_find?_eq_some hs) (by simpa using List.find?_some hs)
    · next hnone =>
      change (c.alive now).find? _ = none at hnone
      have hp : ∀ s ∈ c.alive now, s.partition ≠ partition := by simpa using hnone
      show c.Grants now partition fresh ⟨fresh, true, c.idle now,
        if c.limit ≤ (c.alive now).length then (c.alive now).getLast? else none,
        { c with sessions := ⟨partition, fresh, now⟩ ::
          if c.limit ≤ (c.alive now).length then (c.alive now).dropLast else c.alive now }⟩
      by_cases hfull : c.limit ≤ (c.alive now).length
      · have hne : c.alive now ≠ [] := by
          intro hnil
          rw [hnil] at hfull
          exact hlimit (Nat.le_zero.1 hfull)
        have halive := (List.dropLast_append_getLast hne).symm
        obtain ⟨herase, hleast⟩ := h.alive_concat halive
        rw [if_pos hfull, if_pos hfull, List.getLast?_eq_some_getLast hne, ← herase]
        exact .replaced _ hlimit hp hfull (List.getLast_mem hne) hleast
      · rw [if_neg hfull, if_neg hfull]
        exact .added hlimit hp (Nat.lt_of_not_le hfull)

namespace Grants

lemma settings (g : c.Grants now partition fresh a) :
    a.cache.limit = c.limit ∧ a.cache.expiry = c.expiry := by
  cases g <;> exact ⟨rfl, rfl⟩

/-- The session asked for stands first, before others that were alive and leave room for it. -/
lemma sessions_eq (g : c.Grants now partition fresh a) (h : c.Tidy t) (hlimit : c.limit ≠ 0) :
    ∃ rest, a.cache.sessions = ⟨partition, a.engine, now⟩ :: rest ∧
      rest.Sublist (c.alive now) ∧ (∀ x ∈ rest, x.partition ≠ partition) ∧
      rest.length < c.limit := by
  have hsize : (c.alive now).length ≤ c.limit :=
    Nat.le_trans (c.alive_sublist now).length_le h.size
  cases g with
  | uncached hlimit' => exact absurd hlimit' hlimit
  | shared s _ hs hp =>
    refine ⟨_, by rw [hp], List.filter_sublist, fun x hx => ?_, Nat.lt_of_lt_of_le ?_ hsize⟩
    · simpa using (List.mem_filter.1 hx).2
    · exact List.length_filter_lt_length_iff_exists.2 ⟨s, hs, by simpa using hp⟩
  | added _ hp hroom => exact ⟨_, rfl, .refl _, hp, hroom⟩
  | replaced victim _ hp _ hv _ =>
    refine ⟨_, rfl, List.erase_sublist, fun x hx => hp x (List.mem_of_mem_erase hx), ?_⟩
    have := List.length_pos_of_mem hv
    rw [List.length_erase_of_mem hv]
    omega

/-- A session that is listed afterwards is the one asked for, or another that was alive. -/
lemma mem (g : c.Grants now partition fresh a) (h : c.Tidy t) (hlimit : c.limit ≠ 0)
    {x : CachedSession} (hx : x ∈ a.cache.sessions) :
    x = ⟨partition, a.engine, now⟩ ∨ x ∈ c.alive now ∧ x.partition ≠ partition := by
  obtain ⟨rest, hsessions, hsub, hp, -⟩ := g.sessions_eq h hlimit
  rw [hsessions] at hx
  exact (List.mem_cons.1 hx).imp id fun hx => ⟨hsub.subset hx, hp x hx⟩

/-- **An answer in order** leaves a cache that is kept as before. -/
theorem tidy (g : c.Grants now partition fresh a) (h : c.Tidy t) (ht : t ≤ now) :
    a.cache.Tidy now := by
  by_cases hlimit : c.limit = 0
  · cases g with
    | uncached _ => exact h.mono ht
    | shared _ hlimit' | added hlimit' | replaced _ hlimit' => exact absurd hlimit hlimit'
  · obtain ⟨rest, hsessions, hsub, hp, hlength⟩ := g.sessions_eq h hlimit
    replace hsub := hsub.trans (c.alive_sublist now)
    have hpast : ∀ x ∈ rest, x.lastUsed ≤ now := fun x hx =>
      Nat.le_trans (h.past x (hsub.subset hx)) ht
    constructor
    · rw [hsessions, List.map_cons, List.nodup_cons]
      refine ⟨fun hmem => ?_, h.nodup.sublist (hsub.map _)⟩
      obtain ⟨x, hx, hxp⟩ := List.mem_map.1 hmem
      exact hp x hx hxp
    · rw [hsessions]
      exact .cons hpast (h.sorted.sublist hsub)
    · rw [hsessions]
      exact List.forall_mem_cons.2 ⟨Nat.le_refl _, hpast⟩
    · rw [hsessions, g.settings.1]
      exact hlength

/-! ### Who goes and who stays -/

/-- What goes was listed. -/
lemma gone_subset (g : c.Grants now partition fresh a) : ∀ x ∈ a.gone, x ∈ c.sessions := by
  intro x hx
  cases g with
  | uncached => cases hx
  | shared _ _ _ _ | added _ _ _ =>
    exact (mem_idle.1 (by simpa [Admission.gone] using hx)).1
  | replaced victim _ _ _ hv _ =>
    rcases List.mem_append.1 hx with hx | hx
    · exact (mem_idle.1 hx).1
    · exact List.mem_singleton.1 hx ▸ (mem_alive.1 hv).1

/-- A session alive does not go for being idle. -/
lemma notMem_idle {x : CachedSession} (hx : x ∈ c.alive now) : x ∉ c.idle now :=
  fun hidle => (mem_idle.1 hidle).2 (mem_alive.1 hx).2

/-- What is listed afterwards is the fresh engine or one that was listed and has not gone. -/
lemma origin (g : c.Grants now partition fresh a) (h : c.Tidy t) {y : CachedSession}
    (hy : y ∈ a.cache.sessions) :
    (a.isNew = true ∧ y.partition = partition ∧ y.engine = fresh) ∨
      ∃ x ∈ c.sessions, x ∉ a.gone ∧ x.partition = y.partition ∧ x.engine = y.engine := by
  cases g with
  | uncached => exact Or.inr ⟨y, hy, by simp [Admission.gone], rfl, rfl⟩
  | shared s _ hs _ =>
    rcases List.mem_cons.1 hy with rfl | hy
    · exact Or.inr ⟨s, (mem_alive.1 hs).1, by simpa [Admission.gone] using notMem_idle hs, rfl, rfl⟩
    · replace hy := (List.mem_filter.1 hy).1
      exact Or.inr ⟨y, (mem_alive.1 hy).1, by simpa [Admission.gone] using notMem_idle hy, rfl, rfl⟩
  | added _ _ _ =>
    rcases List.mem_cons.1 hy with rfl | hy
    · exact Or.inl ⟨rfl, rfl, rfl⟩
    · exact Or.inr ⟨y, (mem_alive.1 hy).1, by simpa [Admission.gone] using notMem_idle hy, rfl, rfl⟩
  | replaced victim _ _ _ _ _ =>
    rcases List.mem_cons.1 hy with rfl | hy
    · exact Or.inl ⟨rfl, rfl, rfl⟩
    · have hnodup := h.nodup_sessions.sublist (c.alive_sublist now)
      obtain ⟨hne, hy⟩ := hnodup.mem_erase_iff.1 hy
      refine Or.inr ⟨y, (mem_alive.1 hy).1, ?_, rfl, rfl⟩
      simpa [Admission.gone] using ⟨notMem_idle hy, hne⟩

/-- The engine of a session that has not gone is listed afterwards. -/
lemma stays (g : c.Grants now partition fresh a) (h : c.Tidy t) {x : CachedSession}
    (hx : x ∈ c.sessions) (hgone : x ∉ a.gone) : ∃ y ∈ a.cache.sessions, y.engine = x.engine := by
  have halive (hidle : x ∉ c.idle now) : x ∈ c.alive now :=
    mem_alive.2 ⟨hx, by_contra fun h => hidle (mem_idle.2 ⟨hx, h⟩)⟩
  have hidle (hidle : x ∈ a.idle) : False := hgone (List.mem_append_left _ hidle)
  cases g with
  | uncached => exact ⟨x, hx, rfl⟩
  | shared s _ hs hp =>
    by_cases hxp : x.partition = partition
    · rw [h.eq_of_partition hx (mem_alive.1 hs).1 (hxp.trans hp.symm)]
      exact ⟨_, List.mem_cons_self, rfl⟩
    · exact ⟨x, List.mem_cons_of_mem _ (List.mem_filter.2 ⟨halive hidle, by simpa using hxp⟩), rfl⟩
  | added _ _ _ => exact ⟨x, List.mem_cons_of_mem _ (halive hidle), rfl⟩
  | replaced victim _ _ _ _ _ =>
    have hne : x ≠ victim := fun heq => hgone (List.mem_append_right _ (by simp [heq]))
    exact ⟨x, List.mem_cons_of_mem _ ((List.mem_erase_of_ne hne).2 (halive hidle)), rfl⟩

/-- A fresh engine is the answer and is listed. -/
lemma of_isNew (g : c.Grants now partition fresh a) (hnew : a.isNew = true) : a.engine = fresh := by
  cases g with
  | shared _ _ _ _ => cases hnew
  | _ => rfl

/-- The answer is listed, unless nothing is kept. -/
lemma answer_mem (g : c.Grants now partition fresh a) (h : c.Tidy t) (hlimit : c.limit ≠ 0) :
    ⟨partition, a.engine, now⟩ ∈ a.cache.sessions := by
  obtain ⟨rest, hsessions, -⟩ := g.sessions_eq h hlimit
  rw [hsessions]
  exact List.mem_cons_self

end Grants

end SessionCache

end Envelope
