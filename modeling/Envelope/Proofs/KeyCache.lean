import Envelope.KeyCache
import Envelope.Proofs.Store

/-!
Caches that agree with the store.

A cache mirrors a way to look keys up if every key it holds is the key that is looked up under the
same time, but for a revocation the cache has not seen. Putting a key that was just looked up
keeps this, and leaves that very key at its time.
-/

namespace Envelope

lemma Key.Persists.trans {k k' k'' : Key} (h : k.Persists k') (h' : k'.Persists k'') :
    k.Persists k'' :=
  ⟨h'.1.trans h.1, h'.2.1.trans h.2.1, fun hr => h'.2.2 (h.2.2 hr)⟩

lemma Key.Persists.antisymm {k k' : Key} (h : k.Persists k') (h' : k'.Persists k) : k' = k := by
  obtain ⟨s, c, r, hs⟩ := k
  obtain ⟨s', c', r', hs'⟩ := k'
  obtain ⟨rfl, rfl, hr⟩ := h
  obtain ⟨-, -, hr'⟩ := h'
  have : r' = r := by
    cases r <;> cases r' <;> simp_all
  subst this
  rfl

namespace KeyCache

variable {c c' c'' : KeyCache} {look look' : Stamp → Except Error Key} {now : Nat} {k : Key}

/-! ### What is handed out -/

lemma get?_eq_some {t : Time} :
    c.get? now t = some k ↔ ∃ e, c.entries.get? t = some e ∧ c.IsFresh now e ∧ e.key = k := by
  unfold get?
  simp only [Option.map_eq_some_iff, Option.filter_eq_some_iff, decide_eq_true_eq]
  tauto

lemma latest?_eq_some {t : Time} :
    c.latest? now = some (t, k) ↔
      ∃ e, c.entries.latest? = some (t, e) ∧ c.IsFresh now e ∧ e.key = k := by
  unfold latest?
  simp only [Option.map_eq_some_iff, Option.filter_eq_some_iff, decide_eq_true_eq]
  constructor
  · rintro ⟨⟨t', e⟩, ⟨hl, hf⟩, he⟩
    cases he
    exact ⟨e, hl, hf, rfl⟩
  · rintro ⟨e, hl, hf, rfl⟩
    exact ⟨(t, e), ⟨hl, hf⟩, rfl⟩

lemma get?_of_latest? {t : Time} {e : CachedKey} (h : c.entries.latest? = some (t, e)) :
    c.entries.get? t = some e :=
  (Timeline.latest?_eq_some_iff.1 h).1

/-! ### Puts -/

lemma entries_of_held {l : Timeline CachedKey} (h : c.held = some l) : c.entries = l := by
  unfold entries
  rw [h]
  rfl

@[simp] lemma revokeCheck_put (t : Time) : (c.put now t k).2.revokeCheck = c.revokeCheck := by
  unfold put
  split
  · rfl
  · split <;> rfl

lemma put_of_disposed (h : c.held = none) (t : Time) : c.put now t k = (k, c) := by
  unfold put
  rw [h]

lemma put_of_new {l : Timeline CachedKey} (h : c.held = some l) {t : Time} (hg : l.get? t = none) :
    c.put now t k = (k, { c with held := some (l.insertIfNew t ⟨k, now⟩) }) := by
  unfold put
  simp only [h, hg]

lemma put_of_get? {l : Timeline CachedKey} (h : c.held = some l) {t : Time} {e : CachedKey}
    (hg : l.get? t = some e) {kept : Key}
    (hkept : (if k.revoked then e.key.revoke else e.key) = kept) :
    c.put now t k = (kept, { c with held := some (l.modify t fun _ => ⟨kept, now⟩) }) := by
  unfold put
  simp only [h, hg, hkept]

lemma isSome_held_put (t : Time) : (c.put now t k).2.held.isSome = c.held.isSome := by
  unfold put
  split
  · next h => rw [h]
  · next h => split <;> rw [h] <;> rfl

/-- What a put may change is the entry of its time. -/
lemma get?_put {t u : Time} {e : CachedKey} (he : (c.put now t k).2.entries.get? u = some e) :
    c.entries.get? u = some e ∨ u = t ∧ e.since = now := by
  cases hh : c.held with
  | none =>
    rw [put_of_disposed hh] at he
    exact Or.inl he
  | some l =>
    cases hg : l.get? t with
    | none =>
      rw [put_of_new hh hg] at he
      replace he : (l.insertIfNew t ⟨k, now⟩).get? u = some e := he
      rw [Timeline.get?_insertIfNew, hg] at he
      rw [entries_of_held hh]
      split at he
      · next ht =>
        cases he
        exact Or.inr ⟨ht, rfl⟩
      · exact Or.inl he
    | some e₀ =>
      rw [put_of_get? hh hg rfl] at he
      replace he : (l.modify t fun _ => ⟨_, now⟩).get? u = some e := he
      rw [Timeline.get?_modify] at he
      rw [entries_of_held hh]
      split at he
      · next ht =>
        obtain ⟨_, -, rfl⟩ := Option.map_eq_some_iff.1 he
        exact Or.inr ⟨ht, rfl⟩
      · exact Or.inl he

/-! ### Agreement -/

/-- Every key held is the key that is looked up under its time, but for a revocation. -/
def Mirrors (c : KeyCache) (look : Stamp → Except Error Key) : Prop :=
  ∀ t e, c.entries.get? t = some e →
    e.key.created.time = t ∧ ∃ k, look e.key.created = .ok k ∧ e.key.Persists k

/-- The second cache holds what the first does and keys looked up just now. -/
structure Refreshes (c : KeyCache) (look : Stamp → Except Error Key) (now : Nat) (c' : KeyCache) :
    Prop where
  revokeCheck : c'.revokeCheck = c.revokeCheck
  held : c'.held.isSome = c.held.isSome
  entries : ∀ {t e}, c'.entries.get? t = some e →
    c.entries.get? t = some e ∨
      e.since = now ∧ e.key.created.time = t ∧ look e.key.created = .ok e.key

lemma mirrors_empty (revokeCheck : Duration) : (empty revokeCheck).Mirrors look :=
  fun _ _ h => nomatch h

lemma mirrors_dispose : c.dispose.Mirrors look := fun _ _ h => nomatch h

/-- Nothing is held by a cache without keys, disposed or not. -/
lemma mirrors_of_isEmpty (h : c.isEmpty = true) : c.Mirrors look := by
  intro t e he
  have hnil : c.entries.entries = [] := List.isEmpty_iff.1 h
  rw [Timeline.get?, hnil] at he
  cases he

lemma Refreshes.refl (c : KeyCache) : c.Refreshes look now c := ⟨rfl, rfl, fun h => Or.inl h⟩

lemma Refreshes.trans (h : c.Refreshes look now c') (h' : c'.Refreshes look' now c'')
    (hlook : ∀ {t k}, look t = .ok k → look' t = .ok k) : c.Refreshes look' now c'' := by
  refine ⟨h'.revokeCheck.trans h.revokeCheck, h'.held.trans h.held, fun he => ?_⟩
  rcases h'.entries he with he | he
  · rcases h.entries he with he | ⟨hn, hl⟩
    · exact Or.inl he
    · exact Or.inr ⟨hn, hl.1, hlook hl.2⟩
  · exact Or.inr he

/-- Agreement lasts while the keys looked up do. -/
lemma Mirrors.mono (h : c.Mirrors look)
    (hlook : ∀ {t k}, look t = .ok k → ∃ k', look' t = .ok k' ∧ k.Persists k') :
    c.Mirrors look' := by
  intro t e he
  obtain ⟨ht, k, hk, hp⟩ := h _ _ he
  obtain ⟨k', hk', hp'⟩ := hlook hk
  exact ⟨ht, k', hk', hp.trans hp'⟩

/-- The key of a time is held under that time. -/
lemma Mirrors.entry (h : c.Mirrors look) {t : Stamp} {e : CachedKey}
    (he : c.entries.get? t.time = some e) :
    e.key.created = t ∧ ∃ k, look t = .ok k ∧ e.key.Persists k := by
  obtain ⟨ht, k, hk, hp⟩ := h _ _ he
  have ht := Stamp.time_inj.1 ht
  exact ⟨ht, k, ht ▸ hk, hp⟩

lemma Mirrors.get? (h : c.Mirrors look) {t : Stamp} (hg : c.get? now t.time = some k) :
    k.created = t ∧ ∃ k', look t = .ok k' ∧ k.Persists k' := by
  obtain ⟨e, he, -, rfl⟩ := get?_eq_some.1 hg
  exact h.entry he

lemma Mirrors.latest? (h : c.Mirrors look) {t : Time} (hg : c.latest? now = some (t, k)) :
    k.created.time = t ∧ ∃ k', look k.created = .ok k' ∧ k.Persists k' := by
  obtain ⟨e, he, -, rfl⟩ := latest?_eq_some.1 hg
  exact h _ _ (get?_of_latest? he)

/-- The latest key is that of a fresh entry under its own time. -/
lemma Mirrors.exists_entry (h : c.Mirrors look) {t : Time} (hg : c.latest? now = some (t, k)) :
    ∃ e, c.entries.get? k.created.time = some e ∧ c.IsFresh now e ∧ e.key = k := by
  obtain ⟨e, he, hfresh, rfl⟩ := latest?_eq_some.1 hg
  rw [(h.latest? hg).1]
  exact ⟨e, get?_of_latest? he, hfresh, rfl⟩

/-- **A put of a key just looked up** returns the key and leaves it at its time. -/
theorem Mirrors.put (h : c.Mirrors look) (hk : look k.created = .ok k) :
    (c.put now k.created.time k).1 = k ∧
      ∀ t, (c.put now k.created.time k).2.entries.get? t =
        if c.held.isSome ∧ t = k.created.time then some ⟨k, now⟩ else c.entries.get? t := by
  cases hh : c.held with
  | none => simp [put_of_disposed hh]
  | some l =>
    have hl : c.entries = l := entries_of_held hh
    cases hg : l.get? k.created.time with
    | none =>
      rw [put_of_new hh hg]
      refine ⟨rfl, fun t => ?_⟩
      show (l.insertIfNew k.created.time ⟨k, now⟩).get? t = _
      rw [Timeline.get?_insertIfNew, hg, hl]
      simp
    | some e =>
      have hkept : (if k.revoked then e.key.revoke else e.key) = k := by
        obtain ⟨hc, k', hk', hp⟩ := h.entry (hl.symm ▸ hg)
        rw [hk] at hk'
        cases hk'
        refine Key.Persists.antisymm (k := k) ?_ ?_
        · split
          · exact ⟨hp.1.symm, hp.2.1.symm, fun _ => rfl⟩
          · next hr => exact ⟨hp.1.symm, hp.2.1.symm, fun hr' => absurd hr' hr⟩
        · split
          · next hr => exact ⟨hp.1, hp.2.1, fun _ => hr⟩
          · exact hp
      rw [put_of_get? hh hg hkept]
      refine ⟨rfl, fun t => ?_⟩
      show (l.modify k.created.time fun _ => ⟨k, now⟩).get? t = _
      rw [Timeline.get?_modify, hl]
      by_cases ht : t = k.created.time
      · subst ht
        simp [hg]
      · simp [ht]

lemma Mirrors.refreshes_put (h : c.Mirrors look) (hk : look k.created = .ok k) :
    c.Refreshes look now (c.put now k.created.time k).2 := by
  refine ⟨revokeCheck_put _, isSome_held_put _, fun {t e} he => ?_⟩
  rw [(h.put hk).2 t] at he
  split at he
  · next ht =>
    cases he
    exact Or.inr ⟨rfl, ht.2.symm, hk⟩
  · exact Or.inl he

lemma Mirrors.of_refreshes (h : c.Mirrors look) (hr : c.Refreshes look' now c')
    (hlook : ∀ {t k}, look t = .ok k → ∃ k', look' t = .ok k' ∧ k.Persists k') :
    c'.Mirrors look' := by
  intro t e he
  rcases hr.entries he with he | ⟨-, ht, hl⟩
  · exact h.mono hlook _ _ he
  · exact ⟨ht, e.key, hl, .refl _⟩

end KeyCache

end Envelope
