import Envelope.Proofs.DataRow
import Envelope.Proofs.Resolution

/-!
Opening data row records.

What a record opens to is a function of the store alone. An engine whose caches mirror the store
opens a record to just that, and its caches change only by what it has read on the way.
-/

namespace Envelope

open Envelope.Action

/-! ### What a record opens to -/

/-- What a data row record opens to in a partition, read from the store. -/
def Store.openRow (s : Store) (m : Key) (p : Partition) (text : Bytes) : Except Error Bytes := do
  let row ← DataRow.ofJson text
  let row ← Engine.readable p row
  let k ← s.intermediateKey m row.pointer
  (k.openPayload row.cipherText row.wrappedKey row.created).mapError Error.ofCipher

lemma Engine.pointer?_of_readable {p : Partition} {row : DataRow} {rd : Engine.Readable}
    (h : Engine.readable p row = .ok rd) :
    row.pointer? = some rd.pointer ∧ p.Accepts rd.pointer.keyId := by
  unfold Engine.readable at h
  split at h
  · cases h
  · next key hkey =>
    split at h
    · cases h
    · next parent hparent =>
      split at h
      · cases h
      · next pointer hpointer =>
        split at h
        · next hacc =>
          obtain ⟨wrapped, -, h⟩ := Except.bind_eq_ok_iff.1 h
          obtain ⟨cipherText, -, h⟩ := Except.bind_eq_ok_iff.1 h
          cases h
          refine ⟨?_, hacc⟩
          simp only [DataRow.pointer?, hkey, hparent, Option.bind_eq_bind, Option.bind_some,
            hpointer]
        · cases h

/-- The record of a sealed payload may be read where its key id is accepted. -/
lemma Engine.readable_ofParts {p : Partition} {pointer : KeyMeta} (h : p.Accepts pointer.keyId)
    (created : Stamp) (wrapped cipherText : Bytes) :
    Engine.readable p (.ofParts created wrapped pointer cipherText) =
      .ok ⟨pointer, created, wrapped, cipherText⟩ := by
  simp only [Engine.readable, DataRow.ofParts, ParentPointer.meta?_ofMeta, if_pos h,
    DataRowKey.keyBytes, DataRow.cipherText, Base64.decodeText_encodeText]
  rfl

lemma Store.openRow_of_readable {s : Store} {m k : Key} {p : Partition} {text : Bytes}
    {row : DataRow} {rd : Engine.Readable} (ht : DataRow.ofJson text = .ok row)
    (hr : Engine.readable p row = .ok rd) (hk : s.intermediateKey m rd.pointer = .ok k) :
    s.openRow m p text =
      (k.openPayload rd.cipherText rd.wrappedKey rd.created).mapError Error.ofCipher := by
  unfold openRow
  rw [ht]
  show (Engine.readable p row >>= _) = _
  rw [hr]
  show (s.intermediateKey m rd.pointer >>= _) = _
  rw [hk]
  rfl

/-- **A record that opens once opens for ever**, to the same payload. -/
theorem Store.Grows.openRow {s s' : Store} {m : Key} {p : Partition} {text payload : Bytes}
    (h : s.Grows s') (ho : s.openRow m p text = .ok payload) :
    s'.openRow m p text = .ok payload := by
  cases ht : DataRow.ofJson text with
  | error err =>
    simp only [Store.openRow, ht] at ho
    cases ho
  | ok row =>
    cases hr : Engine.readable p row with
    | error err =>
      simp only [Store.openRow, ht] at ho
      replace ho : (Engine.readable p row >>= _) = _ := ho
      rw [hr] at ho
      cases ho
    | ok rd =>
      cases hk : s.intermediateKey m rd.pointer with
      | error err =>
        simp only [Store.openRow, ht] at ho
        replace ho : (Engine.readable p row >>= _) = _ := ho
        rw [hr] at ho
        replace ho : (s.intermediateKey m rd.pointer >>= _) = _ := ho
        rw [hk] at ho
        cases ho
      | ok k =>
        obtain ⟨k', hk', hp⟩ := h.intermediateKey hk
        rw [Store.openRow_of_readable ht hr hk] at ho
        rw [Store.openRow_of_readable ht hr hk', Key.openPayload_congr hp.1, ho]

namespace Engine

variable {e : Engine} {m : Key} {w w' : Workspace}

/-! ### Reading an intermediate key -/

/-- The intermediate key cache after a key has been read: a key that had to be loaded is put. -/
def renewed (e : Engine) (c : KeyCache) (now : Nat) (p : KeyMeta) (k : Key) : KeyCache :=
  if e.cachesIntermediateKey p = true ∧ c.get? now p.created.time = none then
    (c.put now k.created.time k).2
  else c

/-- The workspace after the intermediate key of a pointer has been read. -/
structure ReadsKey (e : Engine) (m : Key) (w : Workspace) (p : KeyMeta) (k : Key)
    (w' : Workspace) : Prop where
  environment : w.environment.Keeps w'.environment
  systemKeys : w.systemKeys.Refreshes
    (fun t => w.environment.store.systemKey m ⟨e.partition.systemKeyId, t⟩)
    w.environment.clock.elapsed w'.systemKeys
  key : w.environment.store.intermediateKey m p = .ok k
  intermediateKeys : w'.intermediateKeys =
    e.renewed w.intermediateKeys w.environment.clock.elapsed p k

/-- A record opened with the system key that a pointer names. -/
lemma yields_openThrough (hw : e.Coherent m w) (r : KeyRecord) (parent : KeyMeta) :
    (do
      let systemKey ← e.systemKeyForRead parent
      liftM (openIntermediateRecord r systemKey.key) : Work Key).Yields w
      (fun k w' => e.Reads m w w' ∧
        ∃ outer, w.environment.store.systemKey m parent = .ok outer ∧ r.openWith outer = .ok k)
      (e.ReadFailure m w (do r.openWith (← w.environment.store.systemKey m parent))) := by
  refine (yields_systemKeyForRead hw parent).bind (fun handle w' h => ?_) fun err w' h => ?_
  · obtain ⟨hreads, outer, ho, hp⟩ := h
    have hcongr := KeyRecord.openWith_congr hp.1.symm r
    refine yields_lift.2 ((yields_openIntermediateRecord r handle.key).mono (fun k env h => ?_)
      fun err env h => ?_)
    · obtain ⟨hk, rfl⟩ := h
      exact ⟨hreads, outer, ho, hcongr ▸ hk⟩
    · obtain ⟨hk, rfl⟩ := h
      refine ⟨hreads, Or.inr ?_⟩
      rw [ho]
      exact hcongr.symm.trans hk
  · refine ⟨h.1, h.2.imp id fun ho => ?_⟩
    rw [ho]
    rfl

lemma yields_loadIntermediateKey (hw : e.Coherent m w) (p : KeyMeta) :
    (e.loadIntermediateKey p).Yields w
      (fun k w' => e.Reads m w w' ∧ w.environment.store.intermediateKey m p = .ok k)
      (e.ReadFailure m w (w.environment.store.intermediateKey m p)) := by
  unfold loadIntermediateKey
  refine yields_lift_bind (Effect.yields_loadRecord hw.faults p) (fun r env hr => ?_)
    fun err env h => ⟨.of_keeps h.2, Or.inl h.1⟩
  obtain ⟨rfl, hk⟩ := hr
  have hreads : e.Reads m w { w with environment := env } := .of_keeps hk
  cases hl : w.environment.store.load? p.keyId p.created.time with
  | none =>
    refine ⟨hreads, Or.inr ?_⟩
    simp only [Store.intermediateKey, hl]
  | some r =>
    cases hp : r.parent with
    | none =>
      dsimp only
      rw [hp]
      refine ⟨hreads, Or.inr ?_⟩
      simp only [Store.intermediateKey, hl, hp]
    | some parent =>
      have hpure : w.environment.store.intermediateKey m p =
          (do r.openWith (← w.environment.store.systemKey m parent)) := by
        simp only [Store.intermediateKey, hl, hp]
      dsimp only
      rw [hp, hpure]
      have h := yields_openThrough (hw.reads hreads) r parent
      simp only [hk.store] at h
      refine h.mono (fun k w' h => ?_) fun err w' h => ?_
      · obtain ⟨hr, outer, ho, hk⟩ := h
        refine ⟨hreads.trans hr, ?_⟩
        rw [ho]
        exact hk
      · exact ⟨hreads.trans h.1, h.2.imp hk.faults.plans id⟩

/-- **An intermediate key is read** as the store has it. -/
theorem yields_intermediateKeyForRead (hw : e.Coherent m w) (p : KeyMeta) :
    (e.intermediateKeyForRead p).Yields w
      (fun handle w' => ∃ k, e.ReadsKey m w p k w' ∧ handle.key.Persists k)
      (e.ReadFailure m w (w.environment.store.intermediateKey m p)) := by
  unfold intermediateKeyForRead
  refine Yields.bind (A := fun handle w' => ∃ k, e.ReadsKey m w p k w' ∧ handle.key.Persists k)
    ?_ (fun handle w' h => ?_) fun _ _ h => h
  · split
    · next hcache =>
      have hid := keyId_of_cachesIntermediateKey hcache
      unfold cachedIntermediateKey?
      simp only [yields_bind, yields_ofState]
      cases hg : w.intermediateKeys.get? w.environment.clock.elapsed p.created.time with
      | some key =>
        obtain ⟨-, k, hk, hp⟩ := hw.intermediateKeys.get? hg
        refine ⟨k, ⟨.refl _, .refl _, ?_, ?_⟩, hp⟩
        · rw [← hk, ← hid]
        · unfold renewed
          rw [hg, if_neg (by simp)]
      | none =>
        refine (yields_loadIntermediateKey hw p).bind (fun k w' h => ?_) fun _ _ h => h
        obtain ⟨hr, hk⟩ := h
        have hlook : w'.environment.store.intermediateKey m
            ⟨e.partition.intermediateKeyId, k.created⟩ = .ok k := by
          rw [hr.environment.store, hw.dated.created_of_intermediateKey hk, ← hid, hk]
        refine (yields_retainIntermediateKey (hw.reads hr) hlook).mono (fun handle w'' h => ?_)
          fun _ _ h => h
        obtain ⟨rfl, rfl⟩ := h
        refine ⟨handle.key, ⟨hr.environment, hr.systemKeys, hk, ?_⟩, .refl _⟩
        have hpol : e.policy.cachesIntermediateKeys = true := by
          simp only [cachesIntermediateKey, Bool.and_eq_true] at hcache
          exact hcache.1
        unfold renewed retained
        rw [if_pos hpol, if_pos (And.intro hcache hg), hr.intermediateKeys, hr.environment.clock]
    · next hcache =>
      refine (yields_loadIntermediateKey hw p).bind (fun k w' h => ?_) fun _ _ h => h
      obtain ⟨hr, hk⟩ := h
      refine ⟨k, ⟨hr.environment, hr.systemKeys, hk, ?_⟩, .refl _⟩
      unfold renewed
      rw [if_neg (fun h => hcache h.1), hr.intermediateKeys]
  · obtain ⟨k, hr, hp⟩ := h
    have noticed : ∀ event, e.ReadsKey m w p k { w' with environment :=
        { w'.environment with log := w'.environment.log ++ [event] } } := fun event =>
      ⟨hr.environment.trans (Effect.keeps_log _ event), hr.systemKeys, hr.key,
        hr.intermediateKeys⟩
    dsimp only
    split
    · refine yields_bind.2 (yields_lift.2 ?_)
      rw [Effect.yields_now]
      split
      · exact ⟨k, noticed _, hp⟩
      · exact ⟨k, hr, hp⟩
    · exact ⟨k, hr, hp⟩

/-! ### Opening -/

/-- The workspace after a record has been opened, or not: the key that its text names has been
read, or the answer is an error. -/
def Opened (e : Engine) (m : Key) (w : Workspace) (text : Bytes) (r : Except Error Bytes)
    (w' : Workspace) : Prop :=
  (∃ p k, DataRow.named? text = some p ∧ e.ReadsKey m w p k w') ∨
    e.Reads m w w' ∧ ∃ err, r = .error err

/-- Opening a record leaves the clock and the store as they are. -/
lemma Opened.keeps {text : Bytes} {r : Except Error Bytes} (h : e.Opened m w text r w') :
    w.environment.Keeps w'.environment := by
  rcases h with ⟨_, _, -, reads⟩ | ⟨reads, -⟩
  · exact reads.environment
  · exact reads.environment

/-- **An engine opens a record** to what it opens to by the store. -/
theorem yields_decrypt (hw : e.Coherent m w) (text : Bytes) :
    (e.decrypt text).Yields w
      (fun payload w' => e.Opened m w text (.ok payload) w' ∧
        w.environment.store.openRow m e.partition text = .ok payload)
      (fun err w' => e.Opened m w text (.error err) w' ∧ (w.environment.faults.Plans err ∨
        w.environment.store.openRow m e.partition text = .error err)) := by
  unfold decrypt
  refine yields_bind.2 (yields_ofExcept (fun row ht => ?_) fun err ht => ?_)
  · refine yields_bind.2 (yields_ofExcept (fun rd hr => ?_) fun err hr => ?_)
    · have hopen : w.environment.store.openRow m e.partition text =
          w.environment.store.intermediateKey m rd.pointer >>= fun k =>
            (k.openPayload rd.cipherText rd.wrappedKey rd.created).mapError Error.ofCipher := by
        unfold Store.openRow
        rw [ht]
        show (readable e.partition row >>= _) = _
        rw [hr]
        rfl
      have hnamed : DataRow.named? text = some rd.pointer := by
        unfold DataRow.named?
        rw [ht]
        exact (pointer?_of_readable hr).1
      refine (yields_intermediateKeyForRead hw rd.pointer).bind (fun handle w' h => ?_)
        fun err w' h => ?_
      · obtain ⟨k, hread, hp⟩ := h
        have hpayload := Key.openPayload_congr hp.1 rd.cipherText rd.wrappedKey rd.created
        rw [hread.key] at hopen
        refine yields_lift.2 ((Effect.yields_opened _).mono (fun payload env h => ?_)
          fun err env h => ?_)
        · obtain ⟨hres, rfl⟩ := h
          refine ⟨Or.inl ⟨_, k, hnamed, hread⟩, hopen.trans ?_⟩
          rw [← hres, ← hpayload]
          rfl
        · obtain ⟨hres, rfl⟩ := h
          refine ⟨Or.inl ⟨_, k, hnamed, hread⟩, Or.inr (hopen.trans ?_)⟩
          rw [← hres, ← hpayload]
          rfl
      · refine ⟨Or.inr ⟨h.1, err, rfl⟩, h.2.imp id fun herr => ?_⟩
        rw [hopen, herr]
        rfl
    · refine ⟨Or.inr ⟨.refl e m w, err, rfl⟩, Or.inr ?_⟩
      unfold Store.openRow
      rw [ht]
      show (readable e.partition row >>= _) = _
      rw [hr]
      rfl
  · refine ⟨Or.inr ⟨.refl e m w, err, rfl⟩, Or.inr ?_⟩
    unfold Store.openRow
    rw [ht]
    rfl

end Engine

end Envelope
