import Envelope.Proofs.Run

/-!
Records that are refused before any key is looked up.

Whether a partition may read a record is a matter of the record alone. A record that it may not read
leaves the world as it was: no call is made, nothing is logged and no cache is touched.
-/

namespace Envelope

/-- The key id that the pointer of a record carries, be the pointer complete or not. -/
def DataRow.parentKeyId? (r : DataRow) : Option String := do (← (← r.key).parent).keyId

namespace Engine

variable {p : Partition} {row : DataRow}

/-- A record that names no key id which the partition accepts is refused, also if it names none. -/
lemma readable_of_parentKeyId? (h : ∀ id ∈ row.parentKeyId?, ¬ p.Accepts id) :
    ∃ link, readable p row = .error (.metadataMissing link) := by
  unfold readable
  cases hkey : row.key with
  | none => exact ⟨_, rfl⟩
  | some key =>
    dsimp only
    cases hparent : key.parent with
    | none => exact ⟨_, rfl⟩
    | some parent =>
      dsimp only
      cases hpointer : parent.meta? with
      | none => exact ⟨_, rfl⟩
      | some pointer =>
        have hid : parent.keyId = some pointer.keyId := by
          obtain ⟨_ | keyId, _ | created⟩ := parent <;> cases hpointer
          rfl
        dsimp only
        rw [if_neg (h _ (by simp [DataRow.parentKeyId?, hkey, hparent, hid]))]
        exact ⟨_, rfl⟩

/-- The refusal names the key id and the partition. -/
lemma readable_of_pointer? {q : KeyMeta} (h : row.pointer? = some q)
    (hacc : ¬ p.Accepts q.keyId) :
    readable p row = .error (.metadataMissing (.foreignParent q.keyId p)) := by
  obtain ⟨key, hkey, h⟩ := Option.bind_eq_some_iff.1 h
  obtain ⟨parent, hparent, h⟩ := Option.bind_eq_some_iff.1 h
  simp only [readable, hkey, hparent, h, if_neg hacc]

/-- **A refused record** leaves the workspace as it was. -/
lemma outcome_decrypt_of_readable {e : Engine} {w : Workspace} {text : Bytes} {err : Error}
    (ht : DataRow.ofJson text = .ok row) (hr : readable e.partition row = .error err) :
    (e.decrypt text).outcome w = (.error err, w) := by
  unfold decrypt
  rw [ht]
  show (Action.ofExcept (readable e.partition row) >>= _).outcome w = _
  rw [hr]
  rfl

end Engine

namespace World

/-- The session refuses the text for what it names, and the world stays as it is: no call is made
and no cache is touched. -/
def Refuses (w : World) (n : Nat) (text : Bytes) : Prop :=
  ∃ link, w.decrypt n text = some (.error (.metadataMissing link), w)

/-- The session opens the text to the payload if this holds, and refuses it if not. -/
structure OpensIff (w : World) (n : Nat) (text payload : Bytes) (accepted : Prop) : Prop where
  opens : accepted → (w.decrypt n text).map Prod.fst = some (.ok payload)
  refuses : ¬ accepted → w.Refuses n text

variable {m : Key} {w w' : World} {i : Nat} {s : EngineState} {c : KeyCache} {text : Bytes}

/-- **A refused record** leaves the world as it was. -/
lemma Bench.decrypt_of_readable (hb : Bench m w i s c) {row : DataRow} {err : Error}
    (ht : DataRow.ofJson text = .ok row)
    (hr : Engine.readable s.partition row = .error err) :
    w.decrypt i text = some (.error err, w) := by
  have hout : ((s.engine m).decrypt text).outcome (w.workspace s c) =
      (.error err, w.workspace s c) := Engine.outcome_decrypt_of_readable ht hr
  rw [World.decrypt, hb.work_eq, hout, hb.settle_workspace]

/-- A record that names a key id which the partition does not accept is refused. -/
lemma Bench.refuses (hb : Bench m w i s c) {q : KeyMeta}
    (hnamed : DataRow.named? text = some q) (hacc : ¬ s.partition.Accepts q.keyId) :
    w.Refuses i text := by
  unfold DataRow.named? at hnamed
  cases ht : DataRow.ofJson text with
  | error err =>
    rw [ht] at hnamed
    cases hnamed
  | ok row =>
    rw [ht] at hnamed
    exact ⟨_, hb.decrypt_of_readable ht (Engine.readable_of_pointer? hnamed hacc)⟩

/-- **What an engine returns** opens ever after in the partitions that accept its key id, and is
refused in all others. -/
lemma Bench.later (hb : Bench m w i s c) (hs : (s.engine m).Sound m (w.workspace s c))
    {payload : Bytes} (htext : (w.encrypt i payload).map Prod.fst = some (.ok text))
    (hgrows : (w.apply (.encrypt i payload)).environment.store.Grows w'.environment.store)
    {j : Nat} {s' : EngineState} {c' : KeyCache} (hb' : Bench m w' j s' c')
    (hs' : (s'.engine m).Sound m (w'.workspace s' c')) (hf : w'.environment.faults = .none) :
    w'.OpensIff j text payload (s'.partition.Accepts s.partition.intermediateKeyId) := by
  obtain ⟨created, k, named, -, opens⟩ := hb.returned hs htext
  refine ⟨fun hacc => ?_, hb'.refuses named⟩
  rw [hb'.decrypt_eq hs'.toCoherent hf, hgrows.openRow (opens _ hacc)]

lemma OpensIff.congr {n : Nat} {payload : Bytes} {a b : Prop}
    (h : w.OpensIff n text payload a) (hab : a ↔ b) : w.OpensIff n text payload b :=
  ⟨fun hb => h.opens (hab.2 hb), fun hb => h.refuses (hab.not.2 hb)⟩

end World

end Envelope
