import Envelope.Proofs.FailedWrites
import Envelope.Proofs.Formats
import Envelope.Proofs.Opening
import Envelope.Proofs.ReadOnly
import Envelope.Proofs.Refusal
import Envelope.Proofs.Transparency
import Envelope.Proofs.Turns

/-!
# What becomes of a text that is to be opened

Three checks are made before any key is looked up: that the text is a record, that the record leads
to a key of the partition, and that its parts are base64. The first that fails decides the answer,
and the workspace is as it was. A record that passes them is opened by what the store holds: the
answer is that a key is missing just if one of the two records it needs is not there, and it is a
payload just if the payload was sealed into the record under the key that the store has.
Opening writes nothing, however it ends.
-/

namespace Envelope

open Envelope.Action

/-! ### What is checked of a text -/

namespace DataRow

/-- The text is that of the record, in whatever spelling. -/
def IsReadFrom (row : DataRow) (text : Bytes) : Prop :=
  ∃ v, Json.Value.parse? text = some v ∧ ofValue? v = some row

/-- The record has a complete pointer, to a key id that the partition accepts. -/
def LeadsTo (row : DataRow) (p : Partition) (q : KeyMeta) : Prop :=
  (∃ k, row.key = some k ∧ k.parent = some ⟨some q.keyId, some q.created⟩) ∧ p.Accepts q.keyId

/-- The wrapped data key and the sealed payload are there in base64. -/
def Decodes (row : DataRow) : Prop :=
  (∃ k wrapped, row.key = some k ∧ Base64.decodeText k.key = some wrapped) ∧
    ∃ data cipherText, row.data = some data ∧ Base64.decodeText data = some cipherText

/-- The parts of the record in base64 are these. -/
def DecodesTo (row : DataRow) (wrapped cipherText : Bytes) : Prop :=
  (∃ k, row.key = some k ∧ Base64.decodeText k.key = some wrapped) ∧
    ∃ data, row.data = some data ∧ Base64.decodeText data = some cipherText

/-- The record may come of sealing the payload under the key: the key has wrapped a data key, and
the data key has sealed the payload. -/
def Holds (row : DataRow) (k : Key) (payload : Bytes) : Prop :=
  ∃ wrapped cipherText dataKey, row.DecodesTo wrapped cipherText ∧ k.Wraps dataKey wrapped ∧
    dataKey.Seals payload cipherText

variable {row : DataRow} {text wrapped wrapped' cipherText cipherText' : Bytes} {p : Partition}
  {q : KeyMeta}

lemma Decodes.exists_decodesTo (h : row.Decodes) :
    ∃ wrapped cipherText, row.DecodesTo wrapped cipherText := by
  obtain ⟨⟨k, wrapped, hk, hw⟩, data, cipherText, hdata, hc⟩ := h
  exact ⟨wrapped, cipherText, ⟨k, hk, hw⟩, data, hdata, hc⟩

lemma DecodesTo.unique (h : row.DecodesTo wrapped cipherText)
    (h' : row.DecodesTo wrapped' cipherText') : wrapped = wrapped' ∧ cipherText = cipherText' := by
  obtain ⟨⟨k, hk, hw⟩, data, hdata, hc⟩ := h
  obtain ⟨⟨k', hk', hw'⟩, data', hdata', hc'⟩ := h'
  cases hk.symm.trans hk'
  cases hdata.symm.trans hdata'
  exact ⟨Option.some.inj (hw.symm.trans hw'), Option.some.inj (hc.symm.trans hc')⟩

lemma LeadsTo.pointer? (h : row.LeadsTo p q) : row.pointer? = some q := by
  obtain ⟨⟨k, hk, hparent⟩, -⟩ := h
  simp [DataRow.pointer?, hk, hparent, ParentPointer.meta?]

lemma IsReadFrom.ofJson (h : row.IsReadFrom text) : ofJson text = .ok row := by
  obtain ⟨v, hv, hrow⟩ := h
  have hne : text ≠ [] := by
    rintro rfl
    cases hv
  rw [DataRow.ofJson, if_neg hne, hv, Option.bind_some, Function.comp_apply]
  cases v <;> simp only [Json.Value.optional?, hrow, Option.map_some]
  cases hrow

lemma IsReadFrom.named? (h : row.IsReadFrom text) : named? text = row.pointer? := by
  rw [DataRow.named?, h.ofJson]
  rfl

lemma ofJson_of_not_isReadFrom (h : ∀ row, ¬ IsReadFrom row text) :
    ∃ fault, ofJson text = .error (.invalidArgument fault) := by
  unfold ofJson
  split
  · exact ⟨_, rfl⟩
  · split
    · exact ⟨_, rfl⟩
    · exact ⟨_, rfl⟩
    · next row hrow =>
      obtain ⟨v, hv, hread⟩ := Option.bind_eq_some_iff.1 hrow
      refine absurd ⟨v, hv, ?_⟩ (h row)
      cases v <;> simp [Json.Value.optional?] at hread <;> exact hread

end DataRow

namespace Engine

variable {row : DataRow} {p : Partition} {q : KeyMeta}

lemma readable_of_not_leadsTo (h : ∀ q, ¬ row.LeadsTo p q) :
    ∃ link, readable p row = .error (.metadataMissing link) := by
  unfold readable
  split
  · exact ⟨_, rfl⟩
  · next k hk =>
    split
    · exact ⟨_, rfl⟩
    · next parent hparent =>
      split
      · exact ⟨_, rfl⟩
      · next pointer hpointer =>
        split
        · next hacc =>
          have hq : row.pointer? = some pointer := by
            simp [DataRow.pointer?, hk, hparent, hpointer]
          exact absurd ⟨⟨k, hk, DataRow.pointer?_eq_some hk hq⟩, hacc⟩ (h pointer)
        · exact ⟨_, rfl⟩

lemma readable_of_leadsTo (h : row.LeadsTo p q) :
    ∃ k, row.key = some k ∧ readable p row = do
      return ⟨q, k.created, ← k.keyBytes, ← row.cipherText⟩ := by
  obtain ⟨⟨k, hk, hparent⟩, hacc⟩ := h
  refine ⟨k, hk, ?_⟩
  simp only [readable, hk, hparent]
  simp [ParentPointer.meta?, if_pos hacc]

lemma readable_of_not_decodes (h : row.LeadsTo p q) (hd : ¬ row.Decodes) :
    ∃ fault, readable p row = .error (.invalidArgument fault) := by
  obtain ⟨k, hk, hread⟩ := readable_of_leadsTo h
  rw [hread]
  unfold DataRowKey.keyBytes DataRow.cipherText
  cases hw : Base64.decodeText k.key with
  | none => exact ⟨_, rfl⟩
  | some wrapped =>
    cases hdata : row.data with
    | none => exact ⟨_, rfl⟩
    | some data =>
      cases hc : Base64.decodeText data with
      | none =>
        simp only [hc]
        exact ⟨_, rfl⟩
      | some cipherText => exact absurd ⟨⟨k, wrapped, hk, hw⟩, data, cipherText, hdata, hc⟩ hd

lemma readable_of_decodesTo {wrapped cipherText : Bytes} (h : row.LeadsTo p q)
    (hd : row.DecodesTo wrapped cipherText) :
    ∃ created, readable p row = .ok ⟨q, created, wrapped, cipherText⟩ := by
  obtain ⟨k, hk, hread⟩ := readable_of_leadsTo h
  obtain ⟨⟨k', hk', hw⟩, data, hdata, hc⟩ := hd
  cases hk.symm.trans hk'
  rw [hread]
  refine ⟨k.created, ?_⟩
  simp only [DataRowKey.keyBytes, hw, DataRow.cipherText, hdata, hc]
  rfl

end Engine

/-! ### What the store decides -/

lemma KeyRecord.openWith_eq_error {outer : Key} {r : KeyRecord} {err : Error}
    (h : r.openWith outer = .error err) : ∃ f, err = .application f := by
  unfold openWith at h
  cases hb : r.keyBytes with
  | error err' =>
    rw [hb] at h
    cases h
    unfold keyBytes at hb
    split at hb <;> cases hb
    exact ⟨_, rfl⟩
  | ok wrapped =>
    rw [hb] at h
    replace h : (outer.unwrap wrapped r.created r.isRevoked).mapError Error.ofCipher =
      .error err := h
    cases hu : outer.unwrap wrapped r.created r.isRevoked with
    | error fault =>
      rw [hu] at h
      cases h
      exact ⟨_, rfl⟩
    | ok key =>
      rw [hu] at h
      cases h

namespace Store

variable {s s' : Store} {m : Key} {p : Partition} {q : KeyMeta} {text : Bytes} {row : DataRow}

/-- One of the two records that a pointer needs is not there: that of the intermediate key, or that
of the system key which the former points to. -/
def Lacks (s : Store) (q : KeyMeta) : Prop :=
  s.load? q.keyId q.created.time = none ∨
    ∃ r parent, s.load? q.keyId q.created.time = some r ∧ r.parent = some parent ∧
      s.load? parent.keyId parent.created.time = none

lemma intermediateKey_of_lacks (h : s.Lacks q) :
    ∃ link, s.intermediateKey m q = .error (.metadataMissing link) := by
  rcases h with hnone | ⟨r, parent, hr, hparent, hnone⟩
  · exact ⟨.intermediateKey q, by simp only [intermediateKey, hnone]⟩
  · refine ⟨.systemKey parent, ?_⟩
    simp only [intermediateKey, hr, hparent, systemKey, hnone]
    rfl

lemma not_lacks_of_intermediateKey {k : Key} (h : s.intermediateKey m q = .ok k) :
    ¬ s.Lacks q := by
  intro hlacks
  obtain ⟨link, hlink⟩ := intermediateKey_of_lacks (m := m) hlacks
  cases h.symm.trans hlink

/-- If both records are there, the key is opened from them as in any store that has them too. -/
lemma Extends.intermediateKey_of_not_lacks (h : s.Extends s')
    (hparents : ∀ r, s'.load? q.keyId q.created.time = some r → r.parent ≠ none)
    (hn : ¬ s.Lacks q) :
    s.intermediateKey m q = s'.intermediateKey m q ∧
      ∀ err, s.intermediateKey m q = .error err → ∃ f, err = .application f := by
  cases hr : s.load? q.keyId q.created.time with
  | none => exact absurd (Or.inl hr) hn
  | some r =>
    cases hparent : r.parent with
    | none => exact absurd hparent (hparents r (h.load hr))
    | some parent =>
      cases hrp : s.load? parent.keyId parent.created.time with
      | none => exact absurd (Or.inr ⟨r, parent, hr, hparent, hrp⟩) hn
      | some rp =>
        simp only [Store.intermediateKey, hr, h.load hr, hparent, systemKey_of_load? hrp,
          systemKey_of_load? (h.load hrp), true_and]
        intro err herr
        cases ho : rp.openWith m with
        | error err' =>
          rw [ho] at herr
          cases herr
          exact KeyRecord.openWith_eq_error ho
        | ok outer =>
          rw [ho] at herr
          exact KeyRecord.openWith_eq_error herr

/-- What a record that passes all checks opens to. -/
lemma openRow_of_decodesTo {wrapped cipherText : Bytes} (ht : row.IsReadFrom text)
    (hl : row.LeadsTo p q) (hd : row.DecodesTo wrapped cipherText) :
    ∃ created, ∀ s : Store, s.openRow m p text = s.intermediateKey m q >>= fun k =>
      (k.openPayload cipherText wrapped created).mapError Error.ofCipher := by
  obtain ⟨created, hread⟩ := Engine.readable_of_decodesTo hl hd
  refine ⟨created, fun s => ?_⟩
  unfold openRow
  rw [ht.ofJson]
  show (Engine.readable p row >>= _) = _
  rw [hread]
  rfl

/-- **What it opens to** is the payload that it holds, whichever partition reads it. -/
theorem openRow_eq_ok_iff {payload : Bytes} (ht : row.IsReadFrom text) (hl : row.LeadsTo p q)
    (hd : row.Decodes) :
    s.openRow m p text = .ok payload ↔
      ∃ k, s.intermediateKey m q = .ok k ∧ row.Holds k payload := by
  obtain ⟨wrapped, cipherText, hparts⟩ := hd.exists_decodesTo
  obtain ⟨created, hopen⟩ := openRow_of_decodesTo (m := m) ht hl hparts
  rw [hopen s, Except.bind_eq_ok_iff]
  refine exists_congr fun k => and_congr_right fun _ => ?_
  rw [Except.mapError_eq_ok_iff, Key.openPayload_eq_ok_iff]
  constructor
  · rintro ⟨dataKey, hwraps, hseals⟩
    exact ⟨wrapped, cipherText, dataKey, hparts, hwraps, hseals⟩
  · rintro ⟨_, _, dataKey, hparts', hwraps, hseals⟩
    obtain ⟨rfl, rfl⟩ := hparts.unique hparts'
    exact ⟨dataKey, hwraps, hseals⟩

/-- A text that opens at all has passed all checks. -/
lemma checked_of_openRow {payload : Bytes} (h : s.openRow m p text = .ok payload) :
    ∃ (row : DataRow) (q : KeyMeta), row.IsReadFrom text ∧ row.LeadsTo p q ∧ row.Decodes := by
  unfold openRow at h
  by_cases hread : ∃ row, DataRow.IsReadFrom row text
  · obtain ⟨row, ht⟩ := hread
    rw [ht.ofJson] at h
    replace h : (Engine.readable p row >>= _) = _ := h
    by_cases hleads : ∃ q, row.LeadsTo p q
    · obtain ⟨q, hl⟩ := hleads
      by_cases hd : row.Decodes
      · exact ⟨row, q, ht, hl, hd⟩
      · obtain ⟨fault, hr⟩ := Engine.readable_of_not_decodes hl hd
        rw [hr] at h
        cases h
    · obtain ⟨link, hr⟩ := Engine.readable_of_not_leadsTo (not_exists.1 hleads)
      rw [hr] at h
      cases h
  · obtain ⟨fault, hr⟩ := DataRow.ofJson_of_not_isReadFrom (not_exists.1 hread)
    rw [hr] at h
    cases h

/-- **Which records are there decides** between a missing key and an answer, and the answer is that
of any store that has more. -/
theorem Extends.openRow_iff_lacks (h : s.Extends s')
    (hparents : ∀ r, s'.load? q.keyId q.created.time = some r → r.parent ≠ none)
    (ht : row.IsReadFrom text) (hl : row.LeadsTo p q) (hd : row.Decodes) :
    ((∃ link, s.openRow m p text = .error (.metadataMissing link)) ↔ s.Lacks q) ∧
      (¬ s.Lacks q → s.openRow m p text = s'.openRow m p text ∧
        ((∃ payload, s.openRow m p text = .ok payload) ∨
          ∃ f, s.openRow m p text = .error (.application f))) := by
  obtain ⟨wrapped, cipherText, hparts⟩ := hd.exists_decodesTo
  obtain ⟨created, hopen⟩ := openRow_of_decodesTo (m := m) ht hl hparts
  have hanswer (hn : ¬ s.Lacks q) : s.openRow m p text = s'.openRow m p text ∧
      ((∃ payload, s.openRow m p text = .ok payload) ∨
        ∃ f, s.openRow m p text = .error (.application f)) := by
    obtain ⟨heq, herr⟩ := h.intermediateKey_of_not_lacks (m := m) hparents hn
    rw [hopen s, hopen s', ← heq]
    refine ⟨rfl, ?_⟩
    cases hk : s.intermediateKey m q with
    | error err =>
      obtain ⟨f, rfl⟩ := herr err hk
      exact Or.inr ⟨f, rfl⟩
    | ok k =>
      show (∃ payload, (k.openPayload ..).mapError Error.ofCipher = _) ∨
        ∃ f, (k.openPayload ..).mapError Error.ofCipher = _
      cases k.openPayload cipherText wrapped created with
      | error fault => exact Or.inr ⟨_, rfl⟩
      | ok payload => exact Or.inl ⟨payload, rfl⟩
  refine ⟨⟨?_, fun hlacks => ?_⟩, hanswer⟩
  · rintro ⟨link, hmissing⟩
    by_contra hn
    rcases (hanswer hn).2 with ⟨payload, hok⟩ | ⟨f, hfails⟩
    · cases hmissing.symm.trans hok
    · cases hmissing.symm.trans hfails
  · obtain ⟨link, hlink⟩ := intermediateKey_of_lacks (m := m) hlacks
    refine ⟨link, ?_⟩
    rw [hopen s, hlink]
    rfl

end Store

/-- **What was returned for a payload** opens to it for every partition that may read it. -/
theorem World.Sound.openRow_of_returned {w : World} {m : Key} {turns : List Turn}
    {p p' : Partition} {row : DataRow} {q : KeyMeta} {payload text : Bytes} (h : w.Sound m)
    (hfair : Fair m w turns) (hr : w.Returned turns p' payload text) (ht : row.IsReadFrom text)
    (hl : row.LeadsTo p q) (hd : row.Decodes) :
    (w.play turns).environment.store.openRow m p text = .ok payload := by
  obtain ⟨created, k, hnamed, -, hopen⟩ := h.returned hfair hr
  rw [ht.named?, hl.pointer?] at hnamed
  obtain rfl := Option.some.inj hnamed
  have hown : row.LeadsTo p' ⟨p'.intermediateKeyId, created⟩ :=
    ⟨hl.1, p'.accepts_intermediateKeyId⟩
  exact (Store.openRow_eq_ok_iff ht hl hd).2 ((Store.openRow_eq_ok_iff ht hown hd).1 hopen)

/-! ### All texts -/

lemma Partition.isIntermediateId_of_accepts {p : Partition} {id : String} (h : p.Accepts id) :
    IsIntermediateId id := by
  rcases h with rfl | ⟨-, rfl | hprefix⟩
  · exact p.isIntermediateId_intermediateKeyId
  · exact p.isIntermediateId_baseKeyId
  · refine p.isIntermediateId_baseKeyId.trans (List.IsPrefix.trans ?_ hprefix)
    rw [String.toList_append]
    exact List.prefix_append _ _

namespace Engine

variable {e : Engine} {w : Workspace} {row : DataRow} {q : KeyMeta} {text : Bytes} {m m' : Key}

lemma outcome_decrypt_of_not_isReadFrom (h : ∀ row, ¬ DataRow.IsReadFrom row text) :
    ∃ fault, (e.decrypt text).outcome w = (.error (.invalidArgument fault), w) := by
  obtain ⟨fault, hfault⟩ := DataRow.ofJson_of_not_isReadFrom h
  refine ⟨fault, ?_⟩
  unfold decrypt
  rw [hfault]
  rfl

/-- An engine without keys answers from a store with some records of a sound one. -/
lemma outcome_decrypt_of_extends {s : Store} (hs : s.Sound m)
    (hextends : w.environment.store.Extends s) (hfaults : w.environment.faults = .none)
    (hservice : e.service = .master m') (hsystem : w.systemKeys.isEmpty = true)
    (hintermediate : w.intermediateKeys.isEmpty = true) :
    ((e.decrypt text).outcome w).1 = w.environment.store.openRow m' e.partition text := by
  have hcoherent : e.Coherent m' w :=
    { service := hservice
      faults := hfaults ▸ Faults.failing_none.truthful
      dated := fun id t r hr => hs.dated id t r (hextends.load hr)
      systemKeys := KeyCache.mirrors_of_isEmpty hsystem
      intermediateKeys := KeyCache.mirrors_of_isEmpty hintermediate }
  exact hcoherent.outcome_decrypt hfaults text

/-- **Every text has its answer, and opening writes nothing.** A text that is no record is an
unusable argument; a record that leads to no key of the partition misses one; a record that leads to
one but does not decode is an unusable argument; and then the workspace is as it was. A record that
passes these checks, opened by an engine without keys from some of the records that engines have
written, misses a key just if one of its two records is not there. If both are, the answer is the
one that all the records together give, a payload or an unexpected failure. The payload is the one
that was sealed into the record under the key that the store has for it; and a text that a session
has returned for a payload opens to that payload, if both are there and the master key is the one
that the engines had. -/
theorem decrypt_classified (e : Engine) (w : Workspace) (text : Bytes) :
    (text = [] ∨ Json.Value.parse? text = some .null ∨ (∀ row, ¬ DataRow.IsReadFrom row text) →
      ∃ fault, (e.decrypt text).outcome w = (.error (.invalidArgument fault), w)) ∧
    (∀ row : DataRow, row.IsReadFrom text → (∀ q, ¬ row.LeadsTo e.partition q) →
      ∃ link, (e.decrypt text).outcome w = (.error (.metadataMissing link), w)) ∧
    (∀ (row : DataRow) (q : KeyMeta), row.IsReadFrom text → row.LeadsTo e.partition q →
      ¬ row.Decodes →
      ∃ fault, (e.decrypt text).outcome w = (.error (.invalidArgument fault), w)) ∧
    (∀ (row : DataRow) (q : KeyMeta), row.IsReadFrom text → row.LeadsTo e.partition q →
      row.Decodes →
      ∀ (m m' : Key) (suffix : Option String) (clock : Clock) (random : Random)
        (turns : List Turn), Fair m (World.start m suffix clock random) turns →
      let written := ((World.start m suffix clock random).play turns).environment.store
      let answer := ((e.decrypt text).outcome w).1
      w.environment.store.Extends written → w.environment.faults = .none →
      e.service = .master m' → w.systemKeys.isEmpty = true → w.intermediateKeys.isEmpty = true →
      ((∃ link, answer = .error (.metadataMissing link)) ↔ w.environment.store.Lacks q) ∧
        (¬ w.environment.store.Lacks q →
          answer = ((e.decrypt text).outcome
            { w with environment := { w.environment with store := written } }).1 ∧
          ((∃ payload, answer = .ok payload) ∨ ∃ f, answer = .error (.application f))) ∧
        (∀ payload, answer = .ok payload ↔
          ∃ k, w.environment.store.intermediateKey m' q = .ok k ∧ row.Holds k payload) ∧
        (¬ w.environment.store.Lacks q → m' = m → ∀ p payload,
          (World.start m suffix clock random).Returned turns p payload text →
            answer = .ok payload)) ∧
    w.environment.Consults ((e.decrypt text).outcome w).2.environment := by
  refine ⟨fun h => outcome_decrypt_of_not_isReadFrom ?_, fun row ht hn => ?_,
    fun row q ht hl hd => ?_, fun row q ht hl hd => ?_,
    e.readsWithin_consults.decrypt text w⟩
  · rintro row ⟨v, hv, hrow⟩
    rcases h with rfl | hnull | hno
    · cases hv
    · cases hnull.symm.trans hv
      cases hrow
    · exact hno row ⟨v, hv, hrow⟩
  · obtain ⟨link, hr⟩ := readable_of_not_leadsTo hn
    exact ⟨link, outcome_decrypt_of_readable ht.ofJson hr⟩
  · obtain ⟨fault, hr⟩ := readable_of_not_decodes hl hd
    exact ⟨fault, outcome_decrypt_of_readable ht.ofJson hr⟩
  · intro m m' suffix clock random turns hfair written answer hextends hfaults hservice hsystem
      hintermediate
    have hstart := World.sound_start m suffix clock random
    have hsound : written.Sound m := (hstart.play hfair).store
    have hparents : ∀ r, written.load? q.keyId q.created.time = some r → r.parent ≠ none := by
      intro r hr hnone
      obtain ⟨parent, -, -, hparent, -⟩ :=
        hsound.intermediate (Partition.isIntermediateId_of_accepts hl.2) hr
      cases hnone.symm.trans hparent
    have hanswer : answer = w.environment.store.openRow m' e.partition text :=
      outcome_decrypt_of_extends hsound hextends hfaults hservice hsystem hintermediate
    have hfull : ((e.decrypt text).outcome
        { w with environment := { w.environment with store := written } }).1 =
          written.openRow m' e.partition text :=
      outcome_decrypt_of_extends hsound (.refl written) hfaults hservice hsystem hintermediate
    rw [hanswer, hfull]
    obtain ⟨hmissing, hboth⟩ := hextends.openRow_iff_lacks (m := m') hparents ht hl hd
    refine ⟨hmissing, hboth, fun payload => Store.openRow_eq_ok_iff ht hl hd, ?_⟩
    rintro hn rfl p payload hr
    rw [(hboth hn).1]
    exact hstart.openRow_of_returned hfair hr ht hl hd

/-- The workspace of an engine without keys. -/
def Workspace.ofStore (s : Store) : Workspace :=
  ⟨.ofStore .epoch (.ofSeed 0) s, .empty .max, .empty .max⟩

/-- A text that a session has returned, opened from all records and from none; a record without a
key and one whose payload is not base64. -/
theorem decrypt_classified_beginning :
    let e : Engine := ⟨.given, .expiring 90, .master .zeros⟩
    let w := (World.start .zeros none .epoch (.ofSeed 0)).run (beginning (.expiring 90))
    let bare : Workspace := .ofStore (.empty none)
    (∃ text link, ((e.decrypt text).outcome (.ofStore w.environment.store)).1 =
        .ok [104, 105] ∧
      ((e.decrypt text).outcome bare).1 = .error (.metadataMissing link)) ∧
    (∃ link, (e.decrypt (⟨none, none⟩ : DataRow).toJson).outcome bare =
      (.error (.metadataMissing link), bare)) ∧
    ∃ fault, (e.decrypt (⟨some ⟨Clock.epoch.wall.stamp, "", some (.ofMeta
        ⟨Partition.given.intermediateKeyId, Clock.epoch.wall.stamp⟩)⟩, some "="⟩ :
      DataRow).toJson).outcome bare = (.error (.invalidArgument fault), bare) := by
  intro e w bare
  have isReadFrom (row : DataRow) : row.IsReadFrom row.toJson :=
    ⟨row.toValue, Json.Value.parse?_render row.isSpelled_toValue, row.ofValue?_toValue⟩
  refine ⟨?_, ?_, ?_⟩
  · obtain ⟨-, text, htext, hopens, -⟩ := World.begun_beginning (.expiring 90) rfl
    obtain ⟨-, hprecedes⟩ := (World.sound_start .zeros none .epoch (.ofSeed 0)).run
      (beginning (.expiring 90))
    obtain ⟨row, q, ht, hl, hd⟩ := Store.checked_of_openRow hopens
    have hplay := World.play_map_request (World.start .zeros none .epoch (.ofSeed 0))
      (beginning (.expiring 90))
    have hfair := fair_map_request .zeros (World.start .zeros none .epoch (.ofSeed 0))
      (beginning (.expiring 90))
    obtain ⟨-, -, -, hreturned⟩ := (decrypt_classified e (.ofStore w.environment.store)
      text).2.2.2.1 row q ht hl hd .zeros .zeros none .epoch (.ofSeed 0) _ hfair
      (hplay ▸ .refl _) rfl rfl rfl rfl
    obtain ⟨hmissing, -⟩ := (decrypt_classified e bare text).2.2.2.1 row q ht hl hd .zeros .zeros
      none .epoch (.ofSeed 0) _ hfair (hplay ▸ ⟨hprecedes.store.suffix, fun h => nomatch h⟩)
      rfl rfl rfl rfl
    obtain ⟨k, hk, -⟩ := (Store.openRow_eq_ok_iff ht hl hd).1 hopens
    obtain ⟨link, hlink⟩ := hmissing.2 (Or.inl rfl)
    refine ⟨text, link, hreturned (Store.not_lacks_of_intermediateKey hk) rfl .given _ ?_, hlink⟩
    exact World.returned_of_run ⟨_, rfl, rfl⟩ htext []
  · refine (decrypt_classified e bare _).2.1 _ (isReadFrom _) fun q hl => ?_
    obtain ⟨⟨k, hk, -⟩, -⟩ := hl
    cases hk
  · refine (decrypt_classified e bare _).2.2.1 _
      ⟨Partition.given.intermediateKeyId, Clock.epoch.wall.stamp⟩ (isReadFrom _)
      ⟨⟨_, rfl, rfl⟩, Or.inl rfl⟩ fun hd => ?_
    obtain ⟨-, data, cipherText, hdata, hc⟩ := hd
    cases hdata
    cases hc

end Engine

end Envelope
