import Envelope.Proofs.Collaborators
import Envelope.Proofs.Secrecy.Outline
import Envelope.Proofs.Secrecy.Pairs
import Envelope.Proofs.Turns

/-!
Calls in two environments that differ in their secrets.

The environments have one outline, and each has a store that is sound for its own master key. A call
then has the same answer in both, or answers that differ in wrapped keys, and leaves the same trace.
What was wrapped in an environment opens there, so opening does not tell the two apart.
-/

namespace Envelope

open Envelope.Action Kinship

/-- No other writer is planned, whose record would have to open under both master keys. -/
def Faults.Alone (f : Faults) : Prop := ∀ r, some (.winner r) ∉ f.insert

lemma Faults.alone_none : Faults.none.Alone := fun _ h => nomatch h

lemma Store.Extends.admits {s s' : Store} {m : Key} {id : String} {r : KeyRecord}
    (h : s.Extends s') (ha : s.Admits m id r) : s'.Admits m id r := by
  cases ha with
  | system k isSystem parent opens => exact .system k isSystem parent opens
  | intermediate p outer k isIntermediate parent isSystem found opens =>
    exact .intermediate p outer k isIntermediate parent isSystem (h.systemKey found) opens

/-! ### Twins -/

/-- The environments have one outline and sound stores. -/
structure Environment.Twins (m n : Key) (e e' : Environment) : Prop where
  outline : e.outline = e'.outline
  left : e.store.Sound m
  right : e'.store.Sound n
  alone : e.faults.Alone

def Environment.kinship (m n : Key) : Kinship Environment := ⟨id, Environment.Twins m n⟩

/-- Records of one outline under their own times, each in its store. -/
structure RecordsAlike (id : String) (s s' : Store) (r r' : KeyRecord) : Prop where
  outline : r.outline = r'.outline
  left : s.load? id r.created.time = some r
  right : s'.load? id r'.created.time = some r'

/-- Two look-ups of a key id have both found nothing, or records that are alike. -/
inductive FoundAlike (id : String) (s s' : Store) : Option KeyRecord → Option KeyRecord → Prop where
  | none : FoundAlike id s s' none none
  | some (r r' : KeyRecord) (records : RecordsAlike id s s' r r') :
      FoundAlike id s s' (some r) (some r')

section

variable {id : String} {s s' t t' : Store} {r r' : KeyRecord} {x x' : Option KeyRecord}

lemma RecordsAlike.created (h : RecordsAlike id s s' r r') : r.created = r'.created :=
  (KeyRecord.outline_eq_iff.1 h.outline).1

lemma RecordsAlike.isRevoked (h : RecordsAlike id s s' r r') : r.isRevoked = r'.isRevoked :=
  KeyRecord.isRevoked_of_outline h.outline

lemma RecordsAlike.parent (h : RecordsAlike id s s' r r') : r.parent = r'.parent :=
  (KeyRecord.outline_eq_iff.1 h.outline).2.2

lemma RecordsAlike.mono (h : RecordsAlike id s s' r r') (hs : s.Extends t) (hs' : s'.Extends t') :
    RecordsAlike id t t' r r' :=
  ⟨h.outline, hs.load h.left, hs'.load h.right⟩

/-- What a call on the store notes of the records. -/
lemma FoundAlike.created (h : FoundAlike id s s' x x') :
    x.map (·.created) = x'.map (·.created) := by
  cases h with
  | none => rfl
  | some r r' records => exact congrArg Option.some records.created

/-- Values of one outline are both absent or both there. -/
lemma foundAlike_of_map (h : x.map KeyRecord.outline = x'.map KeyRecord.outline)
    (hl : ∀ r ∈ x, s.load? id r.created.time = Option.some r)
    (hr : ∀ r ∈ x', s'.load? id r.created.time = Option.some r) : FoundAlike id s s' x x' := by
  cases x with
  | none =>
    cases x' with
    | none => exact .none
    | some r' => cases h
  | some r =>
    cases x' with
    | none => cases h
    | some r' => exact .some r r' ⟨Option.some.inj h, hl r rfl, hr r' rfl⟩

end

namespace Environment

variable {m n : Key} {e e' e₁ e₁' : Environment}

lemma Twins.clock (h : e.Twins m n e') : e.clock = e'.clock := by
  have hclock : e.outline.clock = e'.outline.clock := by rw [h.outline]
  exact hclock

lemma Twins.load? (h : e.Twins m n e') (id : String) (t : Time) :
    (e.store.load? id t).map KeyRecord.outline = (e'.store.load? id t).map KeyRecord.outline := by
  rw [← Store.load?_outline, ← Store.load?_outline]
  exact congrArg (fun e => e.store.load? id t) h.outline

lemma Twins.latest? (h : e.Twins m n e') (id : String) :
    (e.store.latest? id).map KeyRecord.outline = (e'.store.latest? id).map KeyRecord.outline := by
  rw [← Store.latest?_outline, ← Store.latest?_outline]
  exact congrArg (fun e => e.store.latest? id) h.outline

/-- Nothing has happened to the stores. -/
lemma Twins.after (h : e.Twins m n e') (houtline : e₁.outline = e₁'.outline)
    (hs : e₁.store = e.store) (hs' : e₁'.store = e'.store)
    (hf : e₁.faults.insert <:+ e.faults.insert) :
    (Environment.kinship m n).After e e' e₁ e₁' where
  twins := ⟨houtline, hs ▸ h.left, hs' ▸ h.right, fun r hr => h.alone r (hf.subset hr)⟩
  left := by
    show e.store.Extends e₁.store
    exact hs ▸ .refl _
  right := by
    show e'.store.Extends e₁'.store
    exact hs' ▸ .refl _

end Environment

namespace Effect

open Environment

variable {m n : Key} {e e' : Environment} {α : Type} {id : String}

/-! ### What is read and noted -/

/-- A step that has nothing to do with secrets. -/
lemma agrees_public {f : Environment → α × Environment} (h : e.Twins m n e')
    (hvalue : ∀ e, (f e).1 = (f e.outline).1) (houtline : ∀ e, (f e).2.outline = (f e.outline).2)
    (hstore : ∀ e, (f e).2.store = e.store)
    (hfaults : ∀ e, (f e).2.faults.insert <:+ e.faults.insert) :
    (kinship m n).Agrees (ofState f) (ofState f) e e' fun x y _ _ => x = y := by
  refine ⟨?_, h.after ?_ (hstore e) (hstore e') (hfaults e)⟩
  · show (f e).1 = (f e').1
    rw [hvalue e, hvalue e', h.outline]
  · rw [houtline e, houtline e', h.outline]

lemma agrees_now (h : e.Twins m n e') :
    (kinship m n).Agrees now now e e' fun x y _ _ => x = y :=
  agrees_public h (fun _ => rfl) (fun _ => rfl) (fun _ => rfl) fun _ => List.suffix_refl _

lemma agrees_emit (h : e.Twins m n e') (event : Event) :
    (kinship m n).Agrees (emit event) (emit event) e e' fun x y _ _ => x = y :=
  agrees_public h (fun _ => rfl) (fun _ => rfl) (fun _ => rfl) fun _ => List.suffix_refl _

lemma agrees_note (h : e.Twins m n e') (call : Call) :
    (kinship m n).Agrees (note call) (note call) e e' fun x y _ _ => x = y :=
  agrees_public h (fun _ => rfl) (fun _ => rfl) (fun _ => rfl) fun _ => List.suffix_refl _

/-! ### Sealing and opening -/

/-- Sealing succeeds or fails alike if it does so by the same condition. -/
lemma agrees_sealing {a b : Sealing α} {A B : α → Prop} {C : Prop} (fault : CipherFault)
    (h : e.Twins m n e')
    (ha : a.Yields e.random (fun x _ => A x ∧ C) fun f _ => f = fault ∧ ¬ C)
    (hb : b.Yields e'.random (fun x _ => B x ∧ C) fun f _ => f = fault ∧ ¬ C) :
    (kinship m n).Agrees (sealing a) (sealing b) e e' fun x y _ _ => A x ∧ B y := by
  have seals : ∀ {a : Sealing α} {A : α → Prop} {e : Environment},
      a.Yields e.random (fun x _ => A x ∧ C) (fun f _ => f = fault ∧ ¬ C) →
      (sealing a).Yields e (fun x e₁ => (A x ∧ ∃ r, e₁ = { e with random := r }) ∧ C)
        fun err e₁ => (err = .ofCipher fault ∧ ¬ C) ∧ ∃ r, e₁ = { e with random := r } := by
    intro a A e ha
    refine yields_zoom.2 (yields_mapError.2 (ha.mono (fun x r h => ?_) fun f r h => ?_))
    · exact ⟨⟨h.1, r, rfl⟩, h.2⟩
    · exact ⟨⟨congrArg Error.ofCipher h.1, h.2⟩, r, rfl⟩
  have after : ∀ {e₁ e₁'}, (∃ r, e₁ = { e with random := r }) →
      (∃ r, e₁' = { e' with random := r }) → (kinship m n).After e e' e₁ e₁' := by
    rintro _ _ ⟨r, rfl⟩ ⟨r', rfl⟩
    exact h.after h.outline rfl rfl (List.suffix_refl _)
  exact (pairs_of_yields (seals ha) (seals hb)).mono
    (fun _ _ _ _ h => ⟨⟨h.1.1, h.2.1⟩, after h.1.2 h.2.2⟩) fun _ _ h => after h.1 h.2

/-- Fresh keys have one outline. -/
lemma agrees_generateKey (h : e.Twins m n e') (created : Stamp) :
    (kinship m n).Agrees (generateKey created) (generateKey created) e e' fun k k' _ _ =>
      (k.created = created ∧ k.revoked = false) ∧ k'.created = created ∧ k'.revoked = false :=
  agrees_sealing (C := True) .aeadFailure h ⟨⟨rfl, rfl⟩, trivial⟩ ⟨⟨rfl, rfl⟩, trivial⟩

/-- Keys are wrapped so that they open again. -/
lemma agrees_wrap (h : e.Twins m n e') (outer outer' inner inner' : Key) :
    (kinship m n).Agrees (sealing (outer.wrap inner)) (sealing (outer'.wrap inner')) e e'
      fun x y _ _ => outer.decrypt x = .ok inner.secret ∧ outer'.decrypt y = .ok inner'.secret := by
  have wraps : ∀ (outer inner : Key) (r : Random), (outer.wrap inner).Yields r
      (fun wrapped _ => outer.decrypt wrapped = .ok inner.secret ∧ True)
      fun f _ => f = .aeadFailure ∧ ¬ True := fun outer inner r =>
    (outer.wrap_yields inner r).mono (fun _ _ h => ⟨h, trivial⟩) fun _ _ h => h.elim
  exact agrees_sealing .aeadFailure h (wraps outer inner _) (wraps outer' inner' _)

lemma agrees_opened {x y : α} {r r' : Except CipherFault α} (h : e.Twins m n e') (hr : r = .ok x)
    (hr' : r' = .ok y) :
    (kinship m n).Agrees (opened r) (opened r') e e' fun x' y' _ _ => x' = x ∧ y' = y := by
  subst hr hr'
  exact agrees_pure h ⟨rfl, rfl⟩

/-! ### The store -/

/-- A look-up finds what the stores hold, or both fail, or both find nothing. -/
lemma agrees_lookup (held : Store → Option KeyRecord) {P : KeyRecord → Prop} (h : e.Twins m n e')
    (hfound : FoundAlike id e.store e'.store (held e.store) (held e'.store))
    (hP : ∀ r ∈ held e.store, P r) (fault : Option LookupFault)
    (call : Except Error (Option Stamp) → Call) :
    (kinship m n).Agrees (do
        let held ← Action.ofState fun e => (held e.store, e)
        let outcome := lookupOutcome held fault
        note (call (outcome.map (·.map (·.created))))
        Action.ofExcept outcome : Effect (Option KeyRecord)) (do
        let held ← Action.ofState fun e => (held e.store, e)
        let outcome := lookupOutcome held fault
        note (call (outcome.map (·.map (·.created))))
        Action.ofExcept outcome : Effect (Option KeyRecord)) e e'
      fun x y s s' => FoundAlike id s s' x y ∧ ∀ r ∈ x, P r := by
  have noted : ∀ call, (kinship m n).After e e' { e with calls := e.calls ++ [call] }
      { e' with calls := e'.calls ++ [call] } := fun call =>
    h.after (congrArg (fun e : Environment => { e with calls := e.calls ++ [call] }) h.outline)
      rfl rfl (List.suffix_refl _)
  cases fault with
  | none =>
    refine ⟨⟨hfound, hP⟩, ?_⟩
    show (kinship m n).After e e' _
      { e' with calls := e'.calls ++ [call (.ok ((held e'.store).map (·.created)))] }
    rw [← hfound.created]
    exact noted _
  | some fault =>
    cases fault with
    | nothing => exact ⟨⟨.none, fun _ h => nomatch h⟩, noted _⟩
    | fail error => exact ⟨rfl, noted _⟩

/-- The latest record of a sound store stands under its own time. -/
lemma agrees_latestRecord (h : e.Twins m n e') (id : String) :
    (kinship m n).Agrees (latestRecord id) (latestRecord id) e e'
      fun x y s s' => FoundAlike id s s' x y := by
  unfold latestRecord
  refine (agrees_public h (fun _ => rfl) (fun _ => rfl) (fun _ => rfl)
    fun _ => List.suffix_refl _ : (kinship m n).Agrees nextLatestFault _ e e' _).bind
    fun fault _ s s' heq hafter => ?_
  subst heq
  have hfound : FoundAlike id s.store s'.store (s.store.latest? id) (s'.store.latest? id) :=
    foundAlike_of_map (hafter.twins.latest? id)
      (fun _ hr => (hafter.twins.left.dated.latest? hr).1)
      fun _ hr => (hafter.twins.right.dated.latest? hr).1
  exact (agrees_lookup (fun s => s.latest? id) (P := fun _ => True) hafter.twins hfound
    (fun _ _ => trivial) fault (.latest id)).mono fun _ _ _ _ h _ => h.1

lemma agrees_loadRecord (h : e.Twins m n e') (p : KeyMeta) :
    (kinship m n).Agrees (loadRecord p) (loadRecord p) e e'
      fun x y s s' => FoundAlike p.keyId s s' x y ∧ ∀ r ∈ x, r.created = p.created := by
  unfold loadRecord
  refine (agrees_public h (fun _ => rfl) (fun _ => rfl) (fun _ => rfl)
    fun _ => List.suffix_refl _ : (kinship m n).Agrees nextLoadFault _ e e' _).bind
    fun fault _ s s' heq hafter => ?_
  subst heq
  have hfound := foundAlike_of_map (hafter.twins.load? p.keyId p.created.time)
    (fun _ hr => hafter.twins.left.dated.load? hr)
    fun _ hr => hafter.twins.right.dated.load? hr
  exact agrees_lookup (fun s => s.load? p.keyId p.created.time) hafter.twins hfound
    (fun r hr => Stamp.time_inj.1 (hafter.twins.left.dated _ _ _ hr)) fault
    (.load p.keyId p.created)

/-- What an insert that won has done to the stores. -/
def InsertsAlike (id : String) (r r' : KeyRecord) (b b' : Bool) (s s' : Store) : Prop :=
  b = b' ∧ (b = true → RecordsAlike id s s' r r')

lemma agrees_storeInsert {r r' : KeyRecord} (h : e.Twins m n e') (hr : r.outline = r'.outline)
    (hl : e.store.Admits m id r) (hl' : e'.store.Admits n id r') :
    (kinship m n).Agrees (storeInsert id r.created.time r) (storeInsert id r'.created.time r')
      e e' (InsertsAlike id r r') := by
  have hc : r'.created = r.created := (KeyRecord.outline_eq_iff.1 hr).1.symm
  have hfree : (e.store.load? id r.created.time).isNone =
      (e'.store.load? id r'.created.time).isNone := by
    have hload := congrArg Option.isNone (h.load? id r.created.time)
    rw [Option.isNone_map, Option.isNone_map] at hload
    rw [hc, hload]
  refine ⟨⟨hfree, fun hb => ⟨hr, ?_, ?_⟩⟩, ⟨?_, h.left.insert hl, h.right.insert hl', h.alone⟩,
    Store.extends_insert .., Store.extends_insert ..⟩
  · exact Store.load?_insert_self (Option.isNone_iff_eq_none.1 hb) r
  · exact Store.load?_insert_self (Option.isNone_iff_eq_none.1 (hfree ▸ hb)) r'
  · show { e.outline with store := (e.store.insert id r.created.time r).2.outline } =
      { e'.outline with store := (e'.store.insert id r'.created.time r').2.outline }
    have hstore : e.store.outline = e'.store.outline := by
      have hs : e.outline.store = e'.outline.store := by rw [h.outline]
      exact hs
    rw [Store.outline_insert, Store.outline_insert, hstore, hr, hc, h.outline]

/-- The answers of two inserts: both won, both lost, or both failed. -/
inductive OutcomesAlike (id : String) (r r' : KeyRecord) :
    Except Error Bool → Except Error Bool → Store → Store → Prop where
  | ok (b b' : Bool) (s s' : Store) (inserts : InsertsAlike id r r' b b' s s') :
      OutcomesAlike id r r' (.ok b) (.ok b') s s'
  | error (err : Error) (s s' : Store) : OutcomesAlike id r r' (.error err) (.error err) s s'

lemma agrees_insertOutcome {r r' : KeyRecord} (h : e.Twins m n e') (hr : r.outline = r'.outline)
    (hl : e.store.Admits m id r) (hl' : e'.store.Admits n id r') {fault : Option InsertFault}
    (hf : ∀ other, fault ≠ some (.winner other)) :
    (kinship m n).Agrees (insertOutcome id r fault) (insertOutcome id r' fault) e e'
      (OutcomesAlike id r r') := by
  have lost : ∀ s s', OutcomesAlike id r r' (.ok false) (.ok false) s s' := fun s s' =>
    .ok false false s s' ⟨rfl, fun hb => absurd hb Bool.false_ne_true⟩
  cases fault with
  | none =>
    exact (agrees_storeInsert h hr hl hl').bind fun _ _ _ _ hb hafter =>
      agrees_pure hafter.twins (.ok _ _ _ _ hb)
  | some fault =>
    cases fault with
    | fail err => exact agrees_pure h (.error err _ _)
    | refused err => exact agrees_throw h err
    | conflict =>
      exact (agrees_storeInsert h hr hl hl').bind fun _ _ _ _ _ hafter =>
        agrees_pure hafter.twins (lost _ _)
    | lost => exact agrees_pure h (lost _ _)
    | winner other => exact absurd rfl (hf other)

/-- An insert wins in both environments or in neither. -/
lemma agrees_insertRecord {r r' : KeyRecord} (h : e.Twins m n e') (hr : r.outline = r'.outline)
    (hl : e.store.Admits m id r) (hl' : e'.store.Admits n id r') :
    (kinship m n).Agrees (insertRecord id r) (insertRecord id r') e e' (InsertsAlike id r r') := by
  have hc : r'.created = r.created := (KeyRecord.outline_eq_iff.1 hr).1.symm
  have hnext : (kinship m n).Agrees nextInsertFault nextInsertFault e e' fun f f' _ _ =>
      f = f' ∧ ∀ other, f ≠ some (.winner other) := by
    obtain ⟨hf, hafter⟩ := agrees_public (f := fun e : Environment =>
      ((nextFault e.faults.insert).1,
        { e with faults := { e.faults with insert := (nextFault e.faults.insert).2 } })) h
      (fun _ => rfl) (fun _ => rfl) (fun _ => rfl) fun _ => nextFault_suffix _
    exact ⟨⟨hf, fun other ho => h.alone other (mem_of_nextFault ho)⟩, hafter⟩
  unfold insertRecord
  refine hnext.bind fun fault _ s s' hfault hafter => ?_
  obtain ⟨rfl, hwinner⟩ := hfault
  refine (agrees_insertOutcome hafter.twins hr (hafter.left.admits hl) (hafter.right.admits hl')
    hwinner).bind fun o o' t t' ho hafter => ?_
  cases ho with
  | ok b b' _ _ inserts =>
    obtain ⟨rfl, hrecords⟩ := inserts
    rw [hc]
    refine (agrees_note hafter.twins _).bind fun _ _ u u' _ hafter => ?_
    exact agrees_ofExcept hafter.twins rfl rfl
      ⟨rfl, fun hb => (hrecords hb).mono hafter.left hafter.right⟩
  | error err =>
    rw [hc]
    refine (agrees_note hafter.twins _).bind fun _ _ u u' _ hafter => ?_
    exact agrees_throw hafter.twins err

/-! ### The key management service -/

lemma agrees_callWrap {key key' : Key} (h : e.Twins m n e') (hc : key.created = key'.created) :
    (kinship m n).Agrees ((KeyService.master m).callWrap key) ((KeyService.master n).callWrap key')
      e e' fun x y _ _ => m.decrypt x = .ok key.secret ∧ n.decrypt y = .ok key'.secret := by
  unfold KeyService.callWrap
  rw [hc]
  refine (agrees_note h _).bind fun _ _ s s' _ hafter => ?_
  refine (agrees_public hafter.twins (fun _ => rfl) (fun _ => rfl) (fun _ => rfl)
    fun _ => List.suffix_refl _ : (kinship m n).Agrees nextWrapFault _ s s' _).bind
    fun fault _ t t' heq hafter => ?_
  subst heq
  cases fault with
  | none => exact agrees_wrap hafter.twins m n key key'
  | some err => exact agrees_throw hafter.twins err

lemma agrees_callUnwrap {wrapped wrapped' : Bytes} {created : Stamp} {revoked : Bool} {k k' : Key}
    (h : e.Twins m n e') (hk : m.unwrap wrapped created revoked = .ok k)
    (hk' : n.unwrap wrapped' created revoked = .ok k') :
    (kinship m n).Agrees ((KeyService.master m).callUnwrap wrapped created revoked)
      ((KeyService.master n).callUnwrap wrapped' created revoked) e e'
      fun x y _ _ => x = k ∧ y = k' := by
  unfold KeyService.callUnwrap
  refine (agrees_note h _).bind fun _ _ s s' _ hafter => ?_
  refine (agrees_public hafter.twins (fun _ => rfl) (fun _ => rfl) (fun _ => rfl)
    fun _ => List.suffix_refl _ : (kinship m n).Agrees nextUnwrapFault _ s s' _).bind
    fun fault _ t t' heq hafter => ?_
  subst heq
  cases fault with
  | none => exact agrees_opened hafter.twins hk hk'
  | some err => exact agrees_throw hafter.twins err

end Effect

end Envelope
