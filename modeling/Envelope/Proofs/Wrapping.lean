import Envelope.KeyService
import Envelope.Proofs.Collaborators
import Envelope.Proofs.KeyEnvelope
import Envelope.Proofs.Opening

/-!
A key is wrapped in all regions or in none.

The regions are tried in their order up to the first that generates a data key. The data key is then
wrapped by every other region, those included that were passed over before; one that refuses is the
end of it. Both passes go through the regions in their order, so that none of them is asked for the
same thing twice.
-/

namespace Envelope

open Envelope.Action

namespace Region

/-! ### What regions are asked -/

def generateCall (r : Region) : Call := .regionGenerate r.arn

def encryptCall (d : DataKey) (r : Region) : Call := .regionEncrypt r.arn d.plaintext

/-- The region generates no data key. -/
def FailsToGenerate (r : Region) : Prop := ∃ err, r.client.generate r.arn = .error err

/-- The entry of a key envelope is the data key as the region itself encrypts it. -/
def Encrypts (d : DataKey) (r : Region) (entry : WrappedDataKey) : Prop :=
  ∃ ciphertext, r.client.encrypt r.arn d.plaintext = .ok ciphertext ∧
    entry = ⟨r.name, r.arn, Base64.encodeText ciphertext⟩

/-- The entry of a key envelope for the region that has generated the data key. -/
def origin (d : DataKey) (r : Region) : WrappedDataKey :=
  ⟨r.name, r.arn, Base64.encodeText d.ciphertext⟩

/-- The region does not encrypt the data key. -/
def Refuses (d : DataKey) (r : Region) : Prop :=
  ∃ err, r.client.encrypt r.arn d.plaintext = .error err

end Region

open Region

namespace KeyService

/-! ### The order of regions -/

/-- The regions in the order they are tried: those of the preferred name, and then the others, in
the order they are given. -/
def inOrder (regions : List Region) (preferred : String) : List Region :=
  regions.filter (·.name = preferred) ++ regions.filter (·.name ≠ preferred)

lemma ofRegions_eq_ok {regions : List Region} {preferred : String} {s : KeyService}
    (h : ofRegions regions preferred = .ok s) : s = .regional (inOrder regions preferred) := by
  unfold ofRegions at h
  split at h
  · cases h
  · exact (Except.ok.inj h).symm

lemma inOrder_perm (regions : List Region) (preferred : String) :
    (inOrder regions preferred).Perm regions := by
  have h := List.filter_append_perm (fun r : Region => decide (r.name = preferred)) regions
  simpa only [inOrder, ne_eq, decide_not] using h

/-! ### The first data key -/

/-- The first data key that a region generates. -/
def generated? (regions : List Region) : Option DataKey :=
  regions.findSome? fun r => (r.client.generate r.arn).toOption

/-- The regions before the first that generates a data key, that one, and those after it. -/
structure Originates (regions failed : List Region) (r : Region) (rest : List Region)
    (d : DataKey) : Prop where
  order : regions = failed ++ r :: rest
  fail : ∀ x ∈ failed, x.FailsToGenerate
  generates : r.client.generate r.arn = .ok d

section

variable {regions failed rest : List Region} {r : Region} {d : DataKey}

lemma Originates.cons (h : Originates regions failed r rest d) {x : Region}
    (hx : x.FailsToGenerate) : Originates (x :: regions) (x :: failed) r rest d :=
  ⟨congrArg (x :: ·) h.order, List.forall_mem_cons.2 ⟨hx, h.fail⟩, h.generates⟩

lemma Originates.mem (h : Originates regions failed r rest d) : r ∈ regions := by
  rw [h.order]
  exact List.mem_append_right _ List.mem_cons_self

lemma Originates.generated (h : Originates regions failed r rest d) :
    generated? regions = some d := by
  refine List.findSome?_eq_some_iff.2 ⟨failed, r, rest, h.order, ?_, fun x hx => ?_⟩
  · rw [h.generates]
    rfl
  · obtain ⟨err, herr⟩ := h.fail x hx
    rw [herr]
    rfl

/-- There is but one first region that generates a data key. -/
lemma Originates.unique {failed' rest' : List Region} {r' : Region} {d' : DataKey}
    (h : Originates regions failed r rest d) (h' : Originates regions failed' r' rest' d') :
    failed = failed' ∧ r = r' ∧ rest = rest' ∧ d = d' := by
  have hne : ∀ {x : Region} {d : DataKey}, x.client.generate x.arn = .ok d →
      ¬ x.FailsToGenerate := by
    rintro x d hx ⟨err, herr⟩
    rw [hx] at herr
    cases herr
  have horder := h.order.symm.trans h'.order
  have hlists : failed = failed' ∧ r :: rest = r' :: rest' := by
    rcases List.append_eq_append_iff.1 horder with ⟨between, hf, hr⟩ | ⟨between, hf, hr⟩
    · cases between with
      | nil => exact ⟨by rw [hf, List.append_nil], hr⟩
      | cons x between =>
        cases hr
        exact absurd (h'.fail r (by rw [hf]; simp)) (hne h.generates)
    · cases between with
      | nil => exact ⟨by rw [hf, List.append_nil], hr.symm⟩
      | cons x between =>
        cases hr
        exact absurd (h.fail r' (by rw [hf]; simp)) (hne h'.generates)
  obtain ⟨hfailed, hrest⟩ := hlists
  obtain ⟨rfl, rfl⟩ := List.cons.inj hrest
  have hd : Except.ok d = Except.ok d' := h.generates.symm.trans h'.generates
  exact ⟨hfailed, rfl, rfl, Except.ok.inj hd⟩

end

lemma yields_generateDataKey_calls (place : Nat) (regions : List Region) (e : Environment) :
    (generateDataKey place regions).Yields e
      (fun x e' => ∃ failed r rest, Originates regions failed r rest x.2 ∧
        x.1 = place + failed.length ∧
        e'.calls = e.calls ++ (failed ++ [r]).map generateCall)
      (fun err e' => (∀ x ∈ regions, x.FailsToGenerate) ∧
        err = .keyService .noRegionGenerates ∧
        e'.calls = e.calls ++ regions.map generateCall) := by
  induction regions generalizing place e with
  | nil => exact ⟨by simp, rfl, (List.append_nil _).symm⟩
  | cons r regions ih =>
    unfold generateDataKey Region.generate
    simp only [yields_bind, Effect.yields_note, yields_pure]
    cases hr : r.client.generate r.arn with
    | ok d => exact ⟨[], r, regions, ⟨rfl, by simp, hr⟩, rfl, rfl⟩
    | error err =>
      have hfails : r.FailsToGenerate := ⟨err, hr⟩
      simp only [yields_bind, Effect.yields_emit]
      refine (ih (place + 1) _).mono (fun x e' hx => ?_) fun err' e' hx => ?_
      · obtain ⟨failed, r', rest, horigin, hplace, hcalls⟩ := hx
        refine ⟨r :: failed, r', rest, horigin.cons hfails, ?_, ?_⟩
        · rw [hplace, List.length_cons]
          omega
        · rw [hcalls, List.append_assoc]
          rfl
      · obtain ⟨hall, herr, hcalls⟩ := hx
        refine ⟨List.forall_mem_cons.2 ⟨hfails, hall⟩, herr, ?_⟩
        rw [hcalls, List.append_assoc]
        rfl

/-! ### The other regions -/

/-- The first region that does not encrypt the data key, and those before it. -/
structure StopsAt (d : DataKey) (regions before : List Region) (r : Region) : Prop where
  order : before ++ [r] <+: regions
  encrypt : ∀ x ∈ before, ∃ entry, x.Encrypts d entry
  refuses : r.Refuses d

/-- What regions, none of which has generated the data key, do about it. -/
lemma yields_wrapDataKey_others (d : DataKey) {origin place : Nat} {regions : List Region}
    (h : place + regions.length ≤ origin ∨ origin < place) (e : Environment) :
    (wrapDataKey origin d place regions).Yields e
      (fun entries e' => List.Forall₂ (Encrypts d) regions entries ∧
        e'.calls = e.calls ++ regions.map (encryptCall d))
      (fun err e' => ∃ before r, StopsAt d regions before r ∧
        err = .keyService (.regionCannotWrap r.name) ∧
        e'.calls = e.calls ++ (before ++ [r]).map (encryptCall d)) := by
  induction regions generalizing place e with
  | nil => exact ⟨.nil, (List.append_nil _).symm⟩
  | cons r regions ih =>
    rw [List.length_cons] at h
    unfold wrapDataKey Region.encrypt
    rw [if_neg (by omega)]
    simp only [yields_bind, Effect.yields_note, yields_pure]
    cases hr : r.client.encrypt r.arn d.plaintext with
    | error err =>
      exact ⟨[], r, ⟨⟨regions, rfl⟩, by simp, err, hr⟩, rfl, rfl⟩
    | ok ciphertext =>
      have hentry : r.Encrypts d ⟨r.name, r.arn, Base64.encodeText ciphertext⟩ :=
        ⟨ciphertext, hr, rfl⟩
      have hrest : place + 1 + regions.length ≤ origin ∨ origin < place + 1 := by omega
      simp only [pure_bind]
      refine (ih hrest _).bind (fun entries e' hx => ?_) fun err e' hx => ?_
      · refine ⟨.cons hentry hx.1, ?_⟩
        rw [hx.2, List.append_assoc]
        rfl
      · obtain ⟨before, r', hstop, herr, hcalls⟩ := hx
        refine ⟨r :: before, r', ⟨?_, ?_, hstop.refuses⟩, herr, ?_⟩
        · exact (List.prefix_cons_inj r).2 hstop.order
        · exact List.forall_mem_cons.2 ⟨⟨_, hentry⟩, hstop.encrypt⟩
        · rw [hcalls, List.append_assoc]
          rfl

lemma forall_encrypts {d : DataKey} {regions : List Region} {entries : List WrappedDataKey}
    (h : List.Forall₂ (Encrypts d) regions entries) :
    ∀ x ∈ regions, ∃ entry, x.Encrypts d entry := by
  induction h with
  | nil => simp
  | cons hentry _ ih => exact List.forall_mem_cons.2 ⟨⟨_, hentry⟩, ih⟩

lemma wrapDataKey_append (origin : Nat) (d : DataKey) (place : Nat) (before after : List Region) :
    wrapDataKey origin d place (before ++ after) = do
      let entries ← wrapDataKey origin d place before
      let more ← wrapDataKey origin d (place + before.length) after
      return entries ++ more := by
  induction before generalizing place with
  | nil => simp [wrapDataKey]
  | cons r before ih =>
    have hplace : place + 1 + before.length = place + (before.length + 1) := by omega
    simp only [List.cons_append, wrapDataKey, ih, List.length_cons, hplace]
    split
    · simp only [bind_assoc, pure_bind, List.cons_append]
    · simp only [bind_assoc, pure_bind]
      congr 1
      funext answer
      cases answer with
      | ok ciphertext => simp only [bind_assoc, pure_bind, List.cons_append]
      | error err => rfl

/-- What all the regions do about the data key, which one of them has generated. -/
lemma yields_wrapDataKey_calls (d : DataKey) (failed : List Region) (r : Region)
    (rest : List Region) (e : Environment) :
    (wrapDataKey failed.length d 0 (failed ++ r :: rest)).Yields e
      (fun entries e' => (∃ front back, entries = front ++ r.origin d :: back ∧
          List.Forall₂ (Encrypts d) failed front ∧ List.Forall₂ (Encrypts d) rest back) ∧
        e'.calls = e.calls ++ (failed ++ rest).map (encryptCall d))
      (fun err e' => ∃ before x, StopsAt d (failed ++ rest) before x ∧
        err = .keyService (.regionCannotWrap x.name) ∧
        e'.calls = e.calls ++ (before ++ [x]).map (encryptCall d)) := by
  rw [wrapDataKey_append]
  refine (yields_wrapDataKey_others d (Or.inl (by omega)) e).bind (fun front e₁ hfront => ?_)
    fun err e₁ hx => ?_
  · obtain ⟨hfront, hcalls₁⟩ := hfront
    unfold wrapDataKey
    rw [if_pos (Nat.zero_add _)]
    simp only [pure_bind, bind_assoc]
    refine (yields_wrapDataKey_others d (Or.inr (by omega)) e₁).bind (fun back e₂ hback => ?_)
      fun err e₂ hx => ?_
    · refine ⟨⟨front, back, rfl, hfront, hback.1⟩, ?_⟩
      rw [hback.2, hcalls₁, List.map_append, List.append_assoc]
    · obtain ⟨before, x, hstop, herr, hcalls₂⟩ := hx
      have hall := forall_encrypts hfront
      refine ⟨failed ++ before, x, ⟨?_, ?_, hstop.refuses⟩, herr, ?_⟩
      · rw [List.append_assoc]
        exact (List.prefix_append_right_inj failed).2 hstop.order
      · exact List.forall_mem_append.2 ⟨hall, hstop.encrypt⟩
      · rw [hcalls₂, hcalls₁]
        simp only [List.map_append, List.append_assoc]
  · obtain ⟨before, x, hstop, herr, hcalls⟩ := hx
    exact ⟨before, x, ⟨hstop.order.trans (List.prefix_append _ _), hstop.encrypt, hstop.refuses⟩,
      herr, hcalls⟩

/-! ### What comes of it -/

/-- The blob is the text of an envelope with the key under the data key and, in the order of the
regions, the data key under each of them. -/
def Encloses (k : Key) (d : DataKey) (failed : List Region) (r : Region) (rest : List Region)
    (blob : Bytes) : Prop :=
  ∃ envelope wrapped front back, KeyEnvelope.ofJson blob = .ok envelope ∧
    envelope.keyBytes = .ok wrapped ∧
    (∀ outer : Key, outer.secret = d.plaintext → ∀ created revoked,
      outer.unwrap wrapped created revoked = .ok { k with created, revoked }) ∧
    envelope.dataKeys = front ++ r.origin d :: back ∧
    List.Forall₂ (Encrypts d) failed front ∧ List.Forall₂ (Encrypts d) rest back

/-- The calls that wrapping a key makes, and its result. -/
inductive Wrapping (regions : List Region) (k : Key) : List Call → Except Error Bytes → Prop where
  | noneGenerates (fail : ∀ x ∈ regions, x.FailsToGenerate) :
      Wrapping regions k (regions.map generateCall) (.error (.keyService .noRegionGenerates))
  | unusable {failed r rest d} (originates : Originates regions failed r rest d)
      (length : d.plaintext.length ≠ 32) :
      Wrapping regions k ((failed ++ [r]).map generateCall)
        (.error (.keyService (.unusableDataKey .invalidKeyLength)))
  | refused {failed r rest d before x} (originates : Originates regions failed r rest d)
      (length : d.plaintext.length = 32) (stops : StopsAt d (failed ++ rest) before x) :
      Wrapping regions k ((failed ++ [r]).map generateCall ++ (before ++ [x]).map (encryptCall d))
        (.error (.keyService (.regionCannotWrap x.name)))
  | wrapped {failed r rest d blob} (originates : Originates regions failed r rest d)
      (length : d.plaintext.length = 32) (encloses : Encloses k d failed r rest blob) :
      Wrapping regions k
        ((failed ++ [r]).map generateCall ++ (failed ++ rest).map (encryptCall d)) (.ok blob)

/-- The key is wrapped under the data key without a call. -/
lemma yields_attempt_wrap_calls (outer k : Key) (e : Environment) :
    (Effect.sealing (outer.wrap k).attempt).Yields e
      (fun x e' => ∃ wrapped, x = .ok wrapped ∧ outer.decrypt wrapped = .ok k.secret ∧
        e'.calls = e.calls)
      (fun _ _ => False) := by
  unfold Effect.sealing
  refine yields_zoom.2 (yields_mapError.2 (yields_attempt.2 ?_))
  exact (Key.wrap_yields outer k e.random).mono (fun wrapped _ hw => ⟨wrapped, rfl, hw, rfl⟩)
    fun _ _ h => h.elim

/-- No region is asked for the same thing twice: some of them, in their order, are asked to generate
a data key, and then some to encrypt one and the same. -/
def AsksOnce (regions : List Region) (calls : List Call) : Prop :=
  ∃ (generating encrypting : List Region) (d : DataKey), generating.Sublist regions ∧
    encrypting.Sublist regions ∧
    calls = generating.map generateCall ++ encrypting.map (encryptCall d)

lemma yields_wrapRegional_calls (regions : List Region) (k : Key) (e : Environment) :
    (wrapRegional regions k).Yields e
      (fun blob e' => ∃ calls, Wrapping regions k calls (.ok blob) ∧ e'.calls = e.calls ++ calls)
      (fun err e' => ∃ calls, Wrapping regions k calls (.error err) ∧
        e'.calls = e.calls ++ calls) := by
  unfold wrapRegional
  refine (yields_generateDataKey_calls 0 regions e).bind (fun x e₁ hx => ?_) fun err e₁ hx => ?_
  · obtain ⟨origin, d⟩ := x
    obtain ⟨failed, r, rest, horigin, hplace, hcalls₁⟩ := hx
    obtain rfl : origin = failed.length := by simpa using hplace
    dsimp only
    by_cases hlength : d.plaintext.length = Cipher.Siv.keyLength
    · rw [Key.ofBytes_of_length hlength]
      simp only [pure_bind]
      refine (yields_attempt_wrap_calls _ k e₁).bind (fun x e₂ hx => ?_) fun _ _ h => h.elim
      obtain ⟨wrapped, rfl, hopen, hcalls₂⟩ := hx
      simp only [horigin.order]
      refine (yields_wrapDataKey_calls d failed r rest e₂).bind (fun entries e₃ hx => ?_)
        fun err e₃ hx => ?_
      · obtain ⟨⟨front, back, rfl, hfront, hback⟩, hcalls₃⟩ := hx
        refine ⟨_, .wrapped (by rw [← horigin.order]; exact horigin) hlength
          ⟨⟨Base64.encodeText wrapped, front ++ r.origin d :: back⟩, wrapped, front, back,
            KeyEnvelope.ofJson_toJson _, ?_, fun outer hsecret created revoked => ?_, rfl, hfront,
            hback⟩, ?_⟩
        · unfold KeyEnvelope.keyBytes
          rw [Base64.decodeText_encodeText]
        · exact Key.unwrap_of_decrypt ((Key.decrypt_congr hsecret wrapped).trans hopen) _ _
        · rw [hcalls₃, hcalls₂, hcalls₁, List.append_assoc]
      · obtain ⟨before, x, hstop, rfl, hcalls₃⟩ := hx
        refine ⟨_, .refused (by rw [← horigin.order]; exact horigin) hlength hstop, ?_⟩
        rw [hcalls₃, hcalls₂, hcalls₁, List.append_assoc]
    · rw [Key.ofBytes_of_length_ne hlength]
      exact ⟨_, .unusable horigin hlength, hcalls₁⟩
  · obtain ⟨hall, rfl, hcalls⟩ := hx
    exact ⟨_, .noneGenerates hall, hcalls⟩

variable {regions : List Region} {k : Key} {calls : List Call} {result : Except Error Bytes}

/-- **A key is wrapped** exactly if a region generates a data key that is a key, and all the others
encrypt it. -/
lemma Wrapping.ok_iff (h : Wrapping regions k calls result) :
    (∃ blob, result = .ok blob) ↔ ∃ failed r rest d, Originates regions failed r rest d ∧
      d.plaintext.length = 32 ∧ ∀ x ∈ failed ++ rest, ∃ entry, x.Encrypts d entry := by
  cases h with
  | noneGenerates fail =>
    constructor
    · rintro ⟨blob, hblob⟩
      cases hblob
    · rintro ⟨failed, r, rest, d, horigin, -⟩
      obtain ⟨err, herr⟩ := fail r horigin.mem
      rw [horigin.generates] at herr
      cases herr
  | unusable originates length =>
    constructor
    · rintro ⟨blob, hblob⟩
      cases hblob
    · rintro ⟨failed, r, rest, d, horigin, hlength, -⟩
      obtain ⟨-, -, -, rfl⟩ := horigin.unique originates
      exact absurd hlength length
  | @refused failed r rest d before x originates length stops =>
    constructor
    · rintro ⟨blob, hblob⟩
      cases hblob
    · rintro ⟨failed', r', rest', d', horigin, -, hall⟩
      obtain ⟨rfl, -, rfl, rfl⟩ := horigin.unique originates
      have hx : x ∈ failed' ++ rest' := stops.order.subset (by simp)
      obtain ⟨entry, ciphertext, hencrypt, -⟩ := hall x hx
      obtain ⟨err, herr⟩ := stops.refuses
      rw [hencrypt] at herr
      cases herr
  | @wrapped failed r rest d blob originates length encloses =>
    refine ⟨fun _ => ⟨failed, r, rest, d, originates, length, ?_⟩, fun _ => ⟨blob, rfl⟩⟩
    obtain ⟨-, -, front, back, -, -, -, -, hfront, hback⟩ := encloses
    exact List.forall_mem_append.2 ⟨forall_encrypts hfront, forall_encrypts hback⟩

/-- Every failure is that of the key management service. -/
lemma Wrapping.outage {err : Error} (h : Wrapping regions k calls (.error err)) :
    ∃ outage, err = .keyService outage := by
  cases h with
  | noneGenerates => exact ⟨_, rfl⟩
  | unusable => exact ⟨_, rfl⟩
  | refused => exact ⟨_, rfl⟩

lemma Wrapping.asksOnce (h : Wrapping regions k calls result) : AsksOnce regions calls := by
  have hsplit : ∀ {failed r rest d}, Originates regions failed r rest d →
      (failed ++ [r]).Sublist regions ∧ (failed ++ rest).Sublist regions := by
    intro failed r rest d horigin
    rw [horigin.order]
    exact ⟨List.Sublist.append_left (List.singleton_sublist.2 List.mem_cons_self) failed,
      List.Sublist.append_left (List.sublist_cons_self r rest) failed⟩
  cases h with
  | noneGenerates =>
    exact ⟨regions, [], ⟨[], []⟩, .refl _, List.nil_sublist _, (List.append_nil _).symm⟩
  | @unusable _ _ _ d originates =>
    exact ⟨_, [], d, (hsplit originates).1, List.nil_sublist _, (List.append_nil _).symm⟩
  | refused originates _ stops =>
    exact ⟨_, _, _, (hsplit originates).1, stops.order.sublist.trans (hsplit originates).2, rfl⟩
  | wrapped originates =>
    exact ⟨_, _, _, (hsplit originates).1, (hsplit originates).2, rfl⟩

/-- **All or none.** Whatever the regions, of which there is at least one, whichever is preferred
and whatever they answer: a key is wrapped if and only if some region generates a data key, the
first that does so generates one of 32 bytes, and each other region, those included that came
before, encrypts it. Every failure is that of the key management service. What is asked of the
regions, and what is in the envelope, is said in `Wrapping`; none is asked for the same thing
twice. -/
theorem wraps_in_all_regions_or_none {regions : List Region} (hne : regions ≠ [])
    (preferred : String) (k : Key) (e : Environment) :
    ∃ s, ofRegions regions preferred = .ok s ∧
      ((∃ blob, ((s.wrap k).outcome e).1 = .ok blob) ↔
        ∃ failed r rest d, Originates (inOrder regions preferred) failed r rest d ∧
          d.plaintext.length = 32 ∧ ∀ x ∈ failed ++ rest, ∃ entry, x.Encrypts d entry) ∧
      (∀ err, ((s.wrap k).outcome e).1 = .error err → ∃ outage, err = .keyService outage) ∧
      ∃ calls, Wrapping (inOrder regions preferred) k calls ((s.wrap k).outcome e).1 ∧
        ((s.wrap k).outcome e).2.calls = e.calls ++ calls ∧
        AsksOnce (inOrder regions preferred) calls := by
  refine ⟨.regional (inOrder regions preferred), ?_, ?_⟩
  · unfold ofRegions
    rw [if_neg (by simpa using hne)]
    rfl
  obtain ⟨calls, hwrapping, hcalls⟩ := (yields_wrapRegional_calls (inOrder regions preferred) k
    e).outcome (P := fun result (e' : Environment) => ∃ calls,
      Wrapping (inOrder regions preferred) k calls result ∧ e'.calls = e.calls ++ calls)
  refine ⟨hwrapping.ok_iff, fun err herr => ?_, calls, hwrapping, hcalls, hwrapping.asksOnce⟩
  have hwrap : ((wrapRegional (inOrder regions preferred) k).outcome e).1 = .error err := herr
  rw [hwrap] at hwrapping
  exact hwrapping.outage

/-- The preferred region generates nothing, and still encrypts what the other one generates. -/
theorem both_regions_wrap :
    let simulated : SimulatedRegion := ⟨List.replicate 32 7, none, none, none, none⟩
    let silent : SimulatedRegion :=
      { simulated with generateFails := some (.application (.stated "throttled" none)) }
    let west : Region := ⟨"us-west-2", "arn:west", silent.client⟩
    let east : Region := ⟨"us-east-1", "arn:east", simulated.client⟩
    let k : Key := ⟨List.replicate 32 1, ⟨0, by decide, by decide⟩, false, rfl⟩
    let now : Environment := .ofStore ⟨⟨0, by decide, by decide⟩, 0⟩ (.ofSeed 0) (.empty none)
    [east, west] ≠ [] ∧ ∃ s blob, ofRegions [east, west] "us-west-2" = .ok s ∧
      ((s.wrap k).outcome now).1 = .ok blob := by
  intro simulated silent west east k now
  have hne : [east, west] ≠ [] := List.cons_ne_nil _ _
  obtain ⟨s, hs, hok, -⟩ := wraps_in_all_regions_or_none hne "us-west-2" k now
  have horigin : Originates (inOrder [east, west] "us-west-2") [west] east []
      ⟨List.replicate 32 7, SimulatedRegion.wrap "arn:east" (List.replicate 32 7)⟩ :=
    ⟨rfl, List.forall_mem_singleton.2 ⟨_, rfl⟩, rfl⟩
  obtain ⟨blob, hblob⟩ := hok.2 ⟨[west], east, [], _, horigin, rfl,
    List.forall_mem_singleton.2 ⟨_, _, rfl, rfl⟩⟩
  exact ⟨hne, s, blob, hs, hblob⟩

end KeyService

end Envelope
