import Mathlib.Data.List.Forall2
import Envelope.Proofs.KeyRecord
import Envelope.Proofs.Wrapping

/-!
Any one region is enough to unwrap a key.

A key is wrapped under a data key, and every region has wrapped the data key. To unwrap, the regions
are tried in their order up to the first that does. A region that fails, or that answers with
something of no use, is passed over; a region that answers with the data key unwraps the key.
-/

namespace Envelope

open Envelope.Action

namespace Region

/-! ### Wrapping -/

/-- The region has wrapped the data key: it has generated it or has encrypted it. -/
def Wraps (r : Region) (d : DataKey) (ciphertext : Bytes) : Prop :=
  r.client.generate r.arn = .ok d ∧ ciphertext = d.ciphertext ∨
    r.client.encrypt r.arn d.plaintext = .ok ciphertext

/-- The entry of a key envelope is that of the region. -/
structure Enters (d : DataKey) (r : Region) (k : WrappedDataKey) : Prop where
  region : k.region = r.name
  arn : k.arn = r.arn
  wraps : ∃ ciphertext, Base64.decodeText k.ciphertext = some ciphertext ∧ r.Wraps d ciphertext

/-! ### Unwrapping -/

/-- What the region is asked to decrypt, and under which master key. -/
def asked? (r : Region) (envelope : KeyEnvelope) : Option (String × Bytes) := do
  let dataKey ← envelope.dataKey? r.name
  return (dataKey.arn, ← Base64.decodeText dataKey.ciphertext)

/-- The call that trying the region makes, if it makes one. -/
def calls (r : Region) (envelope : KeyEnvelope) : List Call :=
  (r.asked? envelope).toList.map fun x => .regionDecrypt x.1 x.2

/-- The key that the region unwraps, if it does. -/
def unwraps? (r : Region) (envelope : KeyEnvelope) (wrapped : Bytes) (created : Stamp)
    (revoked : Bool) : Option Key := do
  let (arn, ciphertext) ← r.asked? envelope
  let plaintext ← (r.client.decrypt arn ciphertext).toOption
  (Key.ofBytes plaintext created false >>= (·.unwrap wrapped created revoked)).toOption

/-- What comes of bytes that the region answers with. -/
lemma unwraps?_of_answer {r : Region} {envelope : KeyEnvelope} {arn : String}
    {ciphertext plaintext : Bytes} (hasked : r.asked? envelope = some (arn, ciphertext))
    (hanswer : r.client.decrypt arn ciphertext = .ok plaintext) (wrapped : Bytes) (created : Stamp)
    (revoked : Bool) : r.unwraps? envelope wrapped created revoked =
      (Key.ofBytes plaintext created false >>= (·.unwrap wrapped created revoked)).toOption := by
  unfold unwraps?
  simp only [hasked, Option.bind_eq_bind, Option.bind_some, hanswer]
  rfl

/-- The region decrypts, under the master key that is named, what the other has wrapped under it. -/
def Reads (r w : Region) : Prop :=
  ∀ d ciphertext, w.Wraps d ciphertext → r.client.decrypt w.arn ciphertext = .ok d.plaintext

/-- The region has the name of one of the others, and reads what those of its name have wrapped. -/
structure IsHealthy (r : Region) (others : List Region) : Prop where
  named : r.name ∈ others.map (·.name)
  reads : ∀ w ∈ others, w.name = r.name → r.Reads w

/-- The region is not asked or fails, or it answers with the data key, with bytes that are not a
key, or with those of a key that does not open what is wrapped. -/
def IsHarmless (r : Region) (d : DataKey) (envelope : KeyEnvelope) (wrapped : Bytes) : Prop :=
  ∀ arn ciphertext plaintext, r.asked? envelope = some (arn, ciphertext) →
    r.client.decrypt arn ciphertext = .ok plaintext →
    plaintext = d.plaintext ∨ plaintext.length ≠ Cipher.Siv.keyLength ∨
      ∀ k : Key, k.secret = plaintext → ∃ fault, k.decrypt wrapped = .error fault

/-- Simulated regions that answer by their rule are healthy for each other. -/
lemma reads_of_simulated {r w : Region} {a b : SimulatedRegion} (hr : r.client = a.client)
    (hw : w.client = b.client) (hfails : a.decryptFails = none) (hsets : a.decryptsTo = none) :
    r.Reads w := by
  have hdecrypt : ∀ arn bs, r.client.decrypt arn bs = SimulatedRegion.unwrap arn bs := by
    intro arn bs
    rw [hr]
    unfold SimulatedRegion.client
    rw [hfails, hsets]
  rintro d ciphertext (⟨hgen, rfl⟩ | henc) <;> rw [hdecrypt]
  · rw [hw] at hgen
    unfold SimulatedRegion.client at hgen
    cases hb : b.generateFails with
    | some err => simp only [hb, reduceCtorEq] at hgen
    | none =>
      simp only [hb, Except.ok.injEq] at hgen
      rw [← hgen]
      exact SimulatedRegion.unwrap_wrap ..
  · rw [hw] at henc
    unfold SimulatedRegion.client at henc
    cases hb : b.encryptFails with
    | some err => simp only [hb, reduceCtorEq] at henc
    | none =>
      simp only [hb, Except.ok.injEq] at henc
      rw [← henc]
      exact SimulatedRegion.unwrap_wrap ..

end Region

namespace KeyService

/-! ### What is wrapped -/

/-- The key envelope holds the key under the data key, and the data key under every region. -/
structure Holds (regions : List Region) (k : Key) (d : DataKey) (envelope : KeyEnvelope)
    (wrapped : Bytes) : Prop where
  generated : generated? regions = some d
  keyBytes : envelope.keyBytes = .ok wrapped
  opens : ∃ outer : Key, outer.secret = d.plaintext ∧ outer.decrypt wrapped = .ok k.secret
  dataKeys : List.Forall₂ (Region.Enters d) regions envelope.dataKeys

/-- A region that encrypts the data key itself enters it. -/
lemma enters_of_encrypts {d : DataKey} {r : Region} {entry : WrappedDataKey}
    (h : r.Encrypts d entry) : r.Enters d entry := by
  obtain ⟨ciphertext, hencrypt, rfl⟩ := h
  exact ⟨rfl, rfl, ciphertext, Base64.decodeText_encodeText _, Or.inr hencrypt⟩

/-- **A key that regions wrap** is in the envelope under their data key. -/
lemma holds_of_wrapping {regions : List Region} {k : Key} {calls : List Call} {blob : Bytes}
    (h : Wrapping regions k calls (.ok blob)) :
    ∃ d envelope wrapped, KeyEnvelope.ofJson blob = .ok envelope ∧
      Holds regions k d envelope wrapped := by
  cases h with
  | @wrapped failed r rest d _ originates length encloses =>
    obtain ⟨envelope, wrapped, front, back, hjson, hbytes, hopen, hentries, hfront, hback⟩ :=
      encloses
    obtain ⟨outer, hsecret⟩ : ∃ outer : Key, outer.secret = d.plaintext :=
      ⟨⟨d.plaintext, k.created, false, length⟩, rfl⟩
    have horigin : r.Enters d (r.origin d) :=
      ⟨rfl, rfl, d.ciphertext, Base64.decodeText_encodeText _, Or.inl ⟨originates.generates, rfl⟩⟩
    refine ⟨d, envelope, wrapped, hjson, originates.generated, hbytes,
      ⟨outer, hsecret, (Key.unwrap_eq_ok (hopen outer hsecret k.created k.revoked)).1⟩, ?_⟩
    rw [originates.order, hentries]
    exact List.rel_append (hfront.imp fun _ _ => enters_of_encrypts)
      (.cons horigin (hback.imp fun _ _ => enters_of_encrypts))

/-- A region of a name that wrapped the data key is asked for it. -/
lemma Holds.asked? {regions : List Region} {k : Key} {d : DataKey} {envelope : KeyEnvelope}
    {wrapped : Bytes} (h : Holds regions k d envelope wrapped) {r : Region}
    (hr : r.name ∈ regions.map (·.name)) :
    ∃ w ∈ regions, w.name = r.name ∧ ∃ ciphertext, w.Wraps d ciphertext ∧
      r.asked? envelope = some (w.arn, ciphertext) := by
  have hfound : ∃ w ∈ regions, w.name = r.name ∧ ∃ entry, envelope.dataKey? r.name = some entry ∧
      w.Enters d entry := by
    have hkeys := h.dataKeys
    unfold KeyEnvelope.dataKey?
    generalize envelope.dataKeys = entries at hkeys ⊢
    clear h
    induction hkeys with
    | nil => cases hr
    | @cons w entry rest entries hw _ ih =>
      by_cases hname : w.name = r.name
      · refine ⟨w, List.mem_cons_self, hname, entry, ?_, hw⟩
        rw [List.find?_cons_of_pos (by simp [hw.region, hname])]
      · have hr : r.name ∈ rest.map (·.name) :=
          (List.mem_cons.1 hr).resolve_left fun he => hname he.symm
        obtain ⟨w', hmem, hw'⟩ := ih hr
        refine ⟨w', List.mem_cons_of_mem w hmem, ?_⟩
        rwa [List.find?_cons_of_neg (by simp [hw.region, hname])]
  obtain ⟨w, hmem, hname, entry, hentry, hw⟩ := hfound
  obtain ⟨ciphertext, hdecode, hwraps⟩ := hw.wraps
  refine ⟨w, hmem, hname, ciphertext, hwraps, ?_⟩
  unfold Region.asked?
  rw [hentry, ← hw.arn]
  simp only [Option.bind_eq_bind, Option.bind_some, hdecode, Option.pure_def]

/-! ### Trying regions -/

variable {envelope : KeyEnvelope} {wrapped : Bytes} {created : Stamp} {revoked : Bool}

lemma yields_unwrapIn (r : Region) (e : Environment) :
    (unwrapIn r envelope wrapped created revoked).Yields e
      (fun k? e' => k? = r.unwraps? envelope wrapped created revoked ∧
        e'.calls = e.calls ++ r.calls envelope)
      (fun _ _ => False) := by
  unfold unwrapIn Region.unwraps? Region.calls Region.asked?
  cases hk : envelope.dataKey? r.name with
  | none => exact ⟨rfl, (List.append_nil _).symm⟩
  | some dataKey =>
    cases hc : Base64.decodeText dataKey.ciphertext with
    | none =>
      simp only [hc, yields_bind, Effect.yields_emit, yields_pure, Option.bind_eq_bind,
        Option.bind_some, Option.bind_none]
      exact ⟨trivial, (List.append_nil _).symm⟩
    | some ciphertext =>
      unfold Region.decrypt
      simp only [hc, yields_bind, Effect.yields_note, yields_pure, Option.bind_eq_bind,
        Option.bind_some, Option.pure_def]
      cases hr : r.client.decrypt dataKey.arn ciphertext with
      | error err => exact ⟨rfl, rfl⟩
      | ok plaintext =>
        rw [show (Except.ok plaintext : Except Error Bytes).toOption = some plaintext from rfl,
          Option.bind_some]
        dsimp only
        cases Key.ofBytes plaintext created false >>= (·.unwrap wrapped created revoked) with
        | error fault => exact ⟨rfl, rfl⟩
        | ok key => exact ⟨rfl, rfl⟩

/-- What comes of trying regions in their order: one of them unwraps a key and those after it are
not tried, or all are tried in vain. -/
inductive Tried (unwraps? : Region → Option Key) (regions : List Region) :
    List Region → Except Error Key → Prop where
  | found (failed : List Region) (r : Region) (untried : List Region) (key : Key)
      (order : regions = failed ++ r :: untried) (nothing : ∀ x ∈ failed, unwraps? x = none)
      (unwraps : unwraps? r = some key) : Tried unwraps? regions (failed ++ [r]) (.ok key)
  | inVain (nothing : ∀ x ∈ regions, unwraps? x = none) :
      Tried unwraps? regions regions (.error (.keyService .noRegionDecrypts))

/-- A region tried in vain comes before the others. -/
lemma Tried.cons {unwraps? : Region → Option Key} {regions tried : List Region}
    {result : Except Error Key} (h : Tried unwraps? regions tried result) {r : Region}
    (hr : unwraps? r = none) : Tried unwraps? (r :: regions) (r :: tried) result := by
  cases h with
  | found failed r' untried key order nothing unwraps =>
    exact .found (r :: failed) r' untried key (congrArg (r :: ·) order)
      (List.forall_mem_cons.2 ⟨hr, nothing⟩) unwraps
  | inVain nothing => exact .inVain (List.forall_mem_cons.2 ⟨hr, nothing⟩)

/-- The result is the key of the first region that unwraps one. -/
lemma Tried.eq_ok {unwraps? : Region → Option Key} {regions tried : List Region}
    {result : Except Error Key} (h : Tried unwraps? regions tried result) {key : Key}
    (hkey : regions.findSome? unwraps? = some key) : result = .ok key := by
  cases h with
  | found failed r untried key' order nothing unwraps =>
    have hfirst : regions.findSome? unwraps? = some key' :=
      List.findSome?_eq_some_iff.2 ⟨failed, r, untried, order, unwraps, nothing⟩
    rw [Option.some.inj (hfirst.symm.trans hkey)]
  | inVain nothing =>
    rw [List.findSome?_eq_none_iff.2 nothing] at hkey
    cases hkey

/-- **Unwrapping** tries the regions in their order, with one call each. -/
lemma yields_unwrapAny (regions : List Region) (e : Environment) :
    (unwrapAny envelope wrapped created revoked regions).Yields e
      (fun key e' => ∃ tried,
        Tried (·.unwraps? envelope wrapped created revoked) regions tried (.ok key) ∧
          e'.calls = e.calls ++ tried.flatMap (·.calls envelope))
      (fun err e' => ∃ tried,
        Tried (·.unwraps? envelope wrapped created revoked) regions tried (.error err) ∧
          e'.calls = e.calls ++ tried.flatMap (·.calls envelope)) := by
  induction regions generalizing e with
  | nil => exact ⟨[], .inVain (by simp), (List.append_nil _).symm⟩
  | cons r rest ih =>
    unfold unwrapAny
    refine (yields_unwrapIn r e).bind (fun key? e' hr => ?_) fun _ _ h => h.elim
    obtain ⟨hyield, hcalls⟩ := hr
    cases key? with
    | some key =>
      exact ⟨[r], .found [] r rest key rfl (by simp) hyield.symm, by simpa using hcalls⟩
    | none =>
      have hnext : ∀ {result tried calls},
          Tried (·.unwraps? envelope wrapped created revoked) rest tried result →
          calls = e'.calls ++ tried.flatMap (·.calls envelope) → ∃ tried,
            Tried (·.unwraps? envelope wrapped created revoked) (r :: rest) tried result ∧
              calls = e.calls ++ tried.flatMap (·.calls envelope) := by
        intro result tried calls htried hlater
        refine ⟨r :: tried, htried.cons hyield.symm, ?_⟩
        rw [hlater, hcalls, List.append_assoc, List.flatMap_cons]
      exact (ih e').mono (fun _ _ ⟨_, htried, hlater⟩ => hnext htried hlater)
        fun _ _ ⟨_, htried, hlater⟩ => hnext htried hlater

/-! ### A key that was wrapped -/

section

variable {regions : List Region} {k : Key} {d : DataKey} {r : Region}

/-- A region that answers with the data key unwraps the key. -/
lemma Holds.unwraps_of_answer (h : Holds regions k d envelope wrapped) {arn : String}
    {ciphertext : Bytes} (hasked : r.asked? envelope = some (arn, ciphertext))
    (hanswer : r.client.decrypt arn ciphertext = .ok d.plaintext) (revoked : Bool) :
    r.unwraps? envelope wrapped k.created revoked = some { k with revoked } := by
  obtain ⟨outer, hsecret, hopen⟩ := h.opens
  have hkey : Key.ofBytes d.plaintext k.created false = .ok (outer.restamp k.created false) := by
    unfold Key.ofBytes
    rw [dif_pos (hsecret ▸ outer.length_secret)]
    exact congrArg Except.ok (by simp only [Key.restamp, hsecret])
  have hunwrap : (outer.restamp k.created false).unwrap wrapped k.created revoked =
      .ok (k.restamp k.created revoked) :=
    Key.unwrap_of_decrypt ((Key.decrypt_congr (Key.restamp_secret _ _ _) _).trans hopen) _ _
  rw [Region.unwraps?_of_answer hasked hanswer, hkey]
  show ((outer.restamp k.created false).unwrap wrapped k.created revoked).toOption = _
  rw [hunwrap]
  rfl

/-- A harmless region unwraps nothing but the key. -/
lemma Holds.unwraps_of_isHarmless (h : Holds regions k d envelope wrapped)
    (hr : r.IsHarmless d envelope wrapped) (revoked : Bool) :
    r.unwraps? envelope wrapped k.created revoked = none ∨
      r.unwraps? envelope wrapped k.created revoked = some { k with revoked } := by
  cases hasked : r.asked? envelope with
  | none =>
    refine Or.inl ?_
    unfold Region.unwraps?
    rw [hasked]
    rfl
  | some asked =>
    obtain ⟨arn, ciphertext⟩ := asked
    cases hanswer : r.client.decrypt arn ciphertext with
    | error err =>
      refine Or.inl ?_
      unfold Region.unwraps?
      simp only [hasked, Option.bind_eq_bind, Option.bind_some, hanswer]
      rfl
    | ok plaintext =>
      -- Only an answer can unwrap anything, and it does so if it is the data key.
      rcases hr arn ciphertext plaintext hasked hanswer with rfl | hnothing
      · exact Or.inr (h.unwraps_of_answer hasked hanswer revoked)
      · refine Or.inl ?_
        rw [Region.unwraps?_of_answer hasked hanswer]
        unfold Key.ofBytes
        rcases hnothing with hlength | hreject
        · rw [dif_neg hlength]
          rfl
        · split
          · next hlength =>
            obtain ⟨fault, hfault⟩ := hreject ⟨plaintext, k.created, false, hlength⟩ rfl
            show (Key.unwrap _ wrapped k.created revoked).toOption = none
            unfold Key.unwrap
            rw [hfault]
            rfl
          · rfl

/-- A healthy region unwraps the key. -/
lemma Holds.unwraps_of_isHealthy (h : Holds regions k d envelope wrapped)
    (hr : r.IsHealthy regions) (revoked : Bool) :
    r.unwraps? envelope wrapped k.created revoked = some { k with revoked } := by
  obtain ⟨w, hmem, hname, ciphertext, hwraps, hasked⟩ := h.asked? hr.named
  exact h.unwraps_of_answer hasked (hr.reads w hmem hname d ciphertext hwraps) revoked

/-- With harmless regions before a healthy one, the first that unwraps a key unwraps the key. -/
lemma Holds.findSome?_unwraps (h : Holds regions k d envelope wrapped) (hr : r.IsHealthy regions)
    {before : List Region} (hbefore : ∀ x ∈ before, x.IsHarmless d envelope wrapped)
    (after : List Region) (revoked : Bool) :
    (before ++ r :: after).findSome? (·.unwraps? envelope wrapped k.created revoked) =
      some { k with revoked } := by
  induction before with
  | nil => rw [List.nil_append, List.findSome?_cons, h.unwraps_of_isHealthy hr]
  | cons x rest ih =>
    obtain ⟨hx, hrest⟩ := List.forall_mem_cons.1 hbefore
    rw [List.cons_append, List.findSome?_cons]
    rcases h.unwraps_of_isHarmless hx revoked with hyield | hyield <;> rw [hyield]
    exact ih hrest

end

/-- **One healthy region is enough.** A key that some regions have wrapped is unwrapped by any
others, in whatever order and however many of them fail: those of the preferred name are tried
first, each once and none after the first that unwraps a key, and a healthy region with nothing but
harmless ones before it makes sure that it is the key that was wrapped. -/
theorem one_region_unwraps {ws rs : List Region} {first preferred : String} {s s' : KeyService}
    {k : Key} {blob : Bytes} {e e' : Environment} (hs : ofRegions ws first = .ok s)
    (hs' : ofRegions rs preferred = .ok s') (hwrap : (s.wrap k).outcome e = (.ok blob, e')) :
    ∃ d envelope wrapped, generated? (inOrder ws first) = some d ∧
      KeyEnvelope.ofJson blob = .ok envelope ∧ envelope.keyBytes = .ok wrapped ∧
      ∀ (revoked : Bool) (now : Environment),
        (∃ tried, Tried (·.unwraps? envelope wrapped k.created revoked) (inOrder rs preferred) tried
            ((s'.unwrap blob k.created revoked).outcome now).1 ∧
          ((s'.unwrap blob k.created revoked).outcome now).2.calls =
            now.calls ++ tried.flatMap (·.calls envelope)) ∧
        ∀ before r after, inOrder rs preferred = before ++ r :: after → r.IsHealthy ws →
          (∀ x ∈ before, x.IsHarmless d envelope wrapped) →
          ((s'.unwrap blob k.created revoked).outcome now).1 = .ok { k with revoked } := by
  obtain rfl := ofRegions_eq_ok hs
  obtain rfl := ofRegions_eq_ok hs'
  have hwrapped := yields_wrapRegional_calls (inOrder ws first) k e
  unfold Yields at hwrapped
  rw [show (wrapRegional (inOrder ws first) k).outcome e = _ from hwrap] at hwrapped
  obtain ⟨calls, hwrapping, -⟩ := hwrapped
  obtain ⟨d, envelope, wrapped, hjson, h⟩ := holds_of_wrapping hwrapping
  refine ⟨d, envelope, wrapped, h.generated, hjson, h.keyBytes, fun revoked now => ?_⟩
  have hunwrap : ((KeyService.regional (inOrder rs preferred)).unwrap blob k.created
      revoked).outcome now =
      (unwrapAny envelope wrapped k.created revoked (inOrder rs preferred)).outcome now := by
    show (unwrapRegional (inOrder rs preferred) _ _ _).outcome now = _
    unfold unwrapRegional
    rw [hjson]
    show (Action.ofExcept envelope.keyBytes >>= _ : Effect Key).outcome now = _
    rw [h.keyBytes]
    rfl
  rw [hunwrap]
  have htried := (yields_unwrapAny (inOrder rs preferred) now).outcome
    (P := fun result (e' : Environment) => ∃ tried,
      Tried (·.unwraps? envelope wrapped k.created revoked) (inOrder rs preferred) tried result ∧
        e'.calls = now.calls ++ tried.flatMap (·.calls envelope))
  refine ⟨htried, fun before r after horder hr hbefore => ?_⟩
  obtain ⟨tried, htried, -⟩ := htried
  refine htried.eq_ok ?_
  rw [horder]
  refine h.findSome?_unwraps ⟨?_, fun w hw => hr.reads w ?_⟩ hbefore after revoked
  · exact ((inOrder_perm ws first).map _).mem_iff.2 hr.named
  · exact (inOrder_perm ws first).mem_iff.1 hw

/-- The preferred region is out of reach and the next one answers with no key. -/
theorem third_region_unwraps :
    let simulated : SimulatedRegion := ⟨List.replicate 32 7, none, none, none, none⟩
    let west : Region := ⟨"us-west-2", "arn:west", simulated.client⟩
    let east : Region := ⟨"us-east-1", "arn:east", simulated.client⟩
    let down : Region := { west with client := .unreachable }
    let broken : Region := { east with client := { simulated with decryptsTo := some [1] }.client }
    let k : Key := ⟨List.replicate 32 1, ⟨0, by decide, by decide⟩, false, rfl⟩
    let now : Environment := .ofStore ⟨⟨0, by decide, by decide⟩, 0⟩ (.ofSeed 0) (.empty none)
    ∃ s s' blob later, ofRegions [east, west] "us-west-2" = .ok s ∧
      ofRegions [broken, east, down] "us-west-2" = .ok s' ∧
      (s.wrap k).outcome now = (.ok blob, later) ∧
      ((s'.unwrap blob k.created true).outcome now).1 = .ok { k with revoked := true } := by
  intro simulated west east down broken k now
  obtain ⟨blob, later, hwrap⟩ : ∃ blob later,
      ((KeyService.regional [west, east]).wrap k).outcome now = (.ok blob, later) := ⟨_, _, rfl⟩
  have hs : ofRegions [east, west] "us-west-2" = .ok (.regional [west, east]) := rfl
  have hs' : ofRegions [broken, east, down] "us-west-2" =
      .ok (.regional [down, broken, east]) := rfl
  refine ⟨_, _, blob, later, hs, hs', hwrap, ?_⟩
  obtain ⟨d, envelope, wrapped, -, -, -, hunwrap⟩ := one_region_unwraps hs hs' hwrap
  have hreads : ∀ w ∈ [east, west], east.Reads w := List.forall_mem_cons.2
    ⟨Region.reads_of_simulated (a := simulated) (b := simulated) rfl rfl rfl rfl,
      List.forall_mem_singleton.2 (Region.reads_of_simulated (a := simulated) (b := simulated)
        rfl rfl rfl rfl)⟩
  have hdown : down.IsHarmless d envelope wrapped := fun _ _ _ _ hanswer => nomatch hanswer
  have hbroken : broken.IsHarmless d envelope wrapped := by
    intro _ _ _ _ hanswer
    cases hanswer
    exact Or.inr (Or.inl (by decide))
  exact (hunwrap true now).2 [down, broken] east [] rfl ⟨by simp, fun w hw _ => hreads w hw⟩
    (List.forall_mem_cons.2 ⟨hdown, List.forall_mem_singleton.2 hbroken⟩)

end KeyService

end Envelope
