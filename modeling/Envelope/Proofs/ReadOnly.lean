import Envelope.Proofs.Conduct

/-!
# Opening only reads

What an engine does to open a record is to load records and to have keys unwrapped. Whatever the
key management service, whatever is cached and whichever calls fail, the store, the clock and the
random stream are as before, and no call asks a collaborator to keep or to make anything.
-/

namespace Envelope

open Envelope.Action

/-- The call asks a collaborator for something that it holds or can open. -/
def Call.Reads : Call → Prop
  | .load .. | .unwrap .. | .regionDecrypt .. => True
  | .latest .. | .insert .. | .wrap .. | .regionGenerate .. | .regionEncrypt .. => False

namespace Environment

/-- The second environment comes after calls that only read: neither the clock, the random stream
nor the store has changed. -/
structure Consults (e e' : Environment) : Prop where
  clock : e'.clock = e.clock
  random : e'.random = e.random
  store : e'.store = e.store
  calls : ∃ made, e'.calls = e.calls ++ made ∧ ∀ c ∈ made, c.Reads

instance : IsPreorder Environment Consults where
  refl e := ⟨rfl, rfl, rfl, [], by simp⟩
  trans e e' e'' h h' := by
    obtain ⟨made, hmade, hreads⟩ := h.calls
    obtain ⟨made', hmade', hreads'⟩ := h'.calls
    refine ⟨h'.clock.trans h.clock, h'.random.trans h.random, h'.store.trans h.store,
      made ++ made', ?_, fun c hc => ?_⟩
    · rw [hmade', hmade, List.append_assoc]
    · exact (List.mem_append.1 hc).elim (hreads c) (hreads' c)

/-- What is logged or planned makes no call. -/
lemma consults_of_eq {e e' : Environment} (hclock : e'.clock = e.clock)
    (hrandom : e'.random = e.random) (hstore : e'.store = e.store) (hcalls : e'.calls = e.calls) :
    e.Consults e' :=
  ⟨hclock, hrandom, hstore, [], by simp [hcalls]⟩

end Environment

open Environment

namespace Effect

lemma consults_emit (event : Event) : (emit event).Respects Consults :=
  respects_ofState fun _ => consults_of_eq rfl rfl rfl rfl

lemma consults_note {call : Call} (h : call.Reads) : (note call).Respects Consults :=
  respects_ofState fun _ => ⟨rfl, rfl, rfl, [call], rfl, by simpa using h⟩

lemma consults_nextLoadFault : nextLoadFault.Respects Consults :=
  respects_ofState fun _ => consults_of_eq rfl rfl rfl rfl

lemma consults_nextUnwrapFault : nextUnwrapFault.Respects Consults :=
  respects_ofState fun _ => consults_of_eq rfl rfl rfl rfl

lemma consults_loadRecord (pointer : KeyMeta) : (loadRecord pointer).Respects Consults := by
  refine consults_nextLoadFault.bind fun fault => Respects.bind ?_ fun held => ?_
  · exact respects_ofState fun env => refl_of Consults env
  · refine Respects.bind ?_ fun _ => respects_ofExcept _
    exact consults_note trivial

end Effect

namespace KeyService

open Effect

lemma consults_decrypt (r : Region) (arn : String) (ciphertext : Bytes) :
    (r.decrypt arn ciphertext).Respects Consults := by
  refine Respects.bind ?_ fun _ => respects_pure _
  exact consults_note trivial

lemma consults_unwrapIn (r : Region) (envelope : KeyEnvelope) (wrapped : Bytes) (created : Stamp)
    (revoked : Bool) : (unwrapIn r envelope wrapped created revoked).Respects Consults := by
  unfold unwrapIn
  split
  · exact respects_pure _
  · split
    · exact (consults_emit _).bind fun _ => respects_pure _
    · refine (consults_decrypt r _ _).bind fun answer => ?_
      split
      · exact (consults_emit _).bind fun _ => respects_pure _
      · split
        · exact (consults_emit _).bind fun _ => respects_pure _
        · exact (consults_emit _).bind fun _ => respects_pure _

lemma consults_unwrapAny (envelope : KeyEnvelope) (wrapped : Bytes) (created : Stamp)
    (revoked : Bool) (regions : List Region) :
    (unwrapAny envelope wrapped created revoked regions).Respects Consults := by
  induction regions with
  | nil => exact respects_throw _
  | cons r rest ih =>
    refine (consults_unwrapIn r envelope wrapped created revoked).bind fun found => ?_
    cases found with
    | some key => exact respects_pure _
    | none => exact ih

lemma consults_callUnwrap (service : KeyService) (blob : Bytes) (created : Stamp)
    (revoked : Bool) : (service.callUnwrap blob created revoked).Respects Consults := by
  refine Respects.bind ?_ fun _ => consults_nextUnwrapFault.bind fun fault => ?_
  · exact consults_note trivial
  cases fault with
  | some err => exact respects_throw _
  | none =>
    cases service with
    | master outer => exact respects_ofExcept _
    | regional regions =>
      refine (respects_ofExcept _).bind fun envelope => (respects_ofExcept _).bind fun wrapped => ?_
      exact consults_unwrapAny envelope wrapped created revoked regions

end KeyService

namespace Engine

/-- The workspace after calls that only read, whatever has been cached. -/
def Workspace.Consults (w w' : Workspace) : Prop := w.environment.Consults w'.environment

instance : IsPreorder Workspace Workspace.Consults where
  refl w := refl_of Environment.Consults w.environment
  trans _ _ _ h h' := trans_of Environment.Consults h h'

lemma consults_retainSystemKey (e : Engine) (key : Key) :
    (e.retainSystemKey key).Respects Workspace.Consults := by
  unfold retainSystemKey
  split
  · exact respects_ofState fun w => refl_of Environment.Consults w.environment
  · exact respects_pure _

lemma consults_retainIntermediateKey (e : Engine) (key : Key) :
    (e.retainIntermediateKey key).Respects Workspace.Consults := by
  unfold retainIntermediateKey
  split
  · exact respects_ofState fun w => refl_of Environment.Consults w.environment
  · exact respects_pure _

/-- Every step of a read is a call that only reads, or none. -/
lemma readsWithin_consults (e : Engine) :
    e.ReadsWithin Environment.Consults Workspace.Consults where
  lift _ _ h := h
  emit := Effect.consults_emit
  loadRecord := Effect.consults_loadRecord
  openSystemRecord r := by
    refine (respects_ofExcept _).bind fun wrapped => ?_
    exact KeyService.consults_callUnwrap e.service wrapped r.created r.isRevoked
  retainSystemKey := e.consults_retainSystemKey
  retainIntermediateKey := e.consults_retainIntermediateKey

end Engine

end Envelope
