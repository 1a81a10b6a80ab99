import Envelope.Proofs.ReadOnly
import Envelope.Proofs.Sessions

/-!
# Work neither disposes a cache nor revives one

Whatever an engine does, with any key management service and any calls that fail, the clock and the
suffix of the store stay, and a cache of keys is disposed after it just if it was before. Engines
are disposed by name only, by those who let their sessions go.
-/

namespace Envelope

open Envelope.Action

namespace Environment

/-- The clock has not moved and the store is for the same suffix. -/
structure Abides (e e' : Environment) : Prop where
  clock : e'.clock = e.clock
  suffix : e'.store.suffix = e.store.suffix

instance : IsPreorder Environment Abides where
  refl _ := ⟨rfl, rfl⟩
  trans _ _ _ h h' := ⟨h'.clock.trans h.clock, h'.suffix.trans h.suffix⟩

lemma Consults.abides {e e' : Environment} (h : e.Consults e') : e.Abides e' :=
  ⟨h.clock, congrArg Store.suffix h.store⟩

end Environment

open Environment

/-! ### Calls -/

namespace Effect

lemma abides_note (call : Call) : (note call).Respects Abides :=
  respects_ofState fun _ => ⟨rfl, rfl⟩

lemma abides_emit (event : Event) : (emit event).Respects Abides :=
  respects_ofState fun _ => ⟨rfl, rfl⟩

lemma abides_sealing {α : Type} (a : Sealing α) : (sealing a).Respects Abides :=
  fun _ => ⟨rfl, rfl⟩

lemma abides_latestRecord (keyId : String) : (latestRecord keyId).Respects Abides := by
  refine Respects.bind (respects_ofState fun _ => ⟨rfl, rfl⟩) fun fault => ?_
  refine Respects.bind (respects_ofState fun env => refl_of Abides env) fun held => ?_
  exact (abides_note _).bind fun _ => respects_ofExcept _

lemma abides_storeInsert (keyId : String) (t : Time) (r : KeyRecord) :
    (storeInsert keyId t r).Respects Abides :=
  respects_ofState fun _ => ⟨rfl, rfl⟩

lemma abides_insertOutcome (keyId : String) (r : KeyRecord) (fault : Option InsertFault) :
    (insertOutcome keyId r fault).Respects Abides := by
  unfold insertOutcome
  split
  · exact (abides_storeInsert _ _ _).bind fun _ => respects_pure _
  · exact respects_pure _
  · exact respects_throw _
  · exact (abides_storeInsert _ _ _).bind fun _ => respects_pure _
  · exact respects_pure _
  · exact (abides_storeInsert _ _ _).bind fun _ => respects_pure _

lemma abides_insertRecord (keyId : String) (r : KeyRecord) :
    (insertRecord keyId r).Respects Abides := by
  refine Respects.bind (respects_ofState fun _ => ⟨rfl, rfl⟩) fun fault => ?_
  refine (abides_insertOutcome keyId r fault).bind fun outcome => ?_
  exact (abides_note _).bind fun _ => respects_ofExcept _

end Effect

namespace KeyService

open Effect

lemma abides_generateDataKey (place : Nat) (regions : List Region) :
    (generateDataKey place regions).Respects Abides := by
  induction regions generalizing place with
  | nil => exact respects_throw _
  | cons r rest ih =>
    refine Respects.bind ((abides_note _).bind fun _ => respects_pure _) fun answer => ?_
    cases answer with
    | ok dataKey => exact respects_pure _
    | error err => exact (abides_emit _).bind fun _ => ih (place + 1)

lemma abides_wrapDataKey (origin : Nat) (dataKey : DataKey) (place : Nat) (regions : List Region) :
    (wrapDataKey origin dataKey place regions).Respects Abides := by
  induction regions generalizing place with
  | nil => exact respects_pure _
  | cons r rest ih =>
    have hrest (ciphertext : Bytes) : (do
        let more ← wrapDataKey origin dataKey (place + 1) rest
        return ⟨r.name, r.arn, Base64.encodeText ciphertext⟩ :: more :
          Effect (List WrappedDataKey)).Respects Abides :=
      (ih (place + 1)).bind fun _ => respects_pure _
    unfold wrapDataKey
    split
    · exact hrest dataKey.ciphertext
    · refine Respects.bind ((abides_note _).bind fun _ => respects_pure _) fun answer => ?_
      cases answer with
      | ok ciphertext => exact hrest ciphertext
      | error err => exact (abides_emit _).bind fun _ => respects_throw _

lemma abides_wrapRegional (regions : List Region) (key : Key) :
    (wrapRegional regions key).Respects Abides := by
  unfold wrapRegional
  refine (abides_generateDataKey 0 regions).bind fun found => ?_
  dsimp only
  split
  · refine (respects_pure _).bind fun outer => (abides_sealing _).bind fun wrapped => ?_
    cases wrapped with
    | ok wrapped =>
      refine (respects_pure wrapped).bind fun _ => ?_
      exact Respects.bind (abides_wrapDataKey _ _ _ _) fun _ => respects_pure _
    | error fault => exact respects_throw _
  · exact respects_throw _

lemma abides_callWrap (service : KeyService) (key : Key) :
    (service.callWrap key).Respects Abides := by
  refine (abides_note _).bind fun _ => ?_
  refine Respects.bind (respects_ofState fun _ => ⟨rfl, rfl⟩) fun fault => ?_
  cases fault with
  | some err => exact respects_throw _
  | none =>
    cases service with
    | master outer => exact abides_sealing _
    | regional regions => exact abides_wrapRegional regions key

end KeyService

namespace Engine

/-- The environment abides and each cache is disposed just if it was. -/
structure Workspace.Abides (w w' : Workspace) : Prop where
  environment : w.environment.Abides w'.environment
  systemKeys : w'.systemKeys.held.isSome = w.systemKeys.held.isSome
  intermediateKeys : w'.intermediateKeys.held.isSome = w.intermediateKeys.held.isSome

instance : IsPreorder Workspace Workspace.Abides where
  refl w := ⟨refl_of Environment.Abides w.environment, rfl, rfl⟩
  trans _ _ _ h h' := ⟨trans_of Environment.Abides h.environment h'.environment,
    h'.systemKeys.trans h.systemKeys, h'.intermediateKeys.trans h.intermediateKeys⟩

lemma abides_retainSystemKey (e : Engine) (key : Key) :
    (e.retainSystemKey key).Respects Workspace.Abides := by
  unfold retainSystemKey
  split
  · exact respects_ofState fun w =>
      ⟨refl_of Environment.Abides w.environment, KeyCache.isSome_held_put _, rfl⟩
  · exact respects_pure _

lemma abides_retainIntermediateKey (e : Engine) (key : Key) :
    (e.retainIntermediateKey key).Respects Workspace.Abides := by
  unfold retainIntermediateKey
  split
  · exact respects_ofState fun w =>
      ⟨refl_of Environment.Abides w.environment, rfl, KeyCache.isSome_held_put _⟩
  · exact respects_pure _

/-- No step of an engine's work moves the clock or disposes a cache. -/
lemma worksWithin_abides (e : Engine) : e.WorksWithin Environment.Abides Workspace.Abides where
  lift _ _ h := ⟨h, rfl, rfl⟩
  emit := Effect.abides_emit
  loadRecord pointer := (Effect.consults_loadRecord pointer).mono fun _ _ h => h.abides
  openSystemRecord r := (e.readsWithin_consults.openSystemRecord r).mono fun _ _ h => h.abides
  retainSystemKey := e.abides_retainSystemKey
  retainIntermediateKey := e.abides_retainIntermediateKey
  latestRecord := Effect.abides_latestRecord
  insertRecord := Effect.abides_insertRecord
  sealing := Effect.abides_sealing
  callWrap := KeyService.abides_callWrap e.service

end Engine

end Envelope
