import Envelope.Proofs.Secrecy.Worlds

/-!
Nothing that can be seen of a run tells of its secrets.

Two worlds with master keys and random streams of their own are asked the same. Records that were
returned are asked for by their place, since their texts differ. What is answered, logged and called
is the same in both at every step; of ciphertexts no more is seen than their lengths.
-/

namespace Envelope

/-! ### What is seen -/

/-- What there is to see of a record: the parent, the creation time of its data key, and how long
the wrapped data key and the sealed payload are. -/
structure DataRow.Shape where
  parent : Option KeyMeta
  created : Option Stamp
  keyLength : Option Nat
  dataLength : Option Nat
deriving DecidableEq

def DataRow.shape (r : DataRow) : Shape where
  parent := r.pointer?
  created := r.key.map (·.created)
  keyLength := r.key.bind fun k => k.keyBytes.toOption.map List.length
  dataLength := r.cipherText.toOption.map List.length

/-- Everything but ciphertexts is seen of a record that was returned. -/
lemma Engine.Readable.shape_row (rd : Readable) : rd.row.shape =
    ⟨some rd.pointer, some rd.created, some rd.wrappedKey.length, some rd.cipherText.length⟩ := by
  have hkey : DataRowKey.keyBytes ⟨rd.created, Base64.encodeText rd.wrappedKey,
      some (.ofMeta rd.pointer)⟩ = .ok rd.wrappedKey := by
    unfold DataRowKey.keyBytes
    rw [Base64.decodeText_encodeText]
  have hdata : rd.row.cipherText = .ok rd.cipherText := by
    unfold row DataRow.ofParts DataRow.cipherText
    dsimp only
    rw [Base64.decodeText_encodeText]
  unfold DataRow.shape
  rw [hdata]
  exact congrArg (fun k => DataRow.Shape.mk (some rd.pointer) (some rd.created)
    (k.toOption.map List.length) (some rd.cipherText.length)) hkey

/-- The shape of the record in a text, if there is one. -/
def DataRow.shape? (text : Bytes) : Option Shape := (ofJson text).toOption.map shape

lemma World.TextsAlike.shape? {m n : Key} {text text' : Bytes} {s s' : Store}
    (h : TextsAlike m n text text' s s') : DataRow.shape? text = DataRow.shape? text' := by
  obtain ⟨rd, rd', rfl, rfl, hrows⟩ := h
  unfold DataRow.shape?
  rw [DataRow.ofJson_toJson, DataRow.ofJson_toJson]
  refine congrArg some ?_
  rw [rd.shape_row, rd'.shape_row, hrows.pointer, hrows.created, hrows.keyLength, hrows.dataLength]

/-- What is seen of an answer. -/
inductive Sight where
  | nothing
  | factory (outcome : Except Error Unit)
  | session (outcome : Option (Except Error Nat))
  | revoked (found : Bool)
  | sealed (outcome : Except Error (Option DataRow.Shape))
  | opened (outcome : Except Error Bytes)

/-- What is seen of a plain request. -/
def World.sight (w : World) : Request → Sight
  | .openFactory product service policy =>
    .factory ((w.addFactory product service policy 0).map fun _ => ())
  | .openSession factory partition => .session ((w.session factory partition).map Prod.fst)
  | .revoke keyId created => .revoked (w.revokeRecord keyId created).1
  | _ => .nothing

lemma World.sight_under (g : Guise) (w : World) (q : Request) :
    (w.under g).sight q = w.sight q := by
  cases q with
  | openFactory product service policy =>
    show Sight.factory (((w.under g).addFactory product service policy 0).map fun _ => ()) =
      Sight.factory ((w.addFactory product service policy 0).map fun _ => ())
    rw [← under_addFactory]
    cases w.addFactory product service policy 0 <;> rfl
  | openSession factory partition =>
    show Sight.session (((w.under g).session factory partition).map Prod.fst) =
      Sight.session ((w.session factory partition).map Prod.fst)
    rw [← under_session]
    cases w.session factory partition <;> rfl
  | revoke keyId created => exact congrArg Sight.revoked (g.found ..)
  | _ => rfl

/-- One step as it is seen: the answer, and the trace and the plan after it. -/
structure Observation where
  sight : Sight
  log : List Event
  calls : List Call
  faults : Faults

/-! ### Scenes -/

/-- Failures that come without records of other writers. -/
structure Failures extends Faults where
  alone : toFaults.Alone

/-- What may be asked of a scene. Records go by their place among those returned so far. -/
inductive Operation where
  | plain (q : Request) (isPlain : q.IsPlain)
  | encrypt (session : Nat) (payload : Bytes)
  | decrypt (session place : Nat)
  | plan (failures : Failures)

/-- A world and the texts that it has returned so far, the latest last. -/
structure Scene where
  world : World
  texts : List Bytes

namespace Scene

def step (s : Scene) : Operation → Sight × Scene
  | .plain q _ => (s.world.sight q, { s with world := s.world.apply q })
  | .encrypt session payload =>
    match s.world.encrypt session payload with
    | none => (.nothing, s)
    | some (.ok text, w) => (.sealed (.ok (DataRow.shape? text)), ⟨w, s.texts ++ [text]⟩)
    | some (.error err, w) => (.sealed (.error err), { s with world := w })
  | .decrypt session place =>
    match s.texts[place]?.bind (s.world.decrypt session) with
    | none => (.nothing, s)
    | some (r, w) => (.opened r, { s with world := w })
  | .plan failures => (.nothing, { s with world := { s.world with environment :=
      { s.world.environment with faults := failures.toFaults } } })

def seen (s : Scene) (sight : Sight) : Observation :=
  ⟨sight, s.world.environment.log, s.world.environment.calls, s.world.environment.faults⟩

/-- What is seen of a run, step by step. -/
def observe (s : Scene) : List Operation → List Observation
  | [] => []
  | o :: rest => (s.step o).2.seen (s.step o).1 :: (s.step o).2.observe rest

/-- The scenes are twins, and the texts returned differ in ciphertexts alone. -/
structure Twins (m n : Key) (s s' : Scene) : Prop where
  world : s.world.Twins m n s'.world
  length : s.texts.length = s'.texts.length
  texts : ∀ {k : Nat} {text text'}, s.texts[k]? = some text → s'.texts[k]? = some text' →
    World.TextsAlike m n text text' s.world.environment.store s'.world.environment.store

variable {m n : Key} {s s' : Scene}

lemma twins_start (m n : Key) (suffix : Option String) (clock : Clock) (random random' : Random) :
    Twins m n ⟨.start m suffix clock random, []⟩ ⟨.start n suffix clock random', []⟩ where
  world := ⟨rfl, World.sound_start m suffix clock random, World.sound_start n suffix clock random',
    Faults.alone_none⟩
  length := rfl
  texts h := nomatch h

/-- The same trace is seen of twins. -/
lemma Twins.seen (h : s.Twins m n s') (sight : Sight) : s.seen sight = s'.seen sight := by
  have hlog : (s.world.under .outline).environment.log =
      (s'.world.under .outline).environment.log :=
    congrArg (fun w : World => w.environment.log) h.world.outline
  have hcalls : (s.world.under .outline).environment.calls =
      (s'.world.under .outline).environment.calls :=
    congrArg (fun w : World => w.environment.calls) h.world.outline
  unfold Scene.seen
  rw [h.world.faults]
  exact congrArg₂ (fun log calls => Observation.mk sight log calls _) hlog hcalls

/-- Worlds that come after those of twins, with the same texts. -/
lemma Twins.after (h : s.Twins m n s') {u u' : World} (hu : u.Twins m n u')
    (hl : s.world.environment.store.Grows u.environment.store)
    (hr : s'.world.environment.store.Grows u'.environment.store) :
    Twins m n { s with world := u } { s' with world := u' } where
  world := hu
  length := h.length
  texts ht ht' := (h.texts ht ht').mono hl hr

/-- A text more in both scenes. -/
lemma Twins.append (h : s.Twins m n s') {text text' : Bytes} (ht : World.TextsAlike m n text text'
    s.world.environment.store s'.world.environment.store) :
    Twins m n { s with texts := s.texts ++ [text] } { s' with texts := s'.texts ++ [text'] } where
  world := h.world
  length := by rw [List.length_append, List.length_append, h.length]; rfl
  texts hk hk' := by
    rcases World.getElem?_append_one hk with hold | ⟨hlast, rfl⟩ <;>
      rcases World.getElem?_append_one hk' with hold' | ⟨hlast', rfl⟩
    · exact h.texts hold hold'
    · obtain ⟨hlt, -⟩ := List.getElem?_eq_some_iff.1 hold
      exact absurd (h.length ▸ hlt) (by omega)
    · obtain ⟨hlt, -⟩ := List.getElem?_eq_some_iff.1 hold'
      exact absurd (h.length ▸ hlt) (by omega)
    · exact ht

/-- **One step** of twins is seen alike. -/
theorem Twins.step (h : s.Twins m n s') (o : Operation) :
    (s.step o).1 = (s'.step o).1 ∧ (s.step o).2.Twins m n (s'.step o).2 := by
  cases o with
  | plain q hq =>
    obtain ⟨htwins, hl, hr⟩ := h.world.apply hq
    refine ⟨?_, h.after htwins hl hr⟩
    show s.world.sight q = s'.world.sight q
    rw [← World.sight_under .outline, h.world.outline, World.sight_under]
  | encrypt session payload =>
    unfold Scene.step
    dsimp only
    have hworks := h.world.encrypt session payload
    generalize s.world.encrypt session payload = r at hworks ⊢
    generalize s'.world.encrypt session payload = r' at hworks ⊢
    cases hworks with
    | none => exact ⟨rfl, h⟩
    | error err u u' htwins hl hr => exact ⟨rfl, h.after htwins hl hr⟩
    | ok text text' u u' htwins hl hr htexts =>
      exact ⟨congrArg (fun shape => Sight.sealed (.ok shape)) htexts.shape?,
        (h.after htwins hl hr).append htexts⟩
  | decrypt session place =>
    unfold Scene.step
    dsimp only
    -- There are as many texts in both, so the place is taken in both or in neither.
    cases ht : s.texts[place]? with
    | none =>
      rw [List.getElem?_eq_none_iff.2 (h.length ▸ List.getElem?_eq_none_iff.1 ht)]
      exact ⟨rfl, h⟩
    | some text =>
      obtain ⟨hplace, -⟩ := List.getElem?_eq_some_iff.1 ht
      have ht' := List.getElem?_eq_getElem (h.length ▸ hplace)
      rw [ht', Option.bind_some, Option.bind_some]
      have hworks := h.world.decrypt session (h.texts ht ht')
      generalize s.world.decrypt session text = r at hworks ⊢
      generalize s'.world.decrypt session _ = r' at hworks ⊢
      cases hworks with
      | none => exact ⟨rfl, h⟩
      | error err u u' htwins hl hr => exact ⟨rfl, h.after htwins hl hr⟩
      | ok x y u u' htwins hl hr hxy =>
        exact ⟨congrArg (fun x => Sight.opened (.ok x)) hxy, h.after htwins hl hr⟩
  | plan failures =>
    exact ⟨rfl, h.after (h.world.plan failures.alone) (Store.Grows.refl _) (Store.Grows.refl _)⟩

/-- **Every step of a run** of twins is seen alike. -/
theorem Twins.observe (h : s.Twins m n s') (operations : List Operation) :
    s.observe operations = s'.observe operations := by
  induction operations generalizing s s' with
  | nil => rfl
  | cons o rest ih =>
    obtain ⟨hsight, htwins⟩ := h.step o
    unfold Scene.observe
    rw [ih htwins, htwins.seen, hsight]

end Scene

/-- **Secrets are not seen.** Whatever is asked, whichever calls fail: at every step the answer, the
events logged and the calls made are the same for any two master keys and any two random streams,
and in the same order. For sessions that are driven out together it is the order that
`SessionCache.request` has chosen, by their last use, which is no secret. -/
theorem World.secrets_unseen (m n : Key) (suffix : Option String) (clock : Clock)
    (random random' : Random) (operations : List Operation) :
    Scene.observe ⟨start m suffix clock random, []⟩ operations =
      Scene.observe ⟨start n suffix clock random', []⟩ operations :=
  (Scene.twins_start m n suffix clock random random').observe operations

end Envelope
