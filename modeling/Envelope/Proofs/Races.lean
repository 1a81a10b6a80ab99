import Envelope.Proofs.FirstInsert
import Envelope.Proofs.IntermediateRaces
import Envelope.Proofs.Isolation
import Envelope.Proofs.Transparency

/-!
Lost races converge on the stored key.

While a session seals a payload, other writers may put records of theirs in the places of the keys
it creates, and its own records may be reported as lost although they are there. Which keys it has
cached by then does not matter. Whatever insert is lost, it goes on with a key of the store, so that
what it seals opens for everybody.
-/

namespace Envelope

open Envelope.Action

namespace Engine

variable {e : Engine} {m : Key} {rivals : List (Option Rival)} {w v : Workspace} {k : Key}
  {made : List Insertion}

/-- Rivals that come or go change nothing of what a write has done. -/
lemma WritesRaced.of_faults {faults faults' : Faults}
    (h : e.WritesRaced m rivals
      { w with environment := { w.environment with faults } } k v made) :
    e.WritesRaced m rivals w k
      { v with environment := { v.environment with faults := faults' } } made where
  raced :=
    { progress := ⟨⟨h.raced.progress.sound, h.raced.progress.store, h.raced.progress.systemKeys,
        h.raced.progress.intermediateKeys⟩, h.raced.progress.clock⟩
      lost := h.raced.lost
      stored := h.raced.stored }
  key := h.key

end Engine

/-- A turn, or a payload that is sealed while rivals wait for the inserts. -/
inductive Episode where
  | turn (t : Turn)
  | race (session : Nat) (payload : Bytes) (rivals : List (Option Rival))

namespace World

/-- A session seals a payload while rivals wait for the inserts. Those that are not met are gone
afterwards. -/
def contest (w : World) (n : Nat) (payload : Bytes) (rivals : List (Option Rival)) :
    Option (Except Error Bytes × World) :=
  ((w.take (.plan (.rivals rivals))).encrypt n payload).map fun x => (x.1, x.2.take (.plan .none))

/-- The world after an episode. -/
def meet (w : World) : Episode → World
  | .turn t => w.take t
  | .race n payload rivals => ((w.contest n payload rivals).map Prod.snd).getD w

/-- The world after episodes of any kind. -/
def live (w : World) (episodes : List Episode) : World := episodes.foldl meet w

end World

/-- A fair turn, or a race against rivals that were fair where they were met. -/
def Episode.IsFair (m : Key) (w : World) : Episode → Prop
  | .turn t => t.IsFair m w
  | .race n payload rivals => ∀ made,
      (w.meet (.race n payload rivals)).environment.insertions =
        w.environment.insertions ++ made →
      FairRace m (w.meet (.race n payload rivals)).environment.store made rivals

/-- Every episode is fair when it comes. -/
def FairEpisodes (m : Key) : World → List Episode → Prop
  | _, [] => True
  | w, x :: rest => x.IsFair m w ∧ FairEpisodes m (w.meet x) rest

namespace World

variable {m : Key} {w w' : World} {rivals : List (Option Rival)} {made : List Insertion}

/-! ### One race -/

/-- What sealing a payload among fair rivals comes to. -/
inductive Raced (m : Key) (w : World) (s : EngineState) (c : KeyCache)
    (rivals : List (Option Rival)) (payload : Bytes) (made : List Insertion) :
    Except Error Bytes → Engine.Workspace → Prop where
  | record (text : Bytes) (k : Key) (v : Engine.Workspace)
      (writes : (s.engine m).WritesRaced m rivals (w.workspace s c) k v made)
      (seals : ∀ p : Partition, p.Accepts s.partition.intermediateKeyId →
        v.environment.store.Seals m p ⟨s.partition.intermediateKeyId, k.created⟩ text payload) :
      Raced m w s c rivals payload made (.ok text) v
  | tooLong (k : Key) (v : Engine.Workspace) (long : Cipher.Siv.maxLength < payload.length)
      (writes : (s.engine m).WritesRaced m rivals (w.workspace s c) k v made) :
      Raced m w s c rivals payload made (.error (.ofCipher .aeadFailure)) v

lemma Raced.writes {s : EngineState} {c : KeyCache} {payload : Bytes} {r : Except Error Bytes}
    {v : Engine.Workspace} (h : Raced m w s c rivals payload made r v) :
    ∃ k, (s.engine m).WritesRaced m rivals (w.workspace s c) k v made := by
  cases h with
  | record text k v writes => exact ⟨k, writes⟩
  | tooLong k v long writes => exact ⟨k, writes⟩

/-- The workspace of an engine that goes into a race. -/
lemma Sound.grounded_rivals (h : w.Sound m) {n : Nat} {s : EngineState} {f : Factory} {c : KeyCache}
    (hs : Seat m w n s f c) (rivals : List (Option Rival)) :
    (s.engine m).Grounded m ((w.take (.plan (.rivals rivals))).workspace s c) where
  service := rfl
  faults := Faults.truthful_rivals rivals
  dated := h.store.dated
  systemKeys := hs.sound.systemKeys
  intermediateKeys := hs.sound.intermediateKeys
  store := h.store

/-- A race, as the outcome of sealing on the workspace of the engine. -/
lemma Sound.contest_eq (h : w.Sound m) {n : Nat} {s : EngineState} {f : Factory} {c : KeyCache}
    (hs : Seat m w n s f c) (payload : Bytes) (rivals : List (Option Rival)) :
    let outcome := (do return (← (s.engine m).encrypt payload).toJson : Engine.Work Bytes).outcome
      ((w.take (.plan (.rivals rivals))).workspace s c)
    w.contest n payload rivals = some (outcome.1, w.settle n s { outcome.2 with
      environment := { outcome.2.environment with faults := .none } }) := by
  intro outcome
  have hb : Bench m (w.take (.plan (.rivals rivals))) n s c :=
    ⟨hs.engine, (h.bench hs).service, hs.systemKeys⟩
  unfold World.contest World.encrypt
  rw [hb.work_eq]
  rfl

/-- **An engine of a sound world seals** a payload among rivals. -/
theorem Sound.contest (h : w.Sound m) {n : Nat} {s : EngineState} {f : Factory} {c : KeyCache}
    (hs : Seat m w n s f c) (payload : Bytes) (rivals : List (Option Rival)) :
    ∃ r v made, w.contest n payload rivals = some (r, w.settle n s v) ∧
      v.environment.faults = .none ∧
      v.environment.insertions = w.environment.insertions ++ made ∧
      (FairRace m v.environment.store made rivals →
        Raced m w s c rivals payload made r v) := by
  let w₀ := (w.take (.plan (.rivals rivals))).workspace s c
  let after (v : Engine.Workspace) : Engine.Workspace :=
    { v with environment := { v.environment with faults := .none } }
  have hy : (do return (← (s.engine m).encrypt payload).toJson : Engine.Work Bytes).Yields w₀
      (fun text v => Contested m rivals (fun _ => True) w₀.environment v.environment
        fun made => Raced m w s c rivals payload made (.ok text) (after v))
      (fun err v => Contested m rivals (fun _ => True) w₀.environment v.environment
        fun made => Raced m w s c rivals payload made (.error err) (after v)) := by
    refine Yields.bind (Engine.contests_encrypt (h.grounded_rivals hs rivals) rfl payload)
      (fun row v hr => ?_) fun err v he => ?_
    · refine hr.mono (fun _ => id) fun made hmade => ?_
      obtain ⟨k, hwrites, hseals⟩ := hmade
      exact .record row.toJson k (after v) hwrites.of_faults hseals
    · refine he.mono (fun _ => id) fun made hmade => ?_
      obtain ⟨⟨rfl, hlong⟩, k, hwrites⟩ := hmade
      exact .tooLong k (after v) hlong hwrites.of_faults
  obtain ⟨made, hmade, -, hfair⟩ := hy.outcome (P := fun r v => Contested m rivals (fun _ => True)
    w₀.environment v.environment fun made => Raced m w s c rivals payload made r (after v))
  exact ⟨_, after _, made, h.contest_eq hs payload rivals, rfl, hmade, fun hrace => (hfair hrace).2⟩

/-- **Without records of the partition**, a session creates a system key first. -/
theorem Sound.contest_begins (h : w.Sound m) {n : Nat} {s : EngineState}
    (hs : w.engines[n]? = some s)
    (hsystem : ∀ t, w.environment.store.load? s.partition.systemKeyId t = none)
    (hintermediate : ∀ t, w.environment.store.load? s.partition.intermediateKeyId t = none)
    {payload : Bytes} {r : Except Error Bytes}
    (hr : w.contest n payload rivals = some (r, w')) :
    w.environment.Begins w'.environment s.partition.systemKeyId
      (s.policy.systemStamp w.environment.clock.wall) := by
  obtain ⟨f, c, hseat⟩ := h.seat hs
  have hbegins : Begins (·.environment)
      (do return (← (s.engine m).encrypt payload).toJson : Engine.Work Bytes)
      ((w.take (.plan (.rivals rivals))).workspace s c) s.partition.systemKeyId
      (s.policy.systemStamp w.environment.clock.wall) :=
    (Engine.begins_encrypt (h.grounded_rivals hseat rivals) rfl hsystem hintermediate payload).bind
      (p := s.partition) (X := fun _ => True) fun _ => Reach.bounds_pure trivial
  have hout := Yields.outcome (P := fun (_ : Except Error Bytes) (v : Engine.Workspace) =>
    w.environment.Begins v.environment s.partition.systemKeyId
      (s.policy.systemStamp w.environment.clock.wall)) hbegins
  rw [h.contest_eq hseat] at hr
  cases hr
  exact hout

lemma contest_of_no_engine {n : Nat} (hn : w.engines[n]? = none) (payload : Bytes)
    (rivals : List (Option Rival)) : w.contest n payload rivals = none := by
  have hn₀ : (w.take (.plan (.rivals rivals))).engines[n]? = none := hn
  rw [World.contest, World.encrypt, work_of_no_engine hn₀]
  rfl

lemma meet_race {n : Nat} {payload : Bytes} {r : Except Error Bytes}
    (h : w.contest n payload rivals = some (r, w')) : w.meet (.race n payload rivals) = w' := by
  simp [meet, h]

/-- A race against fair rivals keeps a world sound. -/
lemma Sound.settle_raced (h : w.Sound m) {n : Nat} {s : EngineState} {f : Factory} {c : KeyCache}
    (hs : Seat m w n s f c) {payload : Bytes} {r : Except Error Bytes} {v : Engine.Workspace}
    (hv : Raced m w s c rivals payload made r v) (hf : v.environment.faults = .none) :
    (w.settle n s v).Sound m := by
  obtain ⟨k, hwrites⟩ := hv.writes
  exact h.settle_advances hs hwrites.raced.progress.toAdvances (hf ▸ Faults.failing_none)

/-! ### Whole lives -/

/-- **One fair episode** keeps a world sound. -/
lemma Sound.meet (h : w.Sound m) {x : Episode} (hx : x.IsFair m w) : (w.meet x).Sound m := by
  cases x with
  | turn t => exact h.take hx
  | race n payload rivals =>
    cases hn : w.engines[n]? with
    | none =>
      rw [World.meet, contest_of_no_engine hn]
      exact h
    | some s =>
      obtain ⟨f, c, hs⟩ := h.seat hn
      obtain ⟨r, v, made, hr, hf, hmade, hraced⟩ := h.contest hs payload rivals
      simp only [Episode.IsFair, meet_race hr] at hx ⊢
      exact h.settle_raced hs (hraced (hx made hmade)) hf

/-- **Fair episodes** keep a world sound, whatever they are and in whatever order. -/
theorem Sound.live (h : w.Sound m) {episodes : List Episode} (hfair : FairEpisodes m w episodes) :
    (w.live episodes).Sound m := by
  induction episodes generalizing w with
  | nil => exact h
  | cons x rest ih => exact ih (h.meet hfair.1) hfair.2

/-! ### Convergence -/

/-- An engine that has just been made opens what the store says, if no failure is planned. -/
lemma Sound.opens_afresh (h : w.Sound m) (hf : w.environment.faults = .none) (p : Partition)
    (policy : Policy) (text : Bytes) :
    ((w.addReader p policy 0).decrypt w.engines.length text).map Prod.fst =
      some (w.environment.store.openRow m p text) := by
  have hservice : w.keyServices[0]? = some (.master m) := by
    rw [h.keyServices]
    rfl
  have hcoherent := Engine.coherent_empty (e := ⟨p, policy, .master m⟩) rfl h.faults.truthful
    h.store.dated policy.revokeCheck policy.revokeCheck
  rw [World.decrypt, work_addReader hservice]
  exact congrArg some (hcoherent.outcome_decrypt hf text)

/-- The second world is the first after a session of the partition has sealed a payload among
rivals, and every key it has used is one of the store. -/
structure Converges (m : Key) (w : World) (p : Partition) (rivals : List (Option Rival))
    (payload : Bytes) (made : List Insertion) (r : Except Error Bytes) (w' : World) : Prop where
  /-- The payload is sealed under the intermediate key that the record names, the latest if an
  insert of one was lost, and an engine with empty caches opens it. -/
  answer : (∃ text created, r = .ok text ∧
      w'.environment.store.Seals m p ⟨p.intermediateKeyId, created⟩ text payload ∧
      (∀ policy, ((w'.addReader p policy 0).decrypt w'.engines.length text).map Prod.fst =
        some (.ok payload)) ∧
      (Lost made p.intermediateKeyId →
        ∃ latest, w'.environment.store.latest? p.intermediateKeyId = some latest ∧
          created = latest.created)) ∨
    Cipher.Siv.maxLength < payload.length ∧ r = .error (.ofCipher .aeadFailure)
  /-- An intermediate record that is new and not of a rival met is wrapped under a system key of the
  store, the latest if an insert of one was lost. -/
  stored : ∀ t record, w'.environment.store.load? p.intermediateKeyId t = some record →
    w.environment.store.load? p.intermediateKeyId t = some record ∨
      Met made rivals record ∨ w'.environment.store.Wraps m p made record
  /-- No session has cached a key that is not in the store. -/
  caches : ∀ n q, w'.Session n q → CachesOwn m w' n q

/-- **Lost races converge on the stored key**: after any turns and races, a session seals a payload
while its inserts are lost to other writers or are reported as lost. -/
theorem lost_races_converge (m : Key) (suffix : Option String) (clock : Clock) (random : Random)
    {episodes : List Episode} (hfair : FairEpisodes m (start m suffix clock random) episodes) :
    let w := (start m suffix clock random).live episodes
    ∀ n p payload rivals, w.Session n p →
      ∃ r w' made, w.contest n payload rivals = some (r, w') ∧
        w'.environment.insertions = w.environment.insertions ++ made ∧
        (FairRace m w'.environment.store made rivals →
          Converges m w p rivals payload made r w') := by
  intro w n p payload rivals hn
  have hw : w.Sound m := (sound_start m suffix clock random).live hfair
  obtain ⟨s, hs, rfl⟩ := hn
  obtain ⟨f, c, hseat⟩ := hw.seat hs
  obtain ⟨r, v, made, hr, hf, hmade, hraced⟩ := hw.contest hseat payload rivals
  refine ⟨r, _, made, hr, hmade, fun hrace => ?_⟩
  have hraced := hraced hrace
  have hw' := hw.settle_raced hseat hraced hf
  obtain ⟨k, hwrites⟩ := hraced.writes
  refine ⟨?_, fun t record hl => hwrites.raced.stored hl, fun n' q hq => hw'.cachesOwn hq⟩
  cases hraced with
  | record text k v writes seals =>
    have hseals := seals s.partition s.partition.accepts_intermediateKeyId
    refine Or.inl ⟨text, k.created, rfl, hseals, fun policy => ?_, writes.raced.lost⟩
    rw [hw'.opens_afresh hf]
    exact congrArg some hseals.opens
  | tooLong k v long writes => exact Or.inr ⟨long, rfl⟩

/-- The first payload of a session is sealed while another writer puts a system key in the place of
the new one, and the record of the new intermediate key is reported as lost although it is there. An
engine without caches opens it. -/
theorem lost_first_race_converges :
    let episodes := (opening "product" "service" "partition" (.expiring 90)).map
      (Episode.turn ∘ Turn.request)
    let w := (start .zeros none .epoch (.ofSeed 0)).live episodes
    ∃ other text w', other.created = (Policy.expiring 90).systemStamp Clock.epoch.wall ∧
      w.environment.store.Admits .zeros Partition.given.systemKeyId other ∧
      w.contest 0 [104, 105] [some (.record other), some .itself] = some (.ok text, w') ∧
      ((w'.addReader .given (Policy.expiring 90).uncached 0).decrypt w'.engines.length text).map
        Prod.fst = some (.ok [104, 105]) := by
  intro episodes w
  have hfair : FairEpisodes .zeros (start .zeros none .epoch (.ofSeed 0)) episodes :=
    ⟨trivial, trivial, trivial⟩
  have hw : w.Sound .zeros := (sound_start .zeros none .epoch (.ofSeed 0)).live hfair
  have hengines : w.engines =
      [⟨.given, .expiring 90, 0, 0, .empty (Policy.expiring 90).revokeCheck⟩] := rfl
  have hengine : w.engines[0]? =
      some ⟨.given, .expiring 90, 0, 0, .empty (Policy.expiring 90).revokeCheck⟩ := by
    rw [hengines]
    rfl
  obtain ⟨other, hcreated, hother⟩ := w.environment.store.exists_admits_system .zeros
    Partition.given.isSystemId_systemKeyId .zeros
    ((Policy.expiring 90).systemStamp Clock.epoch.wall)
  obtain ⟨r, w', made, hr, hmade, hconverges⟩ := lost_races_converge .zeros none .epoch (.ofSeed 0)
    hfair 0 .given [104, 105] [some (.record other), some .itself] ⟨_, hengine, rfl⟩
  -- the first insert is one of a system key, so the other record is fair
  obtain ⟨won, rest, hbegins⟩ := hw.contest_begins hengine (fun _ => rfl) (fun _ => rfl) hr
  obtain rfl := List.append_cancel_left (hmade.symm.trans hbegins)
  have hmeets : ∀ created, Insertion.Meets ⟨Partition.given.systemKeyId, created, won⟩ .zeros
      w'.environment.store (some (.record other)) :=
    fun _ => hother.of_isSystemId Partition.given.isSystemId_systemKeyId
  have hconverged := hconverges (fairRace_cons.2 ⟨hmeets _, fairRace_of_itself (by simp)⟩)
  rcases hconverged.answer with ⟨text, created, rfl, -, hopens, -⟩ | ⟨hlong, -⟩
  · exact ⟨other, text, w', hcreated, hother, hr, hopens _⟩
  · exact absurd hlong (by decide)

end World

end Envelope
