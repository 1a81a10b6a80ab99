import Envelope.Proofs.Reach
import Envelope.Proofs.Turns

/-!
Inserts that meet rivals.

An insert may find that another writer has just put a record at its place, or hear that it has lost
although its own record is there. Which insert meets which rival depends on how many inserts a
computation makes, so a computation is described by the inserts it has made: if all the rivals they
met were fair, it has come to this or that. After an unfair rival nothing is known but that the
trace goes on.
-/

namespace Envelope

open Envelope.Action

/-! ### Rivals -/

/-- What an insert may lose against. -/
inductive Rival where
  /-- Nothing: the record is stored, and the insert is reported as lost. -/
  | itself
  /-- The record of another writer, put in its place just before. -/
  | record (r : KeyRecord)

def Rival.fault : Rival → InsertFault
  | .itself => .conflict
  | .record r => .winner r

/-- The plan by which every insert meets the next of the rivals, if there is one. -/
def Faults.rivals (l : List (Option Rival)) : Faults :=
  { Faults.none with insert := l.map (·.map Rival.fault) }

/-- The record of the rival that an insert met opens under the id. It need not be of the same
time. -/
def Insertion.Meets (x : Insertion) (m : Key) (s : Store) : Option Rival → Prop
  | some (.record r) => s.Admits m x.keyId r
  | _ => True

/-- The rivals that inserts met one after the other were fair, given the store in the end. -/
def FairRace (m : Key) (s : Store) (made : List Insertion) (rivals : List (Option Rival)) : Prop :=
  ∀ y ∈ made.zip rivals, y.1.Meets m s y.2

/-- An insert under the id was lost. -/
def Lost (made : List Insertion) (id : String) : Prop :=
  ∃ x ∈ made, x.keyId = id ∧ x.won = false

lemma not_lost_nil (id : String) : ¬ Lost [] id := by
  rintro ⟨x, hx, -⟩
  cases hx

/-- An insert met the rival with the record. -/
def Met (made : List Insertion) (rivals : List (Option Rival)) (r : KeyRecord) : Prop :=
  ∃ x, (x, some (.record r)) ∈ made.zip rivals

variable {m : Key} {rivals : List (Option Rival)} {e e' e'' : Environment} {s s' : Store}

lemma Faults.truthful_rivals (l : List (Option Rival)) : (Faults.rivals l).Truthful where
  latest _ h := by cases h
  load _ h := by cases h

lemma Faults.not_plans_rivals (l : List (Option Rival)) (err : Error) :
    ¬ (Faults.rivals l).Plans err := by
  have hinsert : ∀ f, some f ∈ (Faults.rivals l).insert → ∃ x : Rival, f = x.fault := by
    intro f hf
    obtain ⟨x, -, hx⟩ := List.mem_map.1 hf
    obtain ⟨y, -, rfl⟩ := Option.map_eq_some_iff.1 hx
    exact ⟨y, rfl⟩
  rintro (h | h | (h | h) | h | h)
  · cases h
  · cases h
  · obtain ⟨_ | _, hx⟩ := hinsert _ h <;> cases hx
  · obtain ⟨_ | _, hx⟩ := hinsert _ h <;> cases hx
  · cases h
  · cases h

lemma zip_append_left {α β : Type} (a b : List α) (l : List β) :
    (a ++ b).zip l = a.zip l ++ b.zip (l.drop a.length) := by
  induction a generalizing l with
  | nil => rfl
  | cons x rest ih =>
    cases l with
    | nil => simp
    | cons y l => simp [ih]

lemma Met.append {made made' : List Insertion} {r : KeyRecord}
    (h : Met made' (rivals.drop made.length) r) : Met (made ++ made') rivals r := by
  obtain ⟨x, hx⟩ := h
  refine ⟨x, ?_⟩
  rw [zip_append_left]
  exact List.mem_append_right _ hx

lemma fairRace_append {made made' : List Insertion} : FairRace m s (made ++ made') rivals ↔
    FairRace m s made rivals ∧ FairRace m s made' (rivals.drop made.length) := by
  unfold FairRace
  rw [zip_append_left]
  simp only [List.mem_append, or_imp, forall_and]

lemma fairRace_cons {x : Insertion} {made : List Insertion} {y : Option Rival} :
    FairRace m s (x :: made) (y :: rivals) ↔ x.Meets m s y ∧ FairRace m s made rivals :=
  List.forall_mem_cons

/-- Nobody is unfair where records are at most reported as lost. -/
lemma fairRace_of_itself {made : List Insertion}
    (h : ∀ x ∈ rivals, x = none ∨ x = some .itself) : FairRace m s made rivals := by
  rintro ⟨x, y⟩ hy
  obtain rfl | rfl := h y (List.of_mem_zip hy).2 <;> trivial

/-- Whether a system record opens has nothing to do with the store. -/
lemma Store.Admits.of_isSystemId {id : String} {r : KeyRecord} (h : s.Admits m id r)
    (hid : IsSystemId id) : s'.Admits m id r := by
  cases h with
  | system k isSystem parent opens => exact .system k isSystem parent opens
  | intermediate p outer k isIntermediate => exact absurd hid isIntermediate.not_isSystemId

lemma FairRace.of_isSystemId {made : List Insertion} (hmade : ∀ x ∈ made, IsSystemId x.keyId)
    (h : FairRace m s made rivals) : FairRace m s' made rivals := by
  intro y hy
  have hmeets := h y hy
  have hid := hmade y.1 (List.of_mem_zip hy).1
  obtain ⟨x, _ | _ | r⟩ := y
  · trivial
  · trivial
  · exact Store.Admits.of_isSystemId hmeets hid

/-- A record that opens beside itself opens without. -/
lemma Store.Admits.of_insert {id : String} {t : Time} {r : KeyRecord}
    (h : (s.insert id t r).2.Admits m id r) : s.Admits m id r := by
  cases h with
  | system k isSystem parent opens => exact .system k isSystem parent opens
  | intermediate p outer k isIntermediate parent isSystem found opens =>
    refine .intermediate p outer k isIntermediate parent isSystem ?_ opens
    obtain ⟨r', hl, hopen⟩ := Store.systemKey_eq_ok found
    rw [Store.load?_insert_of_ne r fun hid => isSystem.ne isIntermediate hid.1] at hl
    exact (Store.systemKey_of_load? hl).trans hopen

/-! ### What becomes of a computation -/

/-- The second environment comes after inserts under ids of one kind. If the rivals they met were
fair, these are used up, and `P` holds of the inserts. -/
def Contested (m : Key) (rivals : List (Option Rival)) (kind : String → Prop)
    (e e' : Environment) (P : List Insertion → Prop) : Prop :=
  ∃ made, e'.insertions = e.insertions ++ made ∧ (∀ x ∈ made, kind x.keyId) ∧
    (FairRace m e'.store made rivals →
      e'.faults = .rivals (rivals.drop made.length) ∧ P made)

/-- Run from `s`, the computation returns with `Q` or fails with `E`, if the rivals that its inserts
meet are fair. -/
def Contests (m : Key) (rivals : List (Option Rival)) (kind : String → Prop) {σ α : Type}
    (part : σ → Environment) (a : Action σ Error α) (s : σ) (Q : α → σ → List Insertion → Prop)
    (E : Error → σ → List Insertion → Prop) : Prop :=
  a.Yields s (fun x t => Contested m rivals kind (part s) (part t) (Q x t))
    fun err t => Contested m rivals kind (part s) (part t) (E err t)

/-- No insert is made: a bound for what only reads. -/
def Reach.reading (p : Partition) : Reach := ⟨p, fun _ => True, True⟩

/-- Any insert may be made. -/
def Reach.writing (p : Partition) : Reach := ⟨p, fun _ => True, False⟩

lemma closed_reading (p : Partition) (e : Environment) : (Reach.reading p).Closed e :=
  ⟨fun _ _ _ => trivial, fun _ _ => trivial⟩

lemma closed_writing (p : Partition) (e : Environment) : (Reach.writing p).Closed e :=
  ⟨fun _ _ _ => trivial, fun _ _ => trivial⟩

variable {kind : String → Prop} {σ α β : Type} {part : σ → Environment} {p : Partition} {t : σ}
  {Q : α → σ → Prop} {E : Error → σ → Prop} {G : α → σ → List Insertion → Prop}
  {B : Error → σ → List Insertion → Prop}

/-- What only reads makes no insert, beside all else that is known of it. -/
lemma Reach.Bounds.still {a : Action σ Error α} {X : α → Prop}
    (hb : (Reach.reading p).Bounds part a X) (h : a.Yields t Q E) :
    a.Yields t (fun x u => Q x u ∧ (part t).Still (part u))
      fun err u => E err u ∧ (part t).Still (part u) :=
  (h.and (hb t (closed_reading p _))).mono (fun _ _ h => ⟨h.1, h.2.2.still trivial⟩)
    fun _ _ h => ⟨h.1, h.2.still trivial⟩

/-- What only reads leaves the rivals for those who come after. -/
lemma Environment.Keeps.faults_eq (h : e.Keeps e') (hstill : e.Still e')
    (hf : e.faults = .rivals rivals) : e'.faults = .rivals rivals := by
  obtain ⟨hlatest, hload, -, hwrap, hunwrap⟩ := h.faults
  have hinsert := hstill.insert
  rw [hf] at hlatest hload hwrap hunwrap hinsert
  cases hf' : e'.faults
  simp only [hf', Faults.rivals, Faults.none, List.suffix_nil]
    at hlatest hload hwrap hunwrap hinsert
  simp only [hlatest, hload, hwrap, hunwrap, hinsert, Faults.rivals, Faults.none]

lemma contested_of_still {P : List Insertion → Prop} (h : e.Still e')
    (hf : e'.faults = .rivals rivals) (hP : P []) : Contested m rivals kind e e' P :=
  ⟨[], by rw [h.insertions, List.append_nil], by simp, fun _ => ⟨hf, hP⟩⟩

lemma Contested.of_still {P : List Insertion → Prop} (h : e.Still e')
    (h' : Contested m rivals kind e' e'' P) : Contested m rivals kind e e'' P := by
  obtain ⟨made, hmade, hrest⟩ := h'
  exact ⟨made, by rw [hmade, h.insertions], hrest⟩

lemma Contested.mono {kind' : String → Prop} {P P' : List Insertion → Prop}
    (h : Contested m rivals kind e e' P) (hkind : ∀ id, kind id → kind' id)
    (hP : ∀ made, P made → P' made) : Contested m rivals kind' e e' P' := by
  obtain ⟨made, hmade, hids, hrest⟩ := h
  exact ⟨made, hmade, fun x hx => hkind _ (hids x hx),
    fun hfair => (hrest hfair).imp_right (hP made)⟩

lemma Contests.mono {a : Action σ Error α} {kind' : String → Prop}
    {G' : α → σ → List Insertion → Prop} {B' : Error → σ → List Insertion → Prop}
    (h : Contests m rivals kind part a t G B) (hkind : ∀ id, kind id → kind' id)
    (hG : ∀ x u made, G x u made → G' x u made) (hB : ∀ err u made, B err u made → B' err u made) :
    Contests m rivals kind' part a t G' B' :=
  Yields.mono h (fun x u h => h.mono hkind (hG x u)) fun err u h => h.mono hkind (hB err u)

/-! ### Composition -/

lemma contests_pure {x : α} (hf : (part t).faults = .rivals rivals) (h : G x t []) :
    Contests m rivals kind part (pure x) t G B :=
  contested_of_still (.refl _) hf h

/-- Run from `t`, the computation only reads, does not fail and comes to `A`. -/
def Observes (part : σ → Environment) (a : Action σ Error β) (t : σ) (A : β → σ → Prop) : Prop :=
  a.Yields t (fun x u => A x u ∧ (part t).Keeps (part u) ∧ (part t).Still (part u))
    fun _ _ => False

section Observes

variable {a : Action σ Error β} {f : β → Action σ Error α} {A : β → σ → Prop}

lemma observes_of_bounds {X : β → Prop} (hb : ∀ p, (Reach.reading p).Bounds part a X)
    (h : a.Yields t A E) (hkeeps : ∀ x u, A x u → (part t).Keeps (part u))
    (hE : ∀ err u, ¬ E err u) : Observes part a t A :=
  -- every id is within reach, whatever the partition
  ((hb (.ofIds "" "" "" none)).still h).mono (fun x u hu => ⟨hu.1, hkeeps x u hu.1, hu.2⟩)
    fun err u hu => hE err u hu.1

/-- What happens in the environment of an engine. -/
lemma Observes.lift {a : Effect β} {w : Engine.Workspace} {A : β → Environment → Prop}
    (ha : Observes id a w.environment A) :
    Observes (·.environment) (liftM a : Engine.Work β) w
      fun x u => A x u.environment ∧ u = { w with environment := u.environment } :=
  Engine.yields_lift.2 (Yields.mono ha (fun _ _ h => ⟨⟨h.1, rfl⟩, h.2⟩) fun _ _ h => h)

/-- What comes after finds the rivals waiting. -/
lemma Observes.bind {F : Error → σ → Prop} (ha : Observes part a t A)
    (hf : (part t).faults = .rivals rivals)
    (hnext : ∀ x u, A x u → (part t).Still (part u) → (part u).faults = .rivals rivals →
      (f x).Yields u Q F) : (a >>= f).Yields t Q F :=
  Yields.bind ha (fun x u hu => hnext x u hu.1 hu.2.2 (hu.2.1.faults_eq hu.2.2 hf))
    fun _ _ h => h.elim

lemma Observes.lift_bind {a : Effect β} {f : β → Engine.Work α} {w : Engine.Workspace}
    {A : β → Environment → Prop} {G : α → Engine.Workspace → Prop}
    {F : Error → Engine.Workspace → Prop} (ha : Observes id a w.environment A)
    (hf : w.environment.faults = .rivals rivals)
    (hnext : ∀ x env, A x env → w.environment.Still env → env.faults = .rivals rivals →
      (f x).Yields { w with environment := env } G F) : (liftM a >>= f).Yields w G F := by
  refine ha.lift.bind hf fun x u hu hstill hfu => ?_
  rw [hu.2]
  exact hnext x _ hu.1 hstill hfu

/-- What only reads meets no rival. -/
lemma Observes.contests {G : β → σ → List Insertion → Prop}
    {B : Error → σ → List Insertion → Prop} (ha : Observes part a t A)
    (hf : (part t).faults = .rivals rivals) (hG : ∀ x u, A x u → G x u []) :
    Contests m rivals kind part a t G B :=
  Yields.mono ha (fun x u hu => contested_of_still hu.2.2 (hu.2.1.faults_eq hu.2.2 hf)
    (hG x u hu.1)) fun _ _ h => h.elim

/-- What comes after meets all the rivals. -/
lemma Observes.contests_bind (ha : Observes part a t A) (hf : (part t).faults = .rivals rivals)
    (hnext : ∀ x u, A x u → (part u).faults = .rivals rivals →
      Contests m rivals kind part (f x) u G B) :
    Contests m rivals kind part (a >>= f) t G B :=
  ha.bind hf fun x u hx hstill hfu => Yields.mono (hnext x u hx hfu)
    (fun _ _ h => h.of_still hstill) fun _ _ h => h.of_still hstill

lemma Observes.contests_lift_bind {a : Effect β} {f : β → Engine.Work α} {w : Engine.Workspace}
    {A : β → Environment → Prop} {G : α → Engine.Workspace → List Insertion → Prop}
    {B : Error → Engine.Workspace → List Insertion → Prop} (ha : Observes id a w.environment A)
    (hf : w.environment.faults = .rivals rivals)
    (hnext : ∀ x env, A x env → env.faults = .rivals rivals →
      Contests m rivals kind (·.environment) (f x) { w with environment := env } G B) :
    Contests m rivals kind (·.environment) (liftM a >>= f) w G B :=
  ha.lift_bind hf fun x env hx hstill hfu => Yields.mono (hnext x env hx hfu)
    (fun _ _ h => h.of_still hstill) fun _ _ h => h.of_still hstill

end Observes

/-- What only reads may come after inserts. -/
lemma Contests.bind_reading {a : Action σ Error β} {f : β → Action σ Error α}
    {A : β → σ → List Insertion → Prop} {X : α → Prop}
    (h : Contests m rivals kind part a t A B)
    (hb : ∀ x, (Reach.reading p).Bounds part (f x) X)
    (hnext : ∀ x u made, A x u made → (part u).faults = .rivals (rivals.drop made.length) →
      (f x).Yields u (fun y v => (part u).Keeps (part v) ∧ G y v made) fun err v =>
        (part u).Keeps (part v) ∧ B err v made) :
    Contests m rivals kind part (a >>= f) t G B := by
  refine Yields.bind h (fun x u hu => ?_) fun _ _ hu => hu
  obtain ⟨made, hmade, hids, hrest⟩ := hu
  -- the store is what it was, so the rivals are as fair as they were
  have hstill := hb x u (closed_reading p _)
  by_cases hfair : FairRace m (part u).store made rivals
  · obtain ⟨hf, hA⟩ := hrest hfair
    refine ((hb x).still (hnext x u made hA hf)).mono (fun y v hv => ?_) fun err v hv => ?_
    · exact ⟨made, by rw [hv.2.insertions, hmade], hids,
        fun _ => ⟨hv.1.1.faults_eq hv.2 hf, hv.1.2⟩⟩
    · exact ⟨made, by rw [hv.2.insertions, hmade], hids,
        fun _ => ⟨hv.1.1.faults_eq hv.2 hf, hv.1.2⟩⟩
  · have unfair : ∀ v P, (part u).Still (part v) →
        Contested m rivals kind (part t) (part v) P := fun v P hv =>
      ⟨made, by rw [hv.insertions, hmade], hids, fun h => absurd (hv.store ▸ h) hfair⟩
    exact hstill.mono (fun y v hv => unfair v _ (hv.2.still trivial))
      fun err v hv => unfair v _ (hv.still trivial)

/-- What makes inserts may come after inserts of system records. -/
lemma Contests.bind {a : Action σ Error β} {f : β → Action σ Error α}
    {A : β → σ → List Insertion → Prop} {X : α → Prop}
    (h : Contests m rivals IsSystemId part a t A fun _ _ _ => False)
    (hb : ∀ x, (Reach.writing p).Bounds part (f x) X)
    (hnext : ∀ x u made, A x u made → (part u).faults = .rivals (rivals.drop made.length) →
      Contests m (rivals.drop made.length) (fun _ => True) part (f x) u
        (fun y v made' => G y v (made ++ made')) fun err v made' => B err v (made ++ made')) :
    Contests m rivals (fun _ => True) part (a >>= f) t G B := by
  refine Yields.bind h (fun x u hu => ?_) fun err u hu => ?_
  · obtain ⟨made, hmade, hids, hrest⟩ := hu
    by_cases hfair : FairRace m (part u).store made rivals
    · obtain ⟨hf, hA⟩ := hrest hfair
      have after : ∀ v P, Contested m (rivals.drop made.length) (fun _ => True) (part u) (part v)
          (fun made' => P (made ++ made')) →
            Contested m rivals (fun _ => True) (part t) (part v) P := by
        rintro v P ⟨made', hmade', -, hrest'⟩
        refine ⟨made ++ made', by rw [hmade', hmade, List.append_assoc], fun _ _ => trivial,
          fun hfair' => ?_⟩
        obtain ⟨hf', hP⟩ := hrest' (fairRace_append.1 hfair').2
        exact ⟨by rw [hf', List.drop_drop, List.length_append], hP⟩
      exact Yields.mono (hnext x u made hA hf) (fun y v hv => after v _ hv)
        fun err v hv => after v _ hv
    · have unfair : ∀ v P, (Reach.writing p).Goes (part u) (part v) →
          Contested m rivals (fun _ => True) (part t) (part v) P := by
        intro v P hv
        obtain ⟨made', hmade'⟩ := hv.insertions
        exact ⟨made ++ made', by rw [hmade', hmade, List.append_assoc], fun _ _ => trivial,
          fun h => absurd ((fairRace_append.1 h).1.of_isSystemId hids) hfair⟩
      exact (hb x u (closed_writing p _)).mono (fun y v hv => unfair v _ hv.2)
        fun err v hv => unfair v _ hv
  · obtain ⟨made, hmade, hids, hrest⟩ := hu
    exact ⟨made, hmade, fun _ _ => trivial, fun hfair => (hrest hfair).2.elim⟩

/-- A look at the state. -/
lemma contests_get {g : σ → β} {f : β → Action σ Error α}
    (h : Contests m rivals kind part (f (g t)) t G B) :
    Contests m rivals kind part ((Action.ofState fun u => (g u, u)) >>= f) t G B :=
  yields_bind.2 h

/-- The present time. -/
lemma contests_now {f : Time → Engine.Work α} {w : Engine.Workspace}
    {G : α → Engine.Workspace → List Insertion → Prop}
    {B : Error → Engine.Workspace → List Insertion → Prop}
    (h : Contests m rivals kind (·.environment) (f w.environment.clock.wall) w G B) :
    Contests m rivals kind (·.environment) (liftM Effect.now >>= f) w G B :=
  yields_bind.2 (Engine.yields_lift.2 h)

/-- What happens in the environment of an engine. -/
lemma Contests.lift {a : Effect α} {w : Engine.Workspace}
    {G : α → Environment → List Insertion → Prop} {B : Error → Environment → List Insertion → Prop}
    (h : Contests m rivals kind id a w.environment G B) :
    Contests m rivals kind (·.environment) (liftM a : Engine.Work α) w
      (fun x w' made => G x w'.environment made ∧ w' = { w with environment := w'.environment })
      fun err w' made => B err w'.environment made :=
  Engine.yields_lift.2 (Yields.mono h (fun _ _ h => h.mono (fun _ => id) fun _ h => ⟨h, rfl⟩)
    fun _ _ h => h)

/-! ### Calls that only read -/

namespace Effect

lemma observes_emit (e : Environment) (event : Event) :
    Observes id (emit event) e fun _ e' => e.Keeps e' :=
  observes_of_bounds (E := fun _ _ => False) (fun _ => bounds_emit event)
    (yields_emit.2 (keeps_log e event)) (fun _ _ h => h) fun _ _ h => h

lemma observes_generateKey (e : Environment) (created : Stamp) :
    Observes id (generateKey created) e
      fun k e' => (k.created = created ∧ k.revoked = false) ∧ e.Keeps e' :=
  observes_of_bounds (fun _ => bounds_sealing _) (yields_generateKey created) (fun _ _ h => h.2)
    fun _ _ h => h

lemma observes_wrap (e : Environment) (outer inner : Key) :
    Observes id (sealing (outer.wrap inner)) e
      fun wrapped e' => outer.Wraps inner wrapped ∧ e.Keeps e' :=
  observes_of_bounds (fun _ => bounds_sealing _)
    (yields_sealing (Key.wrap_yields_wraps outer inner _)) (fun _ _ h => h.2)
    fun _ _ h => h.1.elim fun _ h => h.2

lemma observes_callWrap (hf : e.faults = .rivals rivals) (m key : Key) :
    Observes id ((KeyService.master m).callWrap key) e
      fun wrapped e' => m.decrypt wrapped = .ok key.secret ∧ e.Keeps e' :=
  observes_of_bounds (fun _ => bounds_callWrap m key) (yields_callWrap m key) (fun _ _ h => h.2)
    fun err _ h => Faults.not_plans_rivals rivals err (hf ▸ h.1)

lemma observes_latestRecord (hf : e.faults = .rivals rivals) (keyId : String) :
    Observes id (latestRecord keyId) e
      fun found e' => found = e.store.latest? keyId ∧ e.Keeps e' :=
  observes_of_bounds (fun _ => (bounds_latestRecord (Or.inr trivial)).mono fun _ _ => trivial)
    (yields_latestRecord (hf ▸ Faults.truthful_rivals rivals) keyId) (fun _ _ h => h.2)
    fun err _ h => Faults.not_plans_rivals rivals err (hf ▸ h.1)

end Effect

lemma Engine.observes_isUsable (e : Engine) (keyId : String) (created : Stamp) (revoked : Bool)
    (env : Environment) : Observes id (e.isUsable keyId created revoked) env
      fun b env' => (b = true ↔ e.Permits env.clock.wall created revoked) ∧ env.Keeps env' :=
  observes_of_bounds (fun _ => bounds_isUsable keyId created revoked)
    (e.yields_isUsable keyId created revoked env) (fun _ _ h => h.2) fun _ _ h => h

/-! ### The insert itself -/

/-- What an insert has come to that may have met a rival. -/
structure Inserted (m : Key) (rivals : List (Option Rival)) (e : Environment) (id : String)
    (r : KeyRecord) (won : Bool) (e' : Environment) : Prop where
  insertions : e'.insertions = e.insertions ++ [⟨id, r.created, won⟩]
  faults : e'.faults = .rivals (rivals.drop 1)
  clock : e'.clock = e.clock
  added : won = true → e.store.load? id r.created.time = none ∧
    e'.store = (e.store.insert id r.created.time r).2
  lost : won = false → FairRace m e'.store [⟨id, r.created, won⟩] rivals →
    ∃ r', e'.store = (e.store.insert id r'.created.time r').2 ∧
      (r' = r ∨ Met [⟨id, r.created, won⟩] rivals r' ∧ e.store.Admits m id r')

/-- The environment after an insert that was answered. -/
def Environment.answered (e : Environment) (rivals : List (Option Rival)) (s : Store) (id : String)
    (created : Stamp) (won : Bool) : Environment :=
  { e with
    store := s
    faults := .rivals (rivals.drop 1)
    calls := e.calls ++ [.insert id created (.ok won)] }

lemma inserted_answered {id : String} {r : KeyRecord} {won : Bool}
    (hadded : won = true → e.store.load? id r.created.time = none ∧
      s = (e.store.insert id r.created.time r).2)
    (hlost : won = false → FairRace m s [⟨id, r.created, won⟩] rivals →
      ∃ r', s = (e.store.insert id r'.created.time r').2 ∧
        (r' = r ∨ Met [⟨id, r.created, won⟩] rivals r' ∧ e.store.Admits m id r')) :
    Inserted m rivals e id r won (e.answered rivals s id r.created won) where
  insertions := @Environment.insertions_append e (e.answered rivals s id r.created won)
    (.insert id r.created (.ok won)) rfl
  faults := rfl
  clock := rfl
  added := hadded
  lost := hlost

/-- **An insert among rivals** is answered: it wins at a free place, or a record is there that
opens, its own or that of a fair rival. -/
lemma Effect.yields_insertRecord_rivals (hf : e.faults = .rivals rivals) (keyId : String)
    (r : KeyRecord) :
    (Effect.insertRecord keyId r).Yields e (fun won e' => Inserted m rivals e keyId r won e')
      fun _ _ => False := by
  -- where no other record was put, the own one is at the place or was refused for an older one
  have own : ∀ won : Bool, (won = true → e.store.load? keyId r.created.time = none) →
      Inserted m rivals e keyId r won
        (e.answered rivals (e.store.insert keyId r.created.time r).2 keyId r.created won) :=
    fun won hwon => inserted_answered (fun h => ⟨hwon h, rfl⟩) fun _ _ => ⟨r, rfl, Or.inl rfl⟩
  have hplain : Inserted m rivals e keyId r (e.store.load? keyId r.created.time).isNone
      (e.answered rivals (e.store.insert keyId r.created.time r).2 keyId r.created
        (e.store.load? keyId r.created.time).isNone) :=
    own _ Option.isNone_iff_eq_none.1
  obtain ⟨clock, random, store, faults, log, calls⟩ := e
  obtain rfl : faults = .rivals rivals := hf
  unfold insertRecord nextInsertFault
  simp only [yields_bind, yields_ofState]
  rcases rivals with _ | ⟨_ | _ | other, rest⟩
  · exact hplain
  · exact hplain
  · exact own false fun h => absurd h Bool.false_ne_true
  · show Inserted m _ _ _ _ false _
    refine inserted_answered (fun h => absurd h Bool.false_ne_true) fun _ hfair => ?_
    have hadmits := hfair (⟨keyId, r.created, false⟩, some (.record other)) (by simp)
    exact ⟨other, rfl, Or.inr ⟨⟨_, List.mem_singleton_self _⟩, Store.Admits.of_insert hadmits⟩⟩

lemma contests_insertRecord (hf : e.faults = .rivals rivals) {keyId : String} (hkind : kind keyId)
    (r : KeyRecord) :
    Contests m rivals kind id (Effect.insertRecord keyId r) e
      (fun won e' made => Inserted m rivals e keyId r won e' ∧ made = [⟨keyId, r.created, won⟩] ∧
        FairRace m e'.store made rivals) fun _ _ _ => False := by
  refine Yields.mono (Effect.yields_insertRecord_rivals (m := m) hf keyId r) (fun won e' h => ?_)
    fun _ _ h => h.elim
  exact ⟨_, h.insertions, by simpa using hkind, fun hfair => ⟨h.faults, h, rfl, hfair⟩⟩

/-- What a fair insert has put into the store, the own record or that of a rival. -/
lemma Inserted.exists_record {id : String} {r : KeyRecord} {won : Bool}
    (h : Inserted m rivals e id r won e')
    (hfair : FairRace m e'.store [⟨id, r.created, won⟩] rivals) :
    ∃ r', e'.store = (e.store.insert id r'.created.time r').2 ∧
      (r' = r ∨ Met [⟨id, r.created, won⟩] rivals r' ∧ e.store.Admits m id r') := by
  cases won with
  | true => exact ⟨r, (h.added rfl).2, Or.inl rfl⟩
  | false => exact h.lost rfl hfair

/-- The second store is the first after a fair insert: there is a record under the id, and the only
record that may be new is the own one or that of a rival. -/
structure Filled (m : Key) (rivals : List (Option Rival)) (s : Store) (x : Insertion)
    (r : KeyRecord) (s' : Store) : Prop where
  sound : s'.Sound m
  store : s.Extends s'
  others : ∀ id, id ≠ x.keyId → s'.timeline id = s.timeline id
  exists_latest : ∃ r', s'.latest? x.keyId = some r'
  origin : ∀ {id t r'}, s'.load? id t = some r' → s.load? id t = some r' ∨
    id = x.keyId ∧ (r' = r ∨ Met [x] rivals r')

/-- **A fair insert** of a record that opens keeps a store sound. -/
lemma Inserted.filled {id : String} {r : KeyRecord} {won : Bool}
    (h : Inserted m rivals e id r won e')
    (hfair : FairRace m e'.store [⟨id, r.created, won⟩] rivals) (hs : e.store.Sound m)
    (hr : e.store.Admits m id r) :
    Filled m rivals e.store ⟨id, r.created, won⟩ r e'.store := by
  obtain ⟨r', hstore, horigin⟩ := h.exists_record hfair
  have hadmits : e.store.Admits m id r' := by
    rcases horigin with rfl | ⟨-, hr'⟩
    · exact hr
    · exact hr'
  rw [hstore]
  refine ⟨hs.insert hadmits, Store.extends_insert _ _ _ _, fun id' hne => ?_, ?_, fun hl => ?_⟩
  · unfold Store.insert
    rw [Store.timeline_setTimeline, if_neg hne]
  · refine Store.exists_latest? (t := r'.created.time)
      (r := (e.store.load? id r'.created.time).getD r') ?_
    rw [Store.load?_insert, if_pos ⟨rfl, rfl⟩]
  · rcases Store.load?_of_insert hl with hl | ⟨rfl, -, rfl, -⟩
    · exact Or.inl hl
    · exact Or.inr ⟨rfl, horigin.imp_right And.left⟩

end Envelope
