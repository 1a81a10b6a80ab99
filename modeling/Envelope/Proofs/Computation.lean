import Mathlib.Tactic.Common
import Envelope.Engine

/-!
What a computation leads to: a postcondition for its result and one for its failure.

`Yields` takes a computation apart bind by bind. The facts about a function of the engine are
stated once with it, and those who call the function use the facts and not its body.
-/

namespace Envelope

/-! ### Results -/

namespace Except

variable {ε δ α β : Type}

lemma bind_eq_ok_iff {a : Except ε α} {f : α → Except ε β} {y : β} :
    (a >>= f) = .ok y ↔ ∃ x, a = .ok x ∧ f x = .ok y := by
  constructor
  · intro h
    cases a with
    | error e => cases h
    | ok x => exact ⟨x, rfl, h⟩
  · rintro ⟨x, rfl, h⟩
    exact h

lemma mapError_eq_ok_iff {a : Except ε α} {g : ε → δ} {x : α} :
    a.mapError g = .ok x ↔ a = .ok x := by
  cases a <;> simp [Except.mapError]

end Except

namespace Action

variable {σ τ ε δ α β : Type}

/-- Run from `s`, the computation returns with `Q` or fails with `E`. -/
def Yields (a : Action σ ε α) (s : σ) (Q : α → σ → Prop) (E : ε → σ → Prop) : Prop :=
  match a.outcome s with
  | (.ok x, t) => Q x t
  | (.error e, t) => E e t

variable {s : σ} {Q R : α → σ → Prop} {E F : ε → σ → Prop}

/-! ### Single steps -/

@[simp] lemma yields_pure (x : α) : (pure x : Action σ ε α).Yields s Q E ↔ Q x s := Iff.rfl

@[simp] lemma yields_throw (e : ε) : (throw e : Action σ ε α).Yields s Q E ↔ E e s := Iff.rfl

@[simp] lemma yields_ofState (f : σ → α × σ) :
    (ofState f : Action σ ε α).Yields s Q E ↔ Q (f s).1 (f s).2 := Iff.rfl

lemma yields_ofExcept {r : Except ε α} (hok : ∀ x, r = .ok x → Q x s)
    (herr : ∀ e, r = .error e → E e s) : (ofExcept r : Action σ ε α).Yields s Q E := by
  cases r with
  | ok x => exact hok x rfl
  | error e => exact herr e rfl

/-- A computation that fails is the end of what was to come after it. -/
lemma outcome_bind (a : Action σ ε β) (f : β → Action σ ε α) (s : σ) :
    (a >>= f).outcome s =
      match a.outcome s with
      | (.ok x, t) => (f x).outcome t
      | (.error e, t) => (.error e, t) := by
  show ExceptT.bindCont f (a.outcome s).1 (a.outcome s).2 = _
  rcases a.outcome s with ⟨_ | x, t⟩ <;> rfl

lemma yields_bind {a : Action σ ε β} {f : β → Action σ ε α} :
    (a >>= f).Yields s Q E ↔ a.Yields s (fun x t => (f x).Yields t Q E) E := by
  unfold Yields
  rw [outcome_bind]
  rcases a.outcome s with ⟨_ | x, t⟩ <;> rfl

/-- A part of the state worked on alone. -/
lemma yields_zoom {part : σ → τ} {put : τ → σ → σ} {a : Action τ ε α} :
    (a.zoom part put).Yields s Q E ↔
      a.Yields (part s) (fun x t => Q x (put t s)) (fun e t => E e (put t s)) := by
  show (match ((a.outcome (part s)).1, put (a.outcome (part s)).2 s) with
    | (.ok x, t) => Q x t
    | (.error e, t) => E e t) ↔ _
  unfold Yields
  rcases a.outcome (part s) with ⟨_ | x, t⟩ <;> rfl

lemma yields_mapError {a : Action σ δ α} {f : δ → ε} :
    (a.mapError f).Yields s Q E ↔ a.Yields s Q (fun d t => E (f d) t) := by
  show (match ((a.outcome s).1.mapError f, (a.outcome s).2) with
    | (.ok x, t) => Q x t
    | (.error e, t) => E e t) ↔ _
  unfold Yields
  rcases a.outcome s with ⟨_ | x, t⟩ <;> rfl

lemma yields_attempt {a : Action σ δ α} {Q : Except δ α → σ → Prop} :
    (a.attempt : Action σ ε (Except δ α)).Yields s Q E ↔
      a.Yields s (fun x t => Q (.ok x) t) (fun d t => Q (.error d) t) := by
  show Q (a.outcome s).1 (a.outcome s).2 ↔ _
  unfold Yields
  rcases a.outcome s with ⟨_ | x, t⟩ <;> rfl

/-- A computation that cannot fail returns. -/
lemma Yields.returns {a : Action σ ε α} (h : a.Yields s Q fun _ _ => False) :
    ∃ x t, a.outcome s = (.ok x, t) ∧ Q x t := by
  unfold Yields at h
  rcases ha : a.outcome s with ⟨e | x, t⟩ <;> rw [ha] at h
  · exact h.elim
  · exact ⟨x, t, rfl, h⟩

/-! ### Consequence -/

lemma Yields.mono {a : Action σ ε α} (h : a.Yields s Q E) (hQ : ∀ x t, Q x t → R x t)
    (hE : ∀ e t, E e t → F e t) : a.Yields s R F := by
  unfold Yields at h ⊢
  rcases ha : a.outcome s with ⟨e | x, t⟩ <;> rw [ha] at h
  · exact hE e t h
  · exact hQ x t h

/-- What comes after a computation may rely on its postcondition. -/
lemma Yields.bind {a : Action σ ε β} {f : β → Action σ ε α} {A : β → σ → Prop}
    (h : a.Yields s A F) (hf : ∀ x t, A x t → (f x).Yields t Q E)
    (hE : ∀ e t, F e t → E e t) : (a >>= f).Yields s Q E :=
  yields_bind.2 (h.mono hf hE)

lemma Yields.and {a : Action σ ε α} (h : a.Yields s Q E) (h' : a.Yields s R F) :
    a.Yields s (fun x t => Q x t ∧ R x t) (fun e t => E e t ∧ F e t) := by
  unfold Yields at h h' ⊢
  rcases ha : a.outcome s with ⟨e | x, t⟩ <;> rw [ha] at h h' <;> exact ⟨h, h'⟩

/-- What holds of the state reached holds however the computation ends. -/
lemma yields_of_state {a : Action σ ε α} {P : σ → Prop} (h : P (a.outcome s).2) :
    a.Yields s (fun _ t => P t) fun _ t => P t := by
  unfold Yields
  rcases ha : a.outcome s with ⟨e | x, t⟩ <;> rw [ha] at h <;> exact h

/-- What holds of every result holds of the outcome. -/
lemma Yields.outcome {a : Action σ ε α} {P : Except ε α → σ → Prop}
    (h : a.Yields s (fun x t => P (.ok x) t) (fun e t => P (.error e) t)) :
    P (a.outcome s).1 (a.outcome s).2 := by
  unfold Yields at h
  rcases ha : a.outcome s with ⟨e | x, t⟩ <;> rw [ha] at h <;> exact h

end Action

namespace Engine

/-- What happens in the environment of an engine. -/
lemma yields_lift {α : Type} {a : Effect α} {w : Workspace} {Q : α → Workspace → Prop}
    {E : Error → Workspace → Prop} :
    (liftM a : Work α).Yields w Q E ↔
      a.Yields w.environment (fun x e => Q x { w with environment := e })
        (fun err e => E err { w with environment := e }) := by
  show (inEnvironment a).Yields w Q E ↔ _
  exact Action.yields_zoom

/-- What comes after something in the environment may rely on what it did there. -/
lemma yields_lift_bind {α β : Type} {a : Effect β} {f : β → Work α} {w : Workspace}
    {A : β → Environment → Prop} {F : Error → Environment → Prop} {Q : α → Workspace → Prop}
    {E : Error → Workspace → Prop} (h : a.Yields w.environment A F)
    (hf : ∀ x e, A x e → (f x).Yields { w with environment := e } Q E)
    (hE : ∀ err e, F err e → E err { w with environment := e }) :
    (liftM a >>= f).Yields w Q E :=
  Action.yields_bind.2 (yields_lift.2 (h.mono hf hE))

end Engine

end Envelope
