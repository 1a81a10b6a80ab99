import Envelope.Proofs.Computation
import Envelope.Proofs.Store

/-!
Two computations side by side.

They agree if they both return, with related values, or both fail with the same error. The states
stay related and both stores only grow, so what was known of the one store or the other on the way
is known afterwards.
-/

namespace Envelope

namespace Action

variable {σ ε α β : Type}

/-- Run from `s` and `t`, both computations return with `Q`, or both fail with one error and `E`. -/
def Pairs (a b : Action σ ε α) (s t : σ) (Q : α → α → σ → σ → Prop) (E : σ → σ → Prop) : Prop :=
  match a.outcome s, b.outcome t with
  | (.ok x, s'), (.ok y, t') => Q x y s' t'
  | (.error err, s'), (.error err', t') => err = err' ∧ E s' t'
  | _, _ => False

variable {a b : Action σ ε β} {f g : β → Action σ ε α} {s t : σ} {P R : β → β → σ → σ → Prop}
  {Q : α → α → σ → σ → Prop} {E F : σ → σ → Prop}

lemma Pairs.mono (h : a.Pairs b s t P E) (hP : ∀ x y s' t', P x y s' t' → R x y s' t')
    (hE : ∀ s' t', E s' t' → F s' t') : a.Pairs b s t R F := by
  unfold Pairs at h ⊢
  rcases ha : a.outcome s with ⟨err | x, s'⟩ <;> rcases hb : b.outcome t with ⟨err' | y, t'⟩ <;>
    rw [ha, hb] at h
  · exact ⟨h.1, hE s' t' h.2⟩
  · exact h
  · exact h
  · exact hP x y s' t' h

/-- What comes after two computations may rely on what they have in common. -/
lemma Pairs.bind (h : a.Pairs b s t P E)
    (hf : ∀ x y s' t', P x y s' t' → (f x).Pairs (g y) s' t' Q E) :
    (a >>= f).Pairs (b >>= g) s t Q E := by
  unfold Pairs at h ⊢
  rw [outcome_bind, outcome_bind]
  rcases ha : a.outcome s with ⟨err | x, s'⟩ <;> rcases hb : b.outcome t with ⟨err' | y, t'⟩ <;>
    rw [ha, hb] at h
  · exact h
  · exact h.elim
  · exact h.elim
  · exact hf x y s' t' h

/-- Two computations that return or fail together. -/
lemma pairs_of_yields {A B : β → σ → Prop} {C : Prop} {err : ε} {E₁ E₂ : σ → Prop}
    (ha : a.Yields s (fun x s' => A x s' ∧ C) fun err' s' => (err' = err ∧ ¬ C) ∧ E₁ s')
    (hb : b.Yields t (fun y t' => B y t' ∧ C) fun err' t' => (err' = err ∧ ¬ C) ∧ E₂ t') :
    a.Pairs b s t (fun x y s' t' => A x s' ∧ B y t') fun s' t' => E₁ s' ∧ E₂ t' := by
  unfold Yields at ha hb
  unfold Pairs
  rcases hs : a.outcome s with ⟨err' | x, s'⟩ <;> rcases ht : b.outcome t with ⟨err'' | y, t'⟩ <;>
    rw [hs] at ha <;> rw [ht] at hb
  · exact ⟨ha.1.1.trans hb.1.1.symm, ha.2, hb.2⟩
  · exact ha.1.2 hb.2
  · exact hb.1.2 ha.2
  · exact ⟨ha.1, hb.1⟩

end Action

open Envelope.Action

/-- A relation between states with an environment. -/
structure Kinship (σ : Type) where
  environment : σ → Environment
  twins : σ → σ → Prop

namespace Kinship

variable {σ α β : Type} (K : Kinship σ)

def store (s : σ) : Store := (K.environment s).store

/-- The states are still related, and both stores have only grown. -/
structure After (s t s' t' : σ) : Prop where
  twins : K.twins s' t'
  left : (K.store s).Extends (K.store s')
  right : (K.store t).Extends (K.store t')

/-- The computations return related values or fail with one error, and the states stay related. -/
def Agrees (a b : Action σ Error α) (s t : σ) (Q : α → α → Store → Store → Prop) : Prop :=
  a.Pairs b s t (fun x y s' t' => Q x y (K.store s') (K.store t') ∧ K.After s t s' t')
    (K.After s t)

variable {K} {s t s' t' s'' t'' : σ} {a b : Action σ Error β} {f g : β → Action σ Error α}
  {P R : β → β → Store → Store → Prop} {Q : α → α → Store → Store → Prop}

lemma After.refl (h : K.twins s t) : K.After s t s t := ⟨h, .refl _, .refl _⟩

lemma After.trans (h : K.After s t s' t') (h' : K.After s' t' s'' t'') : K.After s t s'' t'' :=
  ⟨h'.twins, h.left.trans h'.left, h.right.trans h'.right⟩

lemma Agrees.mono (h : K.Agrees a b s t P)
    (hP : ∀ x y s' t', P x y (K.store s') (K.store t') → K.After s t s' t' →
      R x y (K.store s') (K.store t')) : K.Agrees a b s t R :=
  Pairs.mono h (fun _ _ _ _ h => ⟨hP _ _ _ _ h.1 h.2, h.2⟩) fun _ _ h => h

/-- **One computation after another**, on either side. -/
lemma Agrees.bind (h : K.Agrees a b s t P)
    (hf : ∀ x y s' t', P x y (K.store s') (K.store t') → K.After s t s' t' →
      K.Agrees (f x) (g y) s' t' Q) : K.Agrees (a >>= f) (b >>= g) s t Q := by
  refine Pairs.bind h fun x y s' t' h => ?_
  exact Pairs.mono (hf x y s' t' h.1 h.2) (fun _ _ _ _ h' => ⟨h'.1, h.2.trans h'.2⟩)
    fun _ _ h' => h.2.trans h'

lemma agrees_pure {x y : α} (h : K.twins s t) (hQ : Q x y (K.store s) (K.store t)) :
    K.Agrees (pure x) (pure y) s t Q :=
  ⟨hQ, .refl h⟩

lemma agrees_throw (h : K.twins s t) (err : Error) : K.Agrees (throw err) (throw err) s t Q :=
  ⟨rfl, .refl h⟩

lemma agrees_ofExcept {x y : α} {r r' : Except Error α} (h : K.twins s t) (hr : r = .ok x)
    (hr' : r' = .ok y) (hQ : Q x y (K.store s) (K.store t)) :
    K.Agrees (Action.ofExcept r) (Action.ofExcept r') s t Q := by
  subst hr hr'
  exact ⟨hQ, .refl h⟩

end Kinship

end Envelope
