import Mathlib.Tactic.Lemma

/-!
Runs of a machine whose steps meet a condition.

A run is a list of inputs, taken one after the other. `Along step C xs s` says that from `s` every
input of `xs` meets `C` in the state in which it is taken; what one such step keeps, the run keeps.
-/

namespace Moebius

open List

variable {σ ι : Type} {step : σ → ι → σ} {C : σ → ι → Prop}

def Along (step : σ → ι → σ) (C : σ → ι → Prop) : List ι → σ → Prop
  | [], _ => True
  | x :: xs, s => C s x ∧ Along step C xs (step s x)

namespace Along

@[simp] lemma nil (s : σ) : Along step C [] s := trivial

@[simp] lemma cons {x : ι} {xs : List ι} {s : σ} :
    Along step C (x :: xs) s ↔ C s x ∧ Along step C xs (step s x) := Iff.rfl

instance decidable [∀ s x, Decidable (C s x)] : ∀ xs s, Decidable (Along step C xs s)
  | [], _ => isTrue trivial
  | x :: xs, s =>
    have : Decidable (Along step C xs (step s x)) := decidable xs (step s x)
    inferInstanceAs (Decidable (C s x ∧ Along step C xs (step s x)))

variable {xs : List ι} {s : σ} {D : σ → ι → Prop} {I : σ → Prop}

lemma append {ys : List ι} :
    Along step C (xs ++ ys) s ↔ Along step C xs s ∧ Along step C ys (xs.foldl step s) := by
  induction xs generalizing s with
  | nil => simp
  | cons x xs ih => simp only [cons_append, cons, ih, foldl_cons, and_assoc]

lemma of_forall (h : ∀ x ∈ xs, ∀ s, C s x) (s : σ) : Along step C xs s := by
  induction xs generalizing s with
  | nil => trivial
  | cons x xs ih =>
    exact ⟨h x mem_cons_self s, ih (fun y hy => h y (mem_cons_of_mem x hy)) _⟩

lemma imp (h : Along step C xs s) (hD : ∀ s, ∀ x ∈ xs, C s x → D s x) : Along step D xs s := by
  induction xs generalizing s with
  | nil => trivial
  | cons x xs ih =>
    exact ⟨hD s x mem_cons_self h.1, ih h.2 fun s y hy => hD s y (mem_cons_of_mem _ hy)⟩

lemma and (h : Along step C xs s) (h' : Along step D xs s) :
    Along step (fun s x => C s x ∧ D s x) xs s := by
  induction xs generalizing s with
  | nil => trivial
  | cons x xs ih => exact ⟨⟨h.1, h'.1⟩, ih h.2 h'.2⟩

lemma invariant (h : Along step C xs s) (hstep : ∀ s x, C s x → I s → I (step s x)) (hs : I s) :
    I (xs.foldl step s) := by
  induction xs generalizing s with
  | nil => exact hs
  | cons x xs ih => exact ih h.2 (hstep s x h.1 hs)

/-- An invariant may be used for what is to hold at every step. -/
lemma imp_of_invariant (h : Along step C xs s) (hstep : ∀ s x, C s x → I s → I (step s x))
    (hD : ∀ s x, C s x → I s → D s x) (hs : I s) : Along step D xs s := by
  induction xs generalizing s with
  | nil => trivial
  | cons x xs ih => exact ⟨hD s x h.1 hs, ih h.2 (hstep s x h.1 hs)⟩

/-- A preorder the steps follow, the run follows. -/
lemma rel {R : σ → σ → Prop} (hrefl : ∀ s, R s s) (htrans : ∀ a b c, R a b → R b c → R a c)
    (h : Along step C xs s) (hstep : ∀ s x, C s x → R s (step s x)) : R s (xs.foldl step s) :=
  h.invariant (fun t x hC ht => htrans _ _ _ ht (hstep t x hC)) (hrefl s)

end Along

end Moebius
