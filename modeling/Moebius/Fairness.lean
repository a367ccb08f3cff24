import Mathlib.Order.WellFounded

/-!
Progress under fairness.

Threads take turns on a common state, and each of them gets its turn again and again. If every turn
that changes the state makes it smaller, and as long as the goal is not reached some thread would
change it, then the goal is reached.
-/

namespace Moebius

variable {σ ι δ : Type} [Preorder δ]

section

variable {trace : ℕ → σ} {μ : σ → δ}

/-- Either nothing happens for a while, or the state gets smaller. -/
lemma same_or_smaller (hstep : ∀ n, trace (n + 1) = trace n ∨ μ (trace (n + 1)) < μ (trace n))
    {n m : ℕ} (h : n ≤ m) : trace m = trace n ∨ ∃ k, μ (trace k) < μ (trace n) := by
  induction m, h using Nat.le_induction with
  | base => exact Or.inl rfl
  | succ m _ ih =>
    rcases ih with hsame | hsmaller
    · rw [← hsame]
      exact (hstep m).imp_right fun h => ⟨m + 1, h⟩
    · exact Or.inr hsmaller

/-- The goal is reached if some thread is always ready to bring the state closer to it. -/
theorem reaches_of_progress [WellFoundedLT δ] {who : ℕ → ι} {G : σ → Prop}
    (hfair : ∀ i n, ∃ m ≥ n, who m = i)
    (hstep : ∀ n, trace (n + 1) = trace n ∨ μ (trace (n + 1)) < μ (trace n))
    (hready : ∀ n, ¬ G (trace n) → ∃ i, ∀ m, trace m = trace n → who m = i →
      μ (trace (m + 1)) < μ (trace m)) : ∃ n, G (trace n) := by
  suffices h : ∀ x n, μ (trace n) = x → ∃ m, G (trace m) from h _ 0 rfl
  intro x
  induction x using WellFoundedLT.induction with
  | ind x ih =>
    rintro n rfl
    by_cases hgoal : G (trace n)
    · exact ⟨n, hgoal⟩
    obtain ⟨i, hi⟩ := hready n hgoal
    obtain ⟨m, hm, hwho⟩ := hfair i n
    -- when the thread's turn comes, the state is as it was, or smaller already
    rcases same_or_smaller hstep hm with hsame | ⟨k, hk⟩
    · have hsmaller := hi m hsame hwho
      rw [hsame] at hsmaller
      exact ih _ hsmaller (m + 1) rfl
    · exact ih _ hk k rfl

end

end Moebius
