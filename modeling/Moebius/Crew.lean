import Mathlib.Data.Nat.Notation

/-!
Threads that share a state and take their steps one at a time.

The threads of a crew each have what they rely on, and any two of them are compatible. So a step
only has to leave alone what the threads rely on that are compatible with its own. In particular,
threads may come in groups and be active; in a guarded crew at most one thread of a group is, and
within its group a step only has to leave alone what the inactive threads rely on, or, if it is made
by an inactive thread, what the active one does.
-/

namespace Moebius

open List

structure Crew (σ τ : Type) where
  state : σ
  threads : List τ := []

/-- A thread starts for a request, or the thread at `k` takes a step. -/
inductive Crew.Act (ρ ι : Type)
  | spawn (r : ρ)
  | step (k : ℕ) (x : ι)

namespace Crew

variable {σ τ ρ ι γ : Type} (start : ρ → τ) (step : ι → σ → τ → σ × τ)

def after (s : Crew σ τ) : Act ρ ι → Crew σ τ
  | .spawn r => { s with threads := s.threads ++ [start r] }
  | .step k x =>
    match s.threads[k]? with
    | none => s
    | some t => { state := (step x s.state t).1, threads := s.threads.set k (step x s.state t).2 }

/-- Each thread has what it relies on, and any two threads are compatible. -/
structure Paired (P : σ → τ → Prop) (Q : τ → τ → Prop) (s : Crew σ τ) : Prop where
  each : ∀ {k : ℕ} {t : τ}, s.threads[k]? = some t → P s.state t
  pairs : ∀ {k l : ℕ} {t u : τ}, s.threads[k]? = some t → s.threads[l]? = some u → k ≠ l → Q t u

structure Guarded (P : σ → τ → Prop) (Active : τ → Prop) (group : τ → γ) (s : Crew σ τ) : Prop where
  each : ∀ {k : ℕ} {t : τ}, s.threads[k]? = some t → P s.state t
  alone : ∀ {k l : ℕ} {t u : τ}, s.threads[k]? = some t → s.threads[l]? = some u →
    group t = group u → Active t → Active u → k = l

/-- A thread that becomes active finds no active one of its group. -/
def Orderly (Active : τ → Prop) (group : τ → γ) (s : Crew σ τ) : Act ρ ι → Prop
  | .spawn _ => True
  | .step k x => ∀ t ∈ s.threads[k]?, ¬ Active t → Active (step x s.state t).2 →
      ∀ u ∈ s.threads, group u = group t → ¬ Active u

instance [DecidableEq γ] (Active : τ → Prop) [DecidablePred Active] (group : τ → γ)
    (s : Crew σ τ) (a : Act ρ ι) : Decidable (Orderly step Active group s a) := by
  unfold Orderly
  split <;> infer_instance

variable {start step} {P : σ → τ → Prop} {Active : τ → Prop} {group : τ → γ} {s : Crew σ τ}

lemma getElem?_after_spawn {r : ρ} {k : ℕ} {t : τ}
    (h : (s.after start step (.spawn r : Act ρ ι)).threads[k]? = some t) :
    s.threads[k]? = some t ∨ k = s.threads.length ∧ t = start r := by
  change (s.threads ++ [start r])[k]? = some t at h
  rcases Nat.lt_or_ge k s.threads.length with hlt | hge
  · exact .inl (by rwa [getElem?_append_left hlt] at h)
  · rw [getElem?_append_right hge, getElem?_singleton] at h
    split at h
    · exact .inr ⟨by omega, (Option.some.inj h).symm⟩
    · cases h

lemma getElem?_set_step {k l : ℕ} {t t' u : τ} (hk : s.threads[k]? = some t)
    (hl : (s.threads.set k t')[l]? = some u) : l = k ∧ u = t' ∨ l ≠ k ∧ s.threads[l]? = some u := by
  by_cases hlk : l = k
  · subst hlk
    rw [List.getElem?_set_self (List.getElem?_eq_some_iff.mp hk).1] at hl
    exact .inl ⟨rfl, (Option.some.inj hl).symm⟩
  · rw [List.getElem?_set_ne (Ne.symm hlk)] at hl
    exact .inr ⟨hlk, hl⟩

section

variable {Q : τ → τ → Prop}

lemma paired_nil (state : σ) : Paired P Q ({ state } : Crew σ τ) :=
  ⟨fun h => by simp at h, fun h => by simp at h⟩

lemma Paired.after_spawn (hsymm : ∀ t u, Q t u → Q u t) (h : Paired P Q s) {r : ρ}
    (hP : P s.state (start r)) (hQ : ∀ u ∈ s.threads, Q (start r) u) :
    Paired P Q (s.after start step (.spawn r)) := by
  constructor
  · intro k t hk
    rcases getElem?_after_spawn hk with hk | ⟨-, rfl⟩
    · exact h.each hk
    · exact hP
  · intro k l t u hk hl hne
    rcases getElem?_after_spawn hk with hk | ⟨hkn, rfl⟩
    · rcases getElem?_after_spawn hl with hl | ⟨-, rfl⟩
      · exact h.pairs hk hl hne
      · exact hsymm _ _ (hQ t (mem_of_getElem? hk))
    · rcases getElem?_after_spawn hl with hl | ⟨hln, -⟩
      · exact hQ u (mem_of_getElem? hl)
      · exact absurd (hkn.trans hln.symm) hne

lemma Paired.after_step (hsymm : ∀ t u, Q t u → Q u t) (h : Paired P Q s) {k : ℕ} {x : ι}
    (hown : ∀ t, s.threads[k]? = some t → P s.state t → P (step x s.state t).1 (step x s.state t).2)
    (hother : ∀ t l u, s.threads[k]? = some t → s.threads[l]? = some u → l ≠ k → P s.state t →
      P s.state u → Q t u → P (step x s.state t).1 u ∧ Q (step x s.state t).2 u) :
    Paired P Q (s.after start step (.step k x : Act ρ ι)) := by
  rcases hk : s.threads[k]? with _ | t
  · simpa only [after, hk] using h
  simp only [after, hk]
  have hothers : ∀ {l : ℕ} {u : τ}, l ≠ k → s.threads[l]? = some u →
      P (step x s.state t).1 u ∧ Q (step x s.state t).2 u := fun hlk hl =>
    hother t _ _ hk hl hlk (h.each hk) (h.each hl) (h.pairs hk hl (Ne.symm hlk))
  constructor
  · intro l u hl
    rcases getElem?_set_step hk hl with ⟨rfl, rfl⟩ | ⟨hlk, hl⟩
    · exact hown t hk (h.each hk)
    · exact (hothers hlk hl).1
  · intro l m u w hl hm hne
    rcases getElem?_set_step hk hl with ⟨hlk, rfl⟩ | ⟨hlk, hl⟩
    · rcases getElem?_set_step hk hm with ⟨hmk, -⟩ | ⟨hmk, hm⟩
      · exact absurd (hlk.trans hmk.symm) hne
      · exact (hothers hmk hm).2
    · rcases getElem?_set_step hk hm with ⟨hmk, rfl⟩ | ⟨hmk, hm⟩
      · exact hsymm _ _ (hothers hlk hl).2
      · exact h.pairs hl hm hne

end

/-- Threads of one group that are both active. -/
def Rivals (Active : τ → Prop) (group : τ → γ) (t u : τ) : Prop :=
  group t = group u ∧ Active t ∧ Active u

lemma guarded_iff :
    Guarded P Active group s ↔ Paired P (fun t u => ¬ Rivals Active group t u) s := by
  constructor
  · exact fun h => ⟨h.each, fun hk hl hne hboth => hne (h.alone hk hl hboth.1 hboth.2.1 hboth.2.2)⟩
  · exact fun h => ⟨h.each, fun hk hl hg ht hu =>
      Decidable.byContradiction fun hne => h.pairs hk hl hne ⟨hg, ht, hu⟩⟩

lemma not_rivals_symm (t u : τ) (h : ¬ Rivals Active group t u) : ¬ Rivals Active group u t :=
  fun h' => h ⟨h'.1.symm, h'.2.symm⟩

lemma Guarded.after_spawn (h : Guarded P Active group s) {r : ρ} (hP : P s.state (start r))
    (hA : ¬ Active (start r)) : Guarded P Active group (s.after start step (.spawn r)) := by
  rw [guarded_iff] at h ⊢
  exact h.after_spawn not_rivals_symm hP fun u _ hboth => hA hboth.2.1

lemma Guarded.after_step (h : Guarded P Active group s) {k : ℕ} {x : ι}
    (hgroup : ∀ t, group (step x s.state t).2 = group t)
    (hown : ∀ t, s.threads[k]? = some t → P s.state t → P (step x s.state t).1 (step x s.state t).2)
    (hother : ∀ t u, P s.state t → P s.state u → ¬ Rivals Active group t u →
      P (step x s.state t).1 u) (hord : Orderly step Active group s (.step k x : Act ρ ι)) :
    Guarded P Active group (s.after start step (.step k x)) := by
  rw [guarded_iff] at h ⊢
  refine h.after_step not_rivals_symm hown fun t l u hk hl _ ht hu hQ => ?_
  refine ⟨hother t u ht hu hQ, fun ⟨hg, hboth⟩ => ?_⟩
  rw [hgroup] at hg
  -- the thread was active before, or nobody was
  by_cases hactive : Active t
  · exact hQ ⟨hg, hactive, hboth.2⟩
  · exact hord t hk hactive hboth.1 u (mem_of_getElem? hl) hg.symm hboth.2

end Crew

end Moebius
