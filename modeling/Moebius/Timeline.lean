import Moebius.CheckThenAct
import Mathlib.Tactic.Common

/-!
Runs of a pool, action by action.

Three things can be said of a run from what is known of every single task: what each of its steps
does to the state, that it takes at most one step of a kind, and that what it acts on was found by
a step of its own.
-/

namespace Moebius

open Stage

namespace Proc

variable {σ α β γ : Type} {R : σ → σ → Prop}

/-- On every path at most one statement is not a step of `R`. -/
def Once (R : σ → σ → Prop) : Proc σ α → Prop
  | done _ => True
  | stmt w k e => (∀ s, R s (w s) ∧ (k s).Once R ∨ (k s).Each R) ∧ e.Once R

variable {p : Proc σ α} {f : α → Proc σ β}

lemma once_of_each (h : p.Each R) : p.Once R := by
  induction p with
  | done a => trivial
  | stmt w k e ihk ihe => exact ⟨fun s => .inl ⟨(h.1 s).1, ihk s (h.1 s).2⟩, ihe h.2⟩

lemma hereditary_once : Hereditary (Once R (α := α)) := by
  refine fun w k e h => ⟨fun s => ?_, h.2⟩
  rcases h.1 s with ⟨-, hk⟩ | hk
  · exact hk
  · exact once_of_each hk

lemma once_bind_of_each (hp : p.Each R) (hf : ∀ a, (f a).Once R) : (p.bind f).Once R := by
  induction p with
  | done a => exact hf a
  | stmt w k e ihk ihe => exact ⟨fun s => .inl ⟨(hp.1 s).1, ihk s (hp.1 s).2⟩, ihe hp.2⟩

lemma once_bind (hp : p.Once R) (hf : ∀ a, (f a).Each R) : (p.bind f).Once R := by
  induction p with
  | done a => exact once_of_each (hf a)
  | stmt w k e ihk ihe =>
    refine ⟨fun s => ?_, ihe hp.2⟩
    rcases hp.1 s with ⟨hr, hk⟩ | hk
    · exact .inl ⟨hr, ihk s hk⟩
    · exact .inr (each_bind hk hf)

/-- When the procedure finds something, its last statement was a step of `F`. -/
def Finds (F : σ → σ → γ → Prop) : Proc σ (Except α γ) → Prop
  | done _ => True
  | stmt w k e =>
    (∀ s, (∀ g, k s = done (.ok g) → F s (w s) g) ∧ (k s).Finds F) ∧
      (∀ g, e ≠ done (.ok g)) ∧ e.Finds F

end Proc

open Proc

namespace Pool

variable {ρ σ γ α : Type} (task : ρ → Task σ γ α)

def nth (s : Pool ρ σ γ α) (acts : List (Action ρ)) (n : ℕ) : Pool ρ σ γ α :=
  s.run task (acts.take n)

variable {task} {s : Pool ρ σ γ α} {acts : List (Action ρ)} {n m i : ℕ}

variable {a : Action ρ} {r : ρ}

lemma nth_succ (h : acts[n]? = some a) :
    nth task s acts (n + 1) = (nth task s acts n).after task a := by
  rw [nth, List.take_add_one, h, Option.toList_some, run_append]
  rfl

lemma nth_succ_of_none (h : acts[n]? = none) : nth task s acts (n + 1) = nth task s acts n := by
  rw [nth, List.take_add_one, h, Option.toList_none, List.append_nil, nth]

variable {st : Stage σ γ α}

lemma nth_invariant {J : Pool ρ σ γ α → Prop} (hJ : ∀ s a, J s → J (s.after task a)) (h : J s) :
    J (nth task s acts n) := by
  induction n with
  | zero => exact h
  | succ n ih =>
    rcases ha : acts[n]? with _ | a
    · rw [nth_succ_of_none ha]
      exact ih
    · rw [nth_succ ha]
      exact hJ _ a ih

variable (task s acts) in
/-- What every action respects, a stretch of the run respects. -/
lemma nth_rel {R : σ → σ → Prop} (hrefl : ∀ s, R s s) (htrans : ∀ a b c, R a b → R b c → R a c)
    (h : ∀ n, R (nth task s acts n).state (nth task s acts (n + 1)).state) (hnm : n ≤ m) :
    R (nth task s acts n).state (nth task s acts m).state := by
  induction hnm with
  | refl => exact hrefl _
  | step _ ih => exact htrans _ _ _ ih (h _)

/-! ### Threads -/

variable (task) in
lemma thread_after (h : s.threads[i]? = some (r, st)) :
    ∃ st', (s.after task a).threads[i]? = some (r, st') ∧
      (st' = st ∨ ∃ fault, a = .step i fault ∧ st' = ((task r).step fault s.state st).2) := by
  cases a with
  | spawn r' => exact ⟨st, getElem?_after_spawn task r' h, .inl rfl⟩
  | step j fault =>
    rcases hj : s.threads[j]? with _ | ⟨r', st'⟩
    · rw [after_step_of_none task fault hj]
      exact ⟨st, h, .inl rfl⟩
    · rw [getElem?_after_step task fault hj]
      by_cases hij : j = i
      · subst hij
        cases h.symm.trans hj
        exact ⟨_, if_pos rfl, .inr ⟨fault, rfl, rfl⟩⟩
      · exact ⟨st, (if_neg hij).trans h, .inl rfl⟩

/-- A thread after an action has just been spawned or was there before. -/
lemma thread_of_after {st' : Stage σ γ α} (h : (s.after task a).threads[i]? = some (r, st')) :
    st' = (task r).start ∨ ∃ st, s.threads[i]? = some (r, st) := by
  cases a with
  | spawn r' =>
    rcases old_or_started task h with h | h
    · exact .inr ⟨st', h⟩
    · cases h
      exact .inl rfl
  | step j fault =>
    right
    rcases hj : s.threads[j]? with _ | ⟨r', st⟩
    · rw [after_step_of_none task fault hj] at h
      exact ⟨st', h⟩
    · rw [getElem?_after_step task fault hj] at h
      split at h
      · rename_i hij
        subst hij
        cases h
        exact ⟨st, hj⟩
      · exact ⟨st', h⟩

/-- What holds of a stage at the start and after every step holds of every thread. -/
lemma nth_stages {P : ρ → Stage σ γ α → Prop} (hstart : ∀ r, P r (task r).start)
    (hstep : ∀ r st fault s, P r st → P r ((task r).step fault s st).2) {db : σ}
    (h : (nth task ⟨db, []⟩ acts n).threads[i]? = some (r, st)) : P r st := by
  have hall : ∀ (i : ℕ) r st, (nth task ⟨db, []⟩ acts n).threads[i]? = some (r, st) → P r st := by
    refine nth_invariant (J := fun s => ∀ (i : ℕ) r st, s.threads[i]? = some (r, st) → P r st)
      (fun s a hs i r st' h => ?_) (fun i r st h => ?_)
    · rcases thread_of_after h with rfl | ⟨st, hst⟩
      · exact hstart r
      · obtain ⟨st₁, h₁, hst₁⟩ := thread_after task hst
        cases h.symm.trans h₁
        obtain rfl | ⟨fault, -, rfl⟩ := hst₁
        · exact hs i r _ hst
        · exact hstep r st fault s.state (hs i r st hst)
    · cases h
  exact hall i r st h

/-! ### What a step does -/

lemma step_fault {t : Task σ γ α} {s : σ} : (t.step true s st).1 = s := by
  rcases st with ((a | g) | ⟨w, k, e⟩) | ⟨g, a | ⟨w, k, e⟩⟩ | a <;> rfl

lemma state_nth_succ : (nth task s acts (n + 1)).state = (nth task s acts n).state ∨
      ∃ i r st, acts[n]? = some (.step i false) ∧ (nth task s acts n).threads[i]? = some (r, st) ∧
        (nth task s acts (n + 1)).state = ((task r).step false (nth task s acts n).state st).1 := by
  rcases ha : acts[n]? with _ | a
  · rw [nth_succ_of_none ha]
    exact .inl rfl
  rw [nth_succ ha]
  cases a with
  | spawn r => exact .inl rfl
  | step i fault =>
    rcases hi : (nth task s acts n).threads[i]? with _ | ⟨r, st⟩
    · left
      simp only [after, hi]
    cases fault
    · refine .inr ⟨i, r, st, rfl, hi, ?_⟩
      simp only [after, hi]
    · left
      simp only [after, hi]
      exact step_fault

end Pool

/-- All statements a task has left are steps of `R`. -/
def Stage.Each {σ γ α : Type} (R : σ → σ → Prop) : Stage σ γ α → Prop :=
  Stage.All (Proc.Each R) fun _ => Proc.Each R

variable {fault : Bool}

section

variable {ρ σ γ α : Type} {task : ρ → Task σ γ α} {R : σ → σ → Prop} {t : Task σ γ α}
  {st : Stage σ γ α}

lemma Stage.rel_of_each {s : σ} (hrefl : ∀ s, R s s) (h : st.Each R) :
    R s (t.step fault s st).1 := by
  rcases st with ((a | g) | ⟨w, k, e⟩) | ⟨g, a | ⟨w, k, e⟩⟩ | a
  · exact hrefl s
  · exact hrefl s
  · cases fault
    · exact (h.1.1 s).1
    · exact hrefl s
  · exact hrefl s
  · cases fault
    · exact (h.1 s).1
    · exact hrefl s
  · exact hrefl s

/-- What the statements of the requests do, the actions of a run do. -/
lemma Pool.rel_nth_succ {R : ρ → σ → σ → Prop} (hrefl : ∀ r s, R r s s)
    (hcheck : ∀ r, (task r).check.Each (R r)) (hact : ∀ r g, ((task r).act g).Each (R r)) (db : σ)
    (acts : List (Action ρ)) (n : ℕ) :
    (nth task ⟨db, []⟩ acts (n + 1)).state = (nth task ⟨db, []⟩ acts n).state ∨
      ∃ i r st, acts[n]? = some (.step i false) ∧
        (nth task ⟨db, []⟩ acts n).threads[i]? = some (r, st) ∧
        R r (nth task ⟨db, []⟩ acts n).state (nth task ⟨db, []⟩ acts (n + 1)).state := by
  rcases state_nth_succ with h | ⟨i, r, st, ha, hi, hstate⟩
  · exact .inl h
  have heach : st.Each (R r) := nth_stages (P := fun r st => st.Each (R r))
    (fun r => .settle (hact r) (hcheck r))
    (fun r st fault s h => h.step hereditary_each (fun _ => hereditary_each) (hact r) fault s) hi
  refine .inr ⟨i, r, st, ha, hi, ?_⟩
  rw [hstate]
  exact rel_of_each (hrefl r) heach

end

section

variable {ρ σ γ α : Type} {task : ρ → Task σ γ α} {R : σ → σ → Prop}

/-- The check is quiet, and at most one statement of the action is not. -/
def Stage.Once (R : σ → σ → Prop) : Stage σ γ α → Prop := All (Proc.Each R) fun _ => Proc.Once R

variable {t : Task σ γ α} {st : Stage σ γ α}

variable {s : σ}

/-- A step that is not quiet is one of the action, and only quiet ones are left after it. -/
lemma Stage.quiet_of_loud (hrefl : ∀ s, R s s) (h : st.Once R)
    (hloud : ¬ R s (t.step fault s st).1) :
    (∃ g p, st = .acting g p) ∧ ∃ g p, (t.step fault s st).2 = .acting g p ∧ p.Each R := by
  rcases st with ((a | g) | ⟨w, k, e⟩) | ⟨g, a | ⟨w, k, e⟩⟩ | a
  · exact absurd (hrefl s) hloud
  · exact absurd (hrefl s) hloud
  · cases fault
    · exact absurd (h.1.1 s).1 hloud
    · exact absurd (hrefl s) hloud
  · exact absurd (hrefl s) hloud
  · cases fault
    · rcases h.1 s with ⟨hr, -⟩ | hk
      · exact absurd hr hloud
      · exact ⟨⟨g, _, rfl⟩, g, _, rfl, hk⟩
    · exact absurd (hrefl s) hloud
  · exact absurd (hrefl s) hloud

/-- Only quiet statements are left, and the check is over. -/
def Stage.Spent (R : σ → σ → Prop) : Stage σ γ α → Prop
  | .checking _ => False
  | .acting _ p => p.Each R
  | .finished _ => True

lemma Stage.spent_step (h : st.Spent R) : (t.step fault s st).2.Spent R := by
  rcases st with p | ⟨g, a | ⟨w, k, e⟩⟩ | a
  · cases h
  · trivial
  · cases fault
    · exact (h.1 s).2
    · exact h.2
  · trivial

lemma Stage.each_of_spent (h : st.Spent R) : st.Each R := by
  cases st with
  | checking p => cases h
  | acting g p => exact h
  | finished a => trivial

namespace Pool

variable {db : σ} {acts : List (Action ρ)} {n m i : ℕ}

/-- The `n`-th action is a step of thread `i` that is not quiet. -/
def Loud (task : ρ → Task σ γ α) (R : σ → σ → Prop) (db : σ) (acts : List (Action ρ)) (i n : ℕ) :
    Prop :=
  acts[n]? = some (.step i false) ∧
    ¬ R (nth task ⟨db, []⟩ acts n).state (nth task ⟨db, []⟩ acts (n + 1)).state

variable (hrefl : ∀ s, R s s) (hcheck : ∀ r, (task r).check.Each R)
  (hact : ∀ r g, ((task r).act g).Once R)

include hrefl hcheck hact

lemma spent_of_loud (h : Loud task R db acts i n) :
    (∃ r g p, (nth task ⟨db, []⟩ acts n).threads[i]? = some (r, .acting g p)) ∧
      ∃ r st, (nth task ⟨db, []⟩ acts (n + 1)).threads[i]? = some (r, st) ∧ st.Spent R := by
  obtain ⟨ha, hloud⟩ := h
  rcases state_nth_succ with hsame | ⟨j, r, st, ha', hj, hstate⟩
  · rw [hsame] at hloud
    exact absurd (hrefl _) hloud
  cases ha.symm.trans ha'
  have honce : st.Once R := nth_stages (P := fun _ st => st.Once R)
    (fun r => .settle (hact r) (hcheck r))
    (fun r st fault s h => h.step hereditary_each (fun _ => hereditary_once) (hact r) fault s) hj
  rw [hstate] at hloud
  obtain ⟨⟨g, p, hst⟩, g', p', hstep, heach⟩ := quiet_of_loud hrefl honce hloud
  refine ⟨⟨r, g, p, by rw [hj, hst]⟩, r, .acting g' p', ?_, heach⟩
  rw [nth_succ ha, getElem?_after_step task _ hj, if_pos rfl, hstep]

/-- A thread takes at most one step that is not quiet. -/
lemma loud_unique (hn : Loud task R db acts i n) (hm : Loud task R db acts i m) : n = m := by
  have hlt : ∀ n m, Loud task R db acts i n → Loud task R db acts i m → ¬ n < m := by
    intro n m hn hm hnm
    obtain ⟨-, r, st, hst, hspent⟩ := spent_of_loud hrefl hcheck hact hn
    -- the thread stays spent until the second step
    have hstays : ∀ m, n + 1 ≤ m →
        ∃ st, (nth task ⟨db, []⟩ acts m).threads[i]? = some (r, st) ∧ st.Spent R := by
      intro m hnm
      induction hnm with
      | refl => exact ⟨st, hst, hspent⟩
      | @step m _ ih =>
        obtain ⟨st₁, hst₁, hspent₁⟩ := ih
        rcases ha : acts[m]? with _ | a
        · rw [nth_succ_of_none ha]
          exact ⟨st₁, hst₁, hspent₁⟩
        · rw [nth_succ ha]
          obtain ⟨st₂, hst₂, rfl | ⟨fault, -, rfl⟩⟩ := thread_after task hst₁
          · exact ⟨st₂, hst₂, hspent₁⟩
          · exact ⟨_, hst₂, spent_step hspent₁⟩
    obtain ⟨st', hst', hspent'⟩ := hstays m hnm
    obtain ⟨ha, hloud⟩ := hm
    refine hloud ?_
    rw [nth_succ ha]
    simp only [after, hst']
    exact rel_of_each hrefl (each_of_spent hspent')
  have h₁ := hlt n m hn hm
  have h₂ := hlt m n hm hn
  omega

end Pool

end

section

variable {ρ σ γ α : Type} {task : ρ → Task σ γ α} {F : σ → σ → γ → Prop}

def Stage.Finds (F : σ → σ → γ → Prop) : Stage σ γ α → Prop :=
  Stage.All (Proc.Finds F) fun _ _ => True

variable {st : Stage σ γ α} {t : Task σ γ α} {g : γ} {p : Proc σ α} {s : σ}

lemma Task.acting_of_settle {q : Proc σ (Except α γ)} (h : t.settle q = .acting g p) :
    q = done (.ok g) := by
  rcases q with (a | g') | ⟨w, k, e⟩
  · cases h
  · cases h
    rfl
  · cases h

/-- A step into an action is a step that finds something, or one of the action itself. -/
lemma Stage.found_of_step (h : st.Finds F) (hstep : (t.step fault s st).2 = .acting g p) :
    (∃ p', st = .acting g p') ∨ fault = false ∧ F s (t.step fault s st).1 g := by
  rcases st with ((a | g') | ⟨w, k, e⟩) | ⟨g', a | ⟨w, k, e⟩⟩ | a
  · cases hstep
  · exact absurd rfl (h.2 g')
  · cases fault
    · exact .inr ⟨rfl, (h.1.1 s).1 g (Task.acting_of_settle hstep)⟩
    · exact absurd (Task.acting_of_settle hstep) (h.1.2.1 g)
  · cases hstep
  · cases fault
    · cases hstep
      exact .inl ⟨_, rfl⟩
    · cases hstep
      exact .inl ⟨_, rfl⟩
  · cases hstep

lemma Pool.found_of_acting {F : ρ → σ → σ → γ → Prop}
    (hstart : ∀ r g, (task r).check ≠ done (.ok g)) (hfinds : ∀ r, (task r).check.Finds (F r))
    {db : σ} {acts : List (Action ρ)} {n i : ℕ} {r : ρ}
    (h : (nth task ⟨db, []⟩ acts n).threads[i]? = some (r, .acting g p)) :
    ∃ c < n, acts[c]? = some (.step i false) ∧
      F r (nth task ⟨db, []⟩ acts c).state (nth task ⟨db, []⟩ acts (c + 1)).state g := by
  induction n generalizing p with
  | zero => cases h
  | succ n ih =>
    have hearlier : (∃ p', (nth task ⟨db, []⟩ acts n).threads[i]? = some (r, .acting g p')) →
        ∃ c < n + 1, acts[c]? = some (.step i false) ∧
          F r (nth task ⟨db, []⟩ acts c).state (nth task ⟨db, []⟩ acts (c + 1)).state g := by
      rintro ⟨p', hp'⟩
      obtain ⟨c, hc, hfound⟩ := ih hp'
      exact ⟨c, by omega, hfound⟩
    rcases ha : acts[n]? with _ | a
    · rw [nth_succ_of_none ha] at h
      exact hearlier ⟨p, h⟩
    have hnext := h
    rw [nth_succ ha] at hnext
    rcases thread_of_after hnext with hfresh | ⟨st, hst⟩
    · exact absurd (Task.acting_of_settle hfresh.symm) (hstart r g)
    obtain ⟨st', hst', hmoved⟩ := thread_after task hst
    cases hnext.symm.trans hst'
    obtain rfl | ⟨fault, rfl, hstep⟩ := hmoved
    · exact hearlier ⟨p, hst⟩
    have hf : st.Finds (F r) := nth_stages (P := fun r st => st.Finds (F r))
      (fun r => .settle (fun _ => trivial) (hfinds r))
      (fun r st fault s h => h.step (fun _ _ _ h => ⟨fun s => (h.1 s).2, h.2.2⟩)
        (fun _ _ _ _ _ => ⟨fun _ => trivial, trivial⟩) (fun _ => trivial) fault s) hst
    rcases found_of_step hf hstep.symm with ⟨p', rfl⟩ | ⟨rfl, hfound⟩
    · exact hearlier ⟨p', hst⟩
    · refine ⟨n, by omega, ha, ?_⟩
      rw [nth_succ ha]
      simp only [after, hst]
      exact hfound

end

end Moebius
