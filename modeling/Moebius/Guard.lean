import Moebius.CheckThenAct

/-!
Facts that only the first write of a task can undo.

A fact about the shared state is guarded when a task undoes it, if at all, with the first
statement of its action, and when a check that meets the fact does not let such a task pass. Once
the fact holds and no task that could undo it is between its check and its first write, it holds
for good, whatever runs.
-/

namespace Moebius

namespace Proc

variable {σ α β : Type} {R : σ → σ → Prop}

/-- Every statement after the first is a step of `R` from every state. -/
def AfterFirst (R : σ → σ → Prop) : Proc σ α → Prop
  | done _ => True
  | stmt _ k e => (∀ s, (k s).Each R) ∧ e.Each R

variable {p : Proc σ α} {f : α → Proc σ β}

lemma afterFirst_of_each (h : p.Each R) : p.AfterFirst R := by
  cases p with
  | done a => trivial
  | stmt w k e => exact ⟨fun s => (h.1 s).2, h.2⟩

lemma afterFirst_bind (hp : p.AfterFirst R) (hf : ∀ a, (f a).Each R) : (p.bind f).AfterFirst R := by
  cases p with
  | done a => exact afterFirst_of_each (hf a)
  | stmt w k e => exact ⟨fun s => each_bind (hp.1 s) hf, each_bind hp.2 hf⟩

/-- The first statement is a step of `R` from every state. -/
def Opens (R : σ → σ → Prop) : Proc σ α → Prop
  | done _ => True
  | stmt w _ _ => ∀ s, R s (w s)

lemma opens_bind (hp : p.Opens R) (hf : ∀ a, p = done a → (f a).Opens R) : (p.bind f).Opens R := by
  cases p with
  | done a => exact hf a rfl
  | stmt w k e => exact hp

lemma each_of_opens (hp : p.Opens R) (hrest : p.AfterFirst R) : p.Each R := by
  cases p with
  | done a => trivial
  | stmt w k e => exact ⟨fun s => ⟨hp s, hrest.1 s⟩, hrest.2⟩

end Proc

open Proc

variable {ρ σ γ α : Type}

/-- The task is past its check and has issued no statement since. -/
def Stage.Untouched (t : Task σ γ α) : Stage σ γ α → Prop
  | .acting g p => p = t.act g
  | _ => False

namespace Guard

variable (F : σ → Prop)

def Keeps (s s' : σ) : Prop := F s → F s'

/-- What the check has found is nothing that lets the task undo the fact. -/
def Harmless (t : Task σ γ α) (x : Except α γ) : Prop :=
  ∀ g, x = .ok g → (t.act g).Each (Keeps F)

structure Observed (task : ρ → Task σ γ α) : Prop where
  check_keeps : ∀ r, (task r).check.Each (Keeps F)
  check_clear : ∀ r, (task r).check.Answers F (Harmless F (task r))
  start_clear : ∀ r, (task r).check.DoneIn (Harmless F (task r))
  act_keeps : ∀ r g, ((task r).act g).AfterFirst (Keeps F)

/-- The same of a task under way. -/
def Calm (t : Task σ γ α) : Stage σ γ α → Prop :=
  Stage.All (fun p => p.Each (Keeps F) ∧ p.Answers F (Harmless F t))
    fun g p => p.Each (Keeps F) ∨ p = t.act g

/-- The task may still undo the fact. -/
def Outstanding : Stage σ γ α → Prop
  | .acting _ p => ¬ p.Each (Keeps F)
  | _ => False

variable {F}

/-! ### One task -/

variable {t : Task σ γ α} {st : Stage σ γ α} {p : Proc σ (Except α γ)}

lemma untouched_of_outstanding (h : Calm F t st) (ho : Outstanding F st) : st.Untouched t := by
  cases st with
  | checking p => exact ho
  | acting g p => exact h.resolve_left ho
  | finished a => exact ho

lemma not_outstanding_settle (t : Task σ γ α) (h : p.DoneIn (Harmless F t)) :
    ¬ Outstanding F (t.settle p) := by
  rcases p with (a | g) | ⟨w, k, e⟩
  · exact id
  · intro ho
    exact ho (h _ rfl g rfl)
  · exact id

lemma calm_step (hact : ∀ g, (t.act g).AfterFirst (Keeps F)) (h : Calm F t st) (fault : Bool)
    (s : σ) : Calm F t (t.step fault s st).2 := by
  refine h.step (fun w k e h => ?_) (fun g w k e h => ?_) (fun g => .inr rfl) fault s
  · exact ⟨fun s => ⟨(h.1.1 s).2, (h.2.1 s).2⟩, h.1.2, h.2.2.2⟩
  · have hrest : (stmt w k e).AfterFirst (Keeps F) := by
      rcases h with h | h
      · exact afterFirst_of_each h
      · rw [h]
        exact hact g
    exact ⟨fun s => .inl (hrest.1 s), .inl hrest.2⟩

/-- A step of a task that cannot undo the fact keeps it, and the task does not become one that
can. -/
lemma step_keeps (h : Calm F t st) (ho : ¬ Outstanding F st) (fault : Bool) {s : σ} (hs : F s) :
    F (t.step fault s st).1 ∧ ¬ Outstanding F (t.step fault s st).2 := by
  rcases st with ((a | g) | ⟨w, k, e⟩) | ⟨g, a | ⟨w, k, e⟩⟩ | a
  · exact ⟨hs, id⟩
  · exact absurd rfl (h.2 g)
  · obtain ⟨⟨hkeeps, hclear⟩, -⟩ := h
    cases fault
    · exact ⟨(hkeeps.1 s).1 hs, not_outstanding_settle t ((hclear.1 s).1 hs)⟩
    · exact ⟨hs, not_outstanding_settle t hclear.2.1⟩
  · exact ⟨hs, id⟩
  · have hkeeps : (stmt w k e).Each (Keeps F) := Classical.not_not.mp ho
    cases fault
    · exact ⟨(hkeeps.1 s).1 hs, fun ho' => ho' (hkeeps.1 s).2⟩
    · exact ⟨hs, fun ho' => ho' hkeeps.2⟩
  · exact ⟨hs, id⟩

variable (F) in
def AllCalm (task : ρ → Task σ γ α) (s : Pool ρ σ γ α) : Prop :=
  ∀ x ∈ s.threads, Calm F (task x.1) x.2

variable (F) in
/-- The fact holds, and no task may still undo it. -/
def Safe (s : Pool ρ σ γ α) : Prop := F s.state ∧ ∀ x ∈ s.threads, ¬ Outstanding F x.2

variable {task : ρ → Task σ γ α} (h : Observed F task)

include h

variable {s : Pool ρ σ γ α}

lemma allCalm_after (hs : AllCalm F task s) (a : Action ρ) : AllCalm F task (s.after task a) := by
  refine Pool.threads_after task (fun r => ?_) (fun r st fault hst => ?_) hs a
  · exact .settle (fun _ => .inr rfl) ⟨h.check_keeps r, h.check_clear r⟩
  · exact calm_step (h.act_keeps r) hst fault s.state

lemma safe_after (hcalm : AllCalm F task s) (hs : Safe F s) (a : Action ρ) :
    Safe F (s.after task a) := by
  have hstep : ∀ r st fault, (r, st) ∈ s.threads →
      F ((task r).step fault s.state st).1 ∧ ¬ Outstanding F ((task r).step fault s.state st).2 :=
    fun r st fault hmem => step_keeps (hcalm _ hmem) (hs.2 _ hmem) fault hs.1
  refine ⟨Pool.state_after task hs.1 fun i fault r st _ hi => ?_, fun x hx => ?_⟩
  · exact (hstep r st fault (List.mem_of_getElem? hi)).1
  · cases Pool.threadAfter_of_mem task hx with
    | old hx => exact hs.2 x hx
    | started r => exact not_outstanding_settle _ (h.start_clear r)
    | stepped hi => exact (hstep _ _ _ (List.mem_of_getElem? hi)).2

/-- A fact that no task may undo holds for good. -/
lemma safe_run (hcalm : AllCalm F task s) (hs : Safe F s) (acts : List (Action ρ)) :
    Safe F (s.run task acts) := by
  induction acts generalizing s with
  | nil => exact hs
  | cons a acts ih => exact ih (allCalm_after h hcalm a) (safe_after h hcalm hs a)

end Guard

end Moebius
