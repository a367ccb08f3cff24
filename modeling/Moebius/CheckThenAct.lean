import Mathlib.Data.Nat.Notation
import Moebius.Proc
import Moebius.Runs

/-!
Tasks that check first and act later, running side by side.

A task checks the shared state and then acts on what it found. Any number of tasks run at once,
one statement at a time, in any order; between a task's check and its action the others may
have changed what it found. Sending the answer is a step of its own.

Statements meet states that other tasks have left behind, so what is said here of a procedure
is said of every statement it can still come to, whatever the earlier ones have read.
-/

namespace Moebius

open List

namespace Proc

variable {σ α β ι ε : Type}

/-- Every statement of the procedure is a step of `R` from every state. -/
def Each (R : σ → σ → Prop) : Proc σ α → Prop
  | done _ => True
  | stmt w k e => (∀ s, R s (w s) ∧ (k s).Each R) ∧ e.Each R

variable {R : σ → σ → Prop} {p : Proc σ α}

lemma each_bind {f : α → Proc σ β} (hp : p.Each R) (hf : ∀ a, (f a).Each R) :
    (p.bind f).Each R := by
  induction p with
  | done a => exact hf a
  | stmt w k e ihk ihe => exact ⟨fun s => ⟨(hp.1 s).1, ihk s (hp.1 s).2⟩, ihe hp.2⟩

lemma each_mono {R' : σ → σ → Prop} (h : ∀ a b, R a b → R' a b) (hp : p.Each R) : p.Each R' := by
  induction p with
  | done a => trivial
  | stmt w k e ihk ihe => exact ⟨fun s => ⟨h _ _ (hp.1 s).1, ihk s (hp.1 s).2⟩, ihe hp.2⟩

lemma each_exec {w : σ → σ} (h : ∀ s, R s (w s)) : (exec w).Each R :=
  ⟨fun s => ⟨h s, trivial⟩, trivial⟩

lemma each_attempt {w : σ → Option σ} (hr : ∀ s, R s s) (h : ∀ s s', w s = some s' → R s s') :
    (attempt w).Each R := by
  refine ⟨fun s => ⟨?_, trivial⟩, trivial⟩
  dsimp only
  rcases hw : w s with _ | s'
  · exact hr s
  · exact h s s' hw

lemma each_transaction {fs : List Bool} {body : Proc σ (Except ε α)} {refused : ε}
    (hr : ∀ s, R s s) (h : ∀ s a s', body.run fs s = (.ok a, s') → R s s') :
    (transaction fs body refused).Each R := by
  refine ⟨fun s => ⟨?_, trivial⟩, trivial⟩
  dsimp only
  rcases hb : body.run fs s with ⟨e | a, s'⟩
  · exact hr s
  · exact h s a s' hb

lemma each_of_readOnly (hp : p.ReadOnly) (hr : ∀ s, R s s) : p.Each R := by
  induction p with
  | done a => trivial
  | stmt w k e ihk ihe =>
    obtain ⟨⟨rfl, hk⟩, he⟩ := hp
    exact ⟨fun s => ⟨hr s, ihk s (hk s)⟩, ihe he⟩

lemma each_loop {body : β → ι → Proc σ (Except ε β)} {xs : List ι}
    (h : ∀ b, ∀ x ∈ xs, (body b x).Each R) (b : β) : (loop body xs b).Each R := by
  induction xs generalizing b with
  | nil => trivial
  | cons x xs ih =>
    refine each_bind (h b x mem_cons_self) fun r => ?_
    rcases r with e | b'
    · trivial
    · exact ih (fun b y hy => h b y (mem_cons_of_mem _ hy)) b'

/-- The procedure on its own, from any state. -/
lemma wp_of_each (h : p.Each R) (s : σ) : p.wp R (fun _ _ => True) s := by
  induction p generalizing s with
  | done a => trivial
  | stmt w k e ihk ihe => exact ⟨⟨(h.1 s).1, ihk s (h.1 s).2 (w s)⟩, ihe h.2 s⟩

/-- Every answer the procedure can end with satisfies `Q`. -/
def Returns (Q : α → Prop) : Proc σ α → Prop
  | done a => Q a
  | stmt _ k e => (∀ s, (k s).Returns Q) ∧ e.Returns Q

variable {Q : α → Prop} {I : σ → Prop}

lemma returns_of_forall (h : ∀ a, Q a) (p : Proc σ α) : p.Returns Q := by
  induction p with
  | done a => exact h a
  | stmt w k e ihk ihe => exact ⟨ihk, ihe⟩

variable {Q' : α → Prop} {f : α → Proc σ β}

lemma returns_mono (hp : p.Returns Q) (h : ∀ a, Q a → Q' a) : p.Returns Q' := by
  induction p with
  | done a => exact h a hp
  | stmt w k e ihk ihe => exact ⟨fun s => ihk s (hp.1 s), ihe hp.2⟩

lemma returns_bind {Q : β → Prop} (hp : p.Returns fun a => (f a).Returns Q) :
    (p.bind f).Returns Q := by
  induction p with
  | done a => exact hp
  | stmt w k e ihk ihe => exact ⟨fun s => ihk s (hp.1 s), ihe hp.2⟩

lemma returns_loop {body : β → ι → Proc σ (Except ε β)} (J : β → Prop) {xs : List ι}
    (h : ∀ b, J b → ∀ x ∈ xs, (body b x).Returns fun r => ∀ b', r = .ok b' → J b') {b : β}
    (hb : J b) : (loop body xs b).Returns fun r => ∀ b', r = .ok b' → J b' := by
  induction xs generalizing b with
  | nil => intro b' he; cases he; exact hb
  | cons x xs ih =>
    refine returns_bind ?_
    have hx := h b hb x mem_cons_self
    generalize body b x = p at hx
    induction p with
    | done r =>
      rcases r with e | b'
      · intro b' he; cases he
      · exact ih (fun b hb y hy => h b hb y (mem_cons_of_mem _ hy)) (hx b' rfl)
    | stmt w k e ihk ihe => exact ⟨fun s => ihk s (hx.1 s), ihe hx.2⟩

/-- What every answer satisfies, the answer of a run satisfies. -/
lemma wp_of_returns {Q₀ : α → σ → Prop} {s : σ} (h : p.wp R Q₀ s) (hr : p.Returns Q) :
    p.wp R (fun a t => Q₀ a t ∧ Q a) s := by
  induction p generalizing s with
  | done a => exact ⟨h, hr⟩
  | stmt w k e ihk ihe => exact ⟨⟨h.1.1, ihk s h.1.2 (hr.1 s)⟩, ihe h.2 hr.2⟩

/-- What is said of a procedure is said of what is left of it after its first statement. -/
def Hereditary (P : Proc σ α → Prop) : Prop :=
  ∀ w k e, P (stmt w k e) → (∀ s, P (k s)) ∧ P e

lemma hereditary_each : Hereditary (Each R (α := α)) := fun _ _ _ h => ⟨fun s => (h.1 s).2, h.2⟩

/-- If the procedure is done, its answer satisfies `Q`. -/
def DoneIn (Q : α → Prop) (p : Proc σ α) : Prop := ∀ a, p = done a → Q a

lemma doneIn_stmt (w : σ → σ) (k : σ → Proc σ α) (e : Proc σ α) : (stmt w k e).DoneIn Q := nofun

lemma doneIn_bind {Q : β → Prop} (h : p.DoneIn fun a => (f a).DoneIn Q) : (p.bind f).DoneIn Q := by
  cases p with
  | done a => exact h a rfl
  | stmt w k e => exact doneIn_stmt _ _ _

/-- An answer that a statement gives in a state with `I`, or by failing, satisfies `Q`. -/
def Answers (I : σ → Prop) (Q : α → Prop) : Proc σ α → Prop
  | done _ => True
  | stmt _ k e =>
    (∀ s, (I s → (k s).DoneIn Q) ∧ (k s).Answers I Q) ∧ e.DoneIn Q ∧ e.Answers I Q

lemma answers_of_forall (h : ∀ a, Q a) (p : Proc σ α) : p.Answers I Q := by
  induction p with
  | done a => trivial
  | stmt w k e ihk ihe => exact ⟨fun s => ⟨fun _ a _ => h a, ihk s⟩, fun a _ => h a, ihe⟩

lemma answers_mono (hp : p.Answers I Q) (h : ∀ a, Q a → Q' a) : p.Answers I Q' := by
  induction p with
  | done a => trivial
  | stmt w k e ihk ihe =>
    exact ⟨fun s => ⟨fun hs a ha => h a ((hp.1 s).1 hs a ha), ihk s (hp.1 s).2⟩,
      fun a ha => h a (hp.2.1 a ha), ihe hp.2.2⟩

lemma answers_bind {Q : β → Prop} (hp : p.Answers I fun a => (f a).DoneIn Q)
    (hf : ∀ a, (f a).Answers I Q) : (p.bind f).Answers I Q := by
  induction p with
  | done a => exact hf a
  | stmt w k e ihk ihe =>
    refine ⟨fun s => ⟨fun hs => doneIn_bind ((hp.1 s).1 hs), ihk s (hp.1 s).2⟩, ?_, ihe hp.2.2⟩
    exact doneIn_bind hp.2.1

lemma answers_read {q : σ → α} {Q : Option α → Prop} (h : ∀ s, I s → Q (some (q s)))
    (hfail : Q none) : (read q).Answers I Q :=
  ⟨fun s => ⟨fun hs _ he => by cases he; exact h s hs, trivial⟩,
    fun _ he => by cases he; exact hfail, trivial⟩

end Proc

/-! ### Tasks -/

open Proc

structure Task (σ γ α : Type) where
  /-- Ends the task with an answer, or finds something to act on. -/
  check : Proc σ (Except α γ)
  act : γ → Proc σ α

inductive Stage (σ γ α : Type)
  | checking (p : Proc σ (Except α γ))
  | acting (found : γ) (p : Proc σ α)
  | finished (a : α)

namespace Task

variable {σ γ α : Type} (t : Task σ γ α)

/-- The task without anything in between. -/
def whole : Proc σ α := t.check.bind fun
  | .error a => done a
  | .ok g => t.act g

/-- A check that has found something turns into an action with its last statement. -/
def settle : Proc σ (Except α γ) → Stage σ γ α
  | done (.ok g) => .acting g (t.act g)
  | p => .checking p

def start : Stage σ γ α := t.settle t.check

/-- One statement of the task, which may fail, or the sending of its answer. -/
def step (fault : Bool) (s : σ) : Stage σ γ α → σ × Stage σ γ α
  | .checking (done (.error a)) => (s, .finished a)
  | .checking (done (.ok g)) => (s, .acting g (t.act g))
  | .checking (stmt w k e) => if fault then (s, t.settle e) else (w s, t.settle (k s))
  | .acting _ (done a) => (s, .finished a)
  | .acting g (stmt w k e) => if fault then (s, .acting g e) else (w s, .acting g (k s))
  | .finished a => (s, .finished a)

end Task

/-- What is left of the check satisfies `C`, what is left of the action `A`. -/
def Stage.All {σ γ α : Type} (C : Proc σ (Except α γ) → Prop) (A : γ → Proc σ α → Prop) :
    Stage σ γ α → Prop
  | .checking p => C p ∧ ∀ g, p ≠ done (.ok g)
  | .acting g p => A g p
  | .finished _ => True

namespace Stage.All

variable {σ γ α : Type} {C : Proc σ (Except α γ) → Prop} {A : γ → Proc σ α → Prop}
  {t : Task σ γ α} {st : Stage σ γ α}

lemma settle (hact : ∀ g, A g (t.act g)) {p : Proc σ (Except α γ)} (hp : C p) :
    (t.settle p).All C A := by
  rcases p with (a | g) | ⟨w, k, e⟩
  · exact ⟨hp, nofun⟩
  · exact hact g
  · exact ⟨hp, nofun⟩

lemma step (hC : Hereditary C) (hA : ∀ g, Hereditary (A g)) (hact : ∀ g, A g (t.act g))
    (h : st.All C A) (fault : Bool) (s : σ) : (t.step fault s st).2.All C A := by
  rcases st with ((a | g) | ⟨w, k, e⟩) | ⟨g, a | ⟨w, k, e⟩⟩ | a
  · trivial
  · exact hact g
  · cases fault
    · exact settle hact ((hC w k e h.1).1 s)
    · exact settle hact (hC w k e h.1).2
  · trivial
  · cases fault
    · exact (hA g w k e h).1 s
    · exact (hA g w k e h).2
  · trivial

end Stage.All

structure Pool (ρ σ γ α : Type) where
  state : σ
  threads : List (ρ × Stage σ γ α)

inductive Action (ρ : Type)
  | spawn (r : ρ)
  | step (i : ℕ) (fault : Bool)

namespace Pool

variable {ρ σ γ α : Type} (task : ρ → Task σ γ α)

def after (s : Pool ρ σ γ α) : Action ρ → Pool ρ σ γ α
  | .spawn r => { s with threads := s.threads ++ [(r, (task r).start)] }
  | .step i fault =>
    match s.threads[i]? with
    | none => s
    | some (r, st) =>
      let next := (task r).step fault s.state st
      { state := next.1, threads := s.threads.set i (r, next.2) }

def run (s : Pool ρ σ γ α) (acts : List (Action ρ)) : Pool ρ σ γ α := acts.foldl (after task) s

/-- Every action of the run is allowed in the state it meets. -/
abbrev Admissible (Safe : Pool ρ σ γ α → Action ρ → Prop) (s : Pool ρ σ γ α)
    (acts : List (Action ρ)) : Prop :=
  Along (after task) Safe acts s

variable (s : Pool ρ σ γ α)

@[simp] lemma run_nil : s.run task [] = s := rfl

@[simp] lemma run_cons (a : Action ρ) (acts : List (Action ρ)) :
    s.run task (a :: acts) = (s.after task a).run task acts := rfl

@[simp] lemma run_append (acts acts' : List (Action ρ)) :
    s.run task (acts ++ acts') = (s.run task acts).run task acts' := foldl_append

/-! Threads by their index, and the state, after each kind of action. -/

variable {s : Pool ρ σ γ α}

section

variable {i k : ℕ} {r : ρ} {st : Stage σ γ α} {x : ρ × Stage σ γ α}

lemma getElem?_after_spawn (r : ρ) (h : s.threads[k]? = some x) :
    (s.after task (.spawn r)).threads[k]? = some x := by
  have hlt : k < s.threads.length := (List.getElem?_eq_some_iff.mp h).1
  exact (List.getElem?_append_left hlt).trans h

lemma old_or_started (h : (s.after task (.spawn r)).threads[k]? = some x) :
    s.threads[k]? = some x ∨ x = (r, (task r).start) := by
  have happend : (s.threads ++ [(r, (task r).start)])[k]? = some x := h
  rw [getElem?_append] at happend
  split at happend
  · exact .inl happend
  · exact .inr (mem_singleton.mp (mem_of_getElem? happend))

variable (fault : Bool)

lemma after_step_of_none (hi : s.threads[i]? = none) : s.after task (.step i fault) = s := by
  simp only [after, hi]

lemma getElem?_after_step (hi : s.threads[i]? = some (r, st)) (k : ℕ) :
    (s.after task (.step i fault)).threads[k]? =
      if i = k then some (r, ((task r).step fault s.state st).2) else s.threads[k]? := by
  have hlt : i < s.threads.length := (List.getElem?_eq_some_iff.mp hi).1
  simp only [after, hi]
  rw [List.getElem?_set, if_pos hlt]

lemma state_after_step (hi : s.threads[i]? = some (r, st)) :
    (s.after task (.step i fault)).state = ((task r).step fault s.state st).1 := by
  simp only [after, hi]

end

inductive ThreadAfter (s : Pool ρ σ γ α) : Action ρ → ρ × Stage σ γ α → Prop
  | old {a : Action ρ} {x : ρ × Stage σ γ α} (hx : x ∈ s.threads) : ThreadAfter s a x
  | started (r : ρ) : ThreadAfter s (.spawn r) (r, (task r).start)
  | stepped {i : ℕ} {fault : Bool} {r : ρ} {st : Stage σ γ α} (hi : s.threads[i]? = some (r, st)) :
      ThreadAfter s (.step i fault) (r, ((task r).step fault s.state st).2)

variable {a : Action ρ}

lemma threadAfter_of_mem {x : ρ × Stage σ γ α} (hx : x ∈ (s.after task a).threads) :
    ThreadAfter task s a x := by
  cases a with
  | spawn r =>
    rcases mem_append.mp hx with hx | hx
    · exact .old hx
    · cases mem_singleton.mp hx
      exact .started r
  | step i fault =>
    rcases hi : s.threads[i]? with _ | ⟨r, st⟩
    · simp only [after, hi] at hx
      exact .old hx
    · simp only [after, hi] at hx
      rcases mem_or_eq_of_mem_set hx with hx | rfl
      · exact .old hx
      · exact .stepped hi

lemma threads_after {P : ρ × Stage σ γ α → Prop} (hstart : ∀ r, P (r, (task r).start))
    (hstep : ∀ r st fault, P (r, st) → P (r, ((task r).step fault s.state st).2))
    (hs : ∀ x ∈ s.threads, P x) (a : Action ρ) : ∀ x ∈ (s.after task a).threads, P x := by
  intro x hx
  cases threadAfter_of_mem task hx with
  | old hx => exact hs x hx
  | started r => exact hstart r
  | stepped hi => exact hstep _ _ _ (hs _ (mem_of_getElem? hi))

lemma state_after {Q : σ → Prop} (hs : Q s.state)
    (hstep : ∀ i fault r st, a = .step i fault → s.threads[i]? = some (r, st) →
      Q ((task r).step fault s.state st).1) : Q (s.after task a).state := by
  cases a with
  | spawn r => exact hs
  | step i fault =>
    rcases hi : s.threads[i]? with _ | ⟨r, st⟩
    · simpa only [after, hi] using hs
    · simpa only [after, hi] using hstep i fault r st rfl hi

end Pool

end Moebius
