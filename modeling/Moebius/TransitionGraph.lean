import Moebius.ServerSteps

/-!
The transition graph of job statuses.

The statements of the server bypass the declared table `validTransitions` in places. `graph` is
what they really do in runs without a report of a failed update: it is contained in the table
but for held jobs that return to the queue and acknowledged jobs that end without ever having
been marked as running, and a job is never pending nor running.
-/

namespace Moebius

open Proc JobStatus

/-- The statuses a single statement can take a job to. -/
def graph : JobStatus → List JobStatus
  | queued => [dispatched, cdmHold, cancelled]
  | cdmHold => [queued, cancelled]
  | dispatched => [queued, acknowledged, cancelled]
  | acknowledged => [completed, failed, timedOut]
  | _ => []

/-- The two kinds of moves the declared table does not have. -/
def Deviation (s s' : JobStatus) : Prop :=
  s = cdmHold ∧ s' = queued ∨
    s = acknowledged ∧ (s' = completed ∨ s' = failed ∨ s' = timedOut)

def Live (s : JobStatus) : Prop := s ≠ pending ∧ s ≠ running

variable {s s' : JobStatus} {j j' : JobRow} {origin : Option String} {a b : Db}

lemma validateTransition_or_deviation (h : s' ∈ graph s) :
    validateTransition s s' = .ok () ∨ Deviation s s' := by
  simp only [validateTransition_ok_iff, Deviation]
  cases s <;> simp [graph] at h <;> rcases h with rfl | rfl | rfl <;> simp [validTransitions]

lemma not_validateTransition_of_deviation (h : Deviation s s') :
    validateTransition s s' ≠ .ok () := by
  rw [Ne, validateTransition_ok_iff]
  rcases h with ⟨rfl, rfl⟩ | ⟨rfl, rfl | rfl | rfl⟩ <;> simp [validTransitions]

lemma Move.edge (h : Move none j j') (hl : Live j.status) :
    j'.status = j.status ∨ j'.status ∈ graph j.status := by
  have hinflight : j.status = .acknowledged ∨ j.status = .running → j.status = .acknowledged :=
    fun h => h.resolve_right hl.2
  cases h with
  | stay => exact .inl rfl
  | reportFailed _ _ hr => cases hr
  | requeue hs | hold hs | release hs | dispatch _ hs | acknowledge _ hs => right; simp [hs, graph]
  | finish _ _ _ _ hs ht =>
    right
    rw [hinflight hs]
    rcases ht with rfl | rfl | rfl <;> simp [graph]
  | cancel _ hs =>
    right
    have hc : j.status ∈ cancellableStatuses := by simpa [isCancellable] using hs
    simp only [cancellableStatuses, List.mem_cons, List.not_mem_nil, or_false] at hc
    rcases hc with hc | hc | hc | hc
    · exact absurd hc hl.1
    all_goals simp [hc, graph]
  | timeOut _ _ hs =>
    right
    rw [hinflight hs]
    simp [graph]

lemma live_of_mem_graph (h : s' ∈ graph s) : Live s' := by
  cases s <;> simp [graph] at h <;> rcases h with rfl | rfl | rfl <;> simp [Live]

lemma Move.live (h : Move none j j') (hl : Live j.status) : Live j'.status := by
  rcases h.edge hl with he | he
  · rwa [he]
  · exact live_of_mem_graph he

lemma Fresh.live (h : Fresh j) : Live j.status := by
  rw [h.status]
  simp [Live]

def AllLive (db : Db) : Prop := ∀ id j, db.job? id = some j → Live j.status

lemma JobStep.allLive (h : JobStep none origin a b) (ha : AllLive a) : AllLive b :=
  h.all (P := fun j => Live j.status) (fun _ _ hm => hm.live) (fun _ hf => hf.live) ha

structure Followed (a b : Db) : Prop where
  kept : ∀ {id j}, a.job? id = some j → ∃ j', b.job? id = some j' ∧
    (j'.status = j.status ∨ j'.status ∈ graph j.status)
  new : ∀ {id j}, a.job? id = none → b.job? id = some j → j.status = queued
  live : ∀ {id j}, a.job? id = some j ∨ b.job? id = some j → Live j.status

lemma JobStep.followed (h : JobStep none origin a b) (ha : AllLive a) : Followed a b := by
  refine ⟨fun {id j} hj => ?_, fun {id j} hn hj => (h.new hn hj).1.status, fun {id j} hj =>
    hj.elim (ha id j) (h.allLive ha id j)⟩
  obtain ⟨j', hj', hm⟩ := h.kept hj
  exact ⟨j', hj', hm.edge (ha id j hj)⟩

/-- **The transition graph.** In a run that starts without jobs and in which no check-in reports a
failed update, every statement moves each job along `graph` or not at all, new jobs are queued, and
no job is pending or running; and `graph` is within the declared table but for two deviations. -/
theorem statement_follows_graph (cfg : ServerConfig) (db : Db) (hdb : db.jobs = .empty)
    (calls : List Call) (hrep : ∀ c ∈ calls, c.op.reported = none) :
    (∀ pre c post, calls = pre ++ c :: post →
      ∀ x ∈ c.statements cfg (runCalls cfg db pre), Followed x.1 x.2) ∧
    (∀ s s', s' ∈ graph s → validateTransition s s' = .ok () ∨ Deviation s s') ∧
    ∀ s s', Deviation s s' → s' ∈ graph s ∧ validateTransition s s' ≠ .ok () := by
  refine ⟨fun pre c post he x hx => ?_, fun s s' => validateTransition_or_deviation,
    fun s s' h => ⟨?_, not_validateTransition_of_deviation h⟩⟩
  · have hstep : ∀ c ∈ calls, ∀ a b, c.op.Step a b → JobStep none c.op.origin a b :=
      fun c hc a b hs => hrep c hc ▸ hs
    have hc : c ∈ calls := by rw [he]; simp
    have hstart : AllLive (runCalls cfg db pre) := by
      refine runCalls_invariant (fun c' hc' a b hs => (hstep c' ?_ a b hs).allLive)
        fun id j hj => ?_
      · rw [he]; exact List.mem_append_left _ hc'
      · rw [Db.job?, hdb] at hj; cases hj
    -- the invariant also holds between the statements of the call
    have hx1 : AllLive x.1 := (wp_steps_invariant (fun a b hs => (hstep c hc a b hs).allLive)
      (wp_proc cfg c.env c.op _) hstart c.faults x hx).1
    exact (hstep c hc _ _ (wp_steps (wp_proc cfg c.env c.op _) c.faults x hx)).followed hx1
  · rcases h with ⟨rfl, rfl⟩ | ⟨rfl, rfl | rfl | rfl⟩ <;> decide

open Sample in
theorem completedJob_follows_graph : (∀ c ∈ completedJob, c.op.reported = none) ∧
      ∀ x ∈ (call (create "d") 1 "j").statements cfg db,
        Followed x.1 x.2 :=
  ⟨by decide, (statement_follows_graph cfg db rfl completedJob
    (by decide)).1 [] _ _ rfl⟩

end Moebius
