import Moebius.Reports

/-!
Terminal statuses along a run.

Every writer of the job table leaves a job alone once it has completed, failed, timed out or been
cancelled, with one exception: the report of a failed update inside a check-in overwrites any status
but `failed`.
-/

namespace Moebius

open Proc

/-- The check-in reports as failed a job of its tenant that has ended, but not by failing. -/
def Call.ReportsFinished (db : Db) (c : Call) : Prop :=
  ∃ who req j, c.report db = some (who, req) ∧ db.job? req.status.lastUpdateJobID = some j ∧
    j.tenantID = who.tenantID ∧ isTerminalStatus j.status = true ∧ j.status ≠ .failed

/-- Along the run, a job that has reached a terminal status keeps it. -/
def TerminalAbsorbing (cfg : ServerConfig) (db : Db) (calls : List Call) : Prop :=
  ∀ pre mid post, calls = pre ++ mid ++ post → ∀ id j,
    (runCalls cfg db pre).job? id = some j → isTerminalStatus j.status = true →
      ∃ j', (runCalls cfg db (pre ++ mid)).job? id = some j' ∧ j'.status = j.status

def HasStatus (id : String) (s : JobStatus) (db : Db) : Prop :=
  ∃ j, db.job? id = some j ∧ j.status = s

/-- Apart from a report, no move leaves a terminal status. -/
lemma Move.terminal {j j' : JobRow} (h : Move none j j') (ht : isTerminalStatus j.status = true) :
    j'.status = j.status := by
  have hne : ∀ s, isTerminalStatus s = false → j.status ≠ s := by
    intro s hs he
    rw [he, hs] at ht
    cases ht
  cases h with
  | stay => rfl
  | reportFailed _ _ hr => cases hr
  | requeue hs | hold hs | release hs | dispatch _ hs
  | acknowledge _ hs => exact absurd hs (hne _ rfl)
  | finish _ _ _ _ hs => exact (hs.elim (hne _ rfl) (hne _ rfl)).elim
  | cancel _ hs => rw [not_cancellable_of_terminal ht] at hs; cases hs
  | timeOut _ _ hs => exact (hs.elim (hne _ rfl) (hne _ rfl)).elim

lemma JobStep.hasStatus {origin : Option String} {a b : Db} (h : JobStep none origin a b)
    {id : String} {s : JobStatus} (ht : isTerminalStatus s = true) (ha : HasStatus id s a) :
    HasStatus id s b := by
  refine h.keeps (fun j j' hm hj => ?_) ha
  rw [hm.terminal (by rw [hj, ht]), hj]

variable {cfg : ServerConfig} {db : Db} {c : Call} {id : String} {s : JobStatus}

lemma after_hasStatus (h : ¬ c.ReportsFinished db) (ht : isTerminalStatus s = true)
    (hs : HasStatus id s db) : HasStatus id s (c.after cfg db) := by
  rcases hrep : c.report db with _ | ⟨who, req⟩
  · exact after_invariant_of_report_none cfg hrep (fun a b hstep => hstep.hasStatus ht) hs
  refine after_invariant_of_report cfg hrep (fun a b hstep => hstep.hasStatus ht) ?_
  obtain ⟨j, hj, rfl⟩ := hs
  refine ⟨_, by rw [Db.reported, Db.job?_updateJobs]; exact congrArg _ hj, ?_⟩
  simp only [JobUpdate.onRow]
  split
  · rename_i hc
    -- the report meets a terminal status, so it meets `failed`
    by_contra hne
    exact h ⟨who, req, j, hrep, hc.1 ▸ (show j.id = id from Table.key_of_get? hj) ▸ hj, hc.2.1, ht,
      hc.2.2⟩
  · rfl

lemma Call.ReportsFinished.after (h : c.ReportsFinished db) (cfg : ServerConfig) :
    ∃ id j, db.job? id = some j ∧ isTerminalStatus j.status = true ∧
      ∀ j', (c.after cfg db).job? id = some j' → j'.status ≠ j.status := by
  obtain ⟨who, req, j, hrep, hj, htenant, ht, hne⟩ := h
  refine ⟨req.status.lastUpdateJobID, j, hj, ht, fun j' hj' he => ?_⟩
  have hfailed : HasStatus req.status.lastUpdateJobID .failed (c.after cfg db) := by
    refine after_invariant_of_report cfg hrep (fun a b hstep => hstep.hasStatus rfl) ?_
    refine ⟨_, by rw [Db.reported, Db.job?_updateJobs]; exact congrArg _ hj, ?_⟩
    have hid : j.id = req.status.lastUpdateJobID := Table.key_of_get? hj
    simp [JobUpdate.onRow, hid, htenant, hne]
  obtain ⟨k, hk, hs⟩ := hfailed
  cases hj'.symm.trans hk
  exact hne (he ▸ hs)

lemma runCalls_hasStatus {calls : List Call}
    (h : ∀ pre c post, calls = pre ++ c :: post → ¬ c.ReportsFinished (runCalls cfg db pre))
    (ht : isTerminalStatus s = true) (hs : HasStatus id s db) :
    HasStatus id s (runCalls cfg db calls) := by
  induction calls generalizing db with
  | nil => exact hs
  | cons c calls ih =>
    refine ih (fun pre c' post he => ?_) (after_hasStatus (h [] c calls rfl) ht hs)
    rw [← runCalls_cons]
    exact h (c :: pre) c' post (by rw [he, List.cons_append])

/-- **Terminal statuses.** A run keeps every terminal status exactly when no check-in of it
reports, as a failed update, a job of its tenant that has completed, timed out or been cancelled
by then. -/
theorem terminalAbsorbing_iff (cfg : ServerConfig) (db : Db) (calls : List Call) :
    TerminalAbsorbing cfg db calls ↔
      ∀ pre c post, calls = pre ++ c :: post → ¬ c.ReportsFinished (runCalls cfg db pre) := by
  constructor
  · intro h pre c post he hrep
    obtain ⟨id, j, hj, ht, hne⟩ := hrep.after cfg
    obtain ⟨j', hj', hs⟩ := h pre [c] post (by rw [he]; simp) id j hj ht
    rw [runCalls_append] at hj'
    exact hne j' hj' hs
  · intro h pre mid post he id j hj ht
    rw [runCalls_append]
    refine runCalls_hasStatus (fun pre' c post' he' => ?_) ht ⟨j, hj, rfl⟩
    rw [← runCalls_append]
    exact h (pre ++ pre') c (post' ++ post) (by rw [he, he']; simp)

/-- A job that has completed is reported as a failed update. -/
theorem completed_job_revived : ¬ TerminalAbsorbing Sample.cfg Sample.db
    (Sample.completedJob ++ [Sample.call
      (Sample.checkin "d" { lastUpdateFailed := true, lastUpdateJobID := "job_j" }) 5 "n"]) := by
  intro h
  have hbefore : ((runCalls Sample.cfg Sample.db Sample.completedJob).job? "job_j").map
      (·.status) = some .completed := by decide
  obtain ⟨j, hj, hs⟩ := Option.map_eq_some_iff.mp hbefore
  obtain ⟨j', hj', hs'⟩ := h _ _ [] (List.append_nil _).symm _ j hj (by rw [hs]; rfl)
  have hafter : ((runCalls Sample.cfg Sample.db (Sample.completedJob ++ [Sample.call
      (Sample.checkin "d" { lastUpdateFailed := true, lastUpdateJobID := "job_j" }) 5 "n"])).job?
      "job_j").map (·.status) = some .failed := by decide
  rw [hj', Option.map_some, hs', hs] at hafter
  cases hafter

end Moebius
