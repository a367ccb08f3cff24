import Moebius.Devices
import Moebius.ServerSteps

/-!
Reading a job back.

`Get` scans `last_error` and `created_by` into plain strings, so it fails for a row in which one of
them is `NULL`. Every row the server creates has an author; an error text, be it empty, comes with
the end of a job unless the job is cancelled. The result is looked up only for a job that has
ended, and is the first one there is.
-/

namespace Moebius.Jobs

open Proc

variable {env : Env} {caller : Caller} {db : Db} {j : JobRow}

/-- `Get` answers with the row, and with any result that has been submitted. -/
def ReadsBack (env : Env) (caller : Caller) (db : Db) (j : JobRow) : Prop :=
  ∃ view, ((get env caller j.id).run [] db).1 = .ok 200 view ∧ view.row = j ∧
    ∀ r ∈ db.jobResults.select fun r => r.jobID = j.id, view.result = some r

/-! ### What the calls write -/

/-- The job has come to its end on the device, or was given up there. -/
def Ended (s : JobStatus) : Prop := s = .completed ∨ s = .failed ∨ s = .timedOut

/-- The job has an author, and an error text exactly if it has ended. -/
structure Written (j : JobRow) : Prop where
  createdBy : j.createdBy ≠ none
  lastError : j.lastError ≠ none ↔ Ended j.status

lemma Written.congr {j' : JobRow} (h : Written j) (hby : j'.createdBy = j.createdBy)
    (herror : j'.lastError = j.lastError) (hbefore : ¬ Ended j.status)
    (hafter : ¬ Ended j'.status) : Written j' := by
  refine ⟨hby ▸ h.createdBy, ?_⟩
  rw [herror, h.lastError]
  exact iff_of_false hbefore hafter

lemma Written.ended {j' : JobRow} (h : Written j) (hby : j'.createdBy = j.createdBy)
    (herror : j'.lastError ≠ none) (hafter : Ended j'.status) : Written j' :=
  ⟨hby ▸ h.createdBy, iff_of_true herror hafter⟩

/-- A job that moves on has not ended; only the moves that end it write the text. -/
lemma Written.move {reported : Option String} {j' : JobRow} (h : Written j)
    (hm : Move reported j j') : Written j' := by
  cases hm with
  | stay => exact h
  | reportFailed => exact h.ended rfl (Option.some_ne_none _) (.inr (.inl rfl))
  | finish _ _ _ _ _ ht => exact h.ended rfl (Option.some_ne_none _) ht
  | timeOut => exact h.ended rfl (Option.some_ne_none _) (.inr (.inr rfl))
  | requeue hs => exact h.congr rfl rfl (by simp [hs, Ended]) (by simp [Ended])
  | hold hs => exact h.congr rfl rfl (by simp [hs, Ended]) (by simp [Ended])
  | release hs => exact h.congr rfl rfl (by simp [hs, Ended]) (by simp [Ended])
  | dispatch _ hs => exact h.congr rfl rfl (by simp [hs, Ended]) (by simp [Ended])
  | acknowledge _ hs => exact h.congr rfl rfl (by simp [hs, Ended]) (by simp [Ended])
  | cancel _ hs =>
    refine h.congr rfl rfl ?_ (by simp [Ended])
    rintro (he | he | he) <;> simp [he, isCancellable, cancellableStatuses] at hs

def AllWritten (db : Db) : Prop := ∀ id j, db.job? id = some j → Written j

lemma AllWritten.step {reported origin : Option String} {a b : Db} (h : AllWritten a)
    (hs : JobStep reported origin a b) : AllWritten b := by
  intro id j hj
  rcases hid : a.job? id with _ | k
  · obtain ⟨hfresh, hchained⟩ := hs.new hid hj
    refine ⟨?_, by simp [hfresh.lastError, hfresh.status, Ended]⟩
    cases hchained with
    | root _ _ hby => exact hby
    | retry hparent hretry => exact hretry.createdBy ▸ (h _ _ hparent).createdBy
  · obtain ⟨k', hk', hm⟩ := hs.kept hid
    cases hj.symm.trans hk'
    exact (h id k hid).move hm

lemma allWritten_runCalls {cfg : ServerConfig} {calls : List Call}
    (h : ∀ k ∈ db.jobs.rows, Written k) : AllWritten (runCalls cfg db calls) :=
  runCalls_invariant (fun _ _ _ _ hs ha => ha.step hs)
    fun _ k hk => h k (Table.mem_of_get? hk)

/-! ### What `Get` answers -/

lemma run_outOfScope_unscoped (hcaller : caller.isAdmin = true ∨ caller.scope = none)
    (deviceID : String) : (outOfScope env caller deviceID).run [] db = (false, db) := by
  unfold outOfScope
  split
  · rfl
  · rw [hcaller.resolve_left (by assumption)]
    rfl

lemma run_get (hj : db.job? j.id = some j) (htenant : j.tenantID = caller.tenantID)
    (hcaller : caller.isAdmin = true ∨ caller.scope = none) :
    ((get env caller j.id).run [] db).1 =
      if scans j then .ok 200 ⟨j, if isTerminalStatus j.status then resultOf env j.id db else none⟩
      else .err 500 "failed to get job" := by
  have hread : tenantJob caller.tenantID j.id db = some j := by
    rw [tenantJob, hj, Option.filter_some, if_pos (by simpa using htenant)]
  simp only [get, bind_eq, run_nil_bind, run_nil_read, hread]
  rcases hs : scans j
  · rfl
  · simp only [Bool.not_true, Bool.false_eq_true, if_false, run_nil_bind,
      run_outOfScope_unscoped hcaller, if_true]
    split <;> rfl

lemma readsBack_iff {results : List JobResultRow}
    (hresults : (db.jobResults.select fun r => r.jobID = j.id) = results)
    (hj : db.job? j.id = some j) (htenant : j.tenantID = caller.tenantID)
    (hcaller : caller.isAdmin = true ∨ caller.scope = none) :
    ReadsBack env caller db j ↔ (j.lastError ≠ none ∧ j.createdBy ≠ none) ∧
      (results = [] ∨ isTerminalStatus j.status = true ∧ ∃ r, results = [r]) := by
  have hscans : scans j = true ↔ j.lastError ≠ none ∧ j.createdBy ≠ none := by
    simp [scans, Option.isSome_iff_ne_none]
  rw [← hscans, ReadsBack, run_get hj htenant hcaller, hresults]
  constructor
  · rintro ⟨view, hview, -, hall⟩
    split at hview
    · rename_i hs
      cases hview
      refine ⟨hs, ?_⟩
      have hnodup : results.Nodup := hresults ▸ (db.jobResults.nodup.of_map _).filter _
      rcases hres : results with _ | ⟨a, _ | ⟨b, more⟩⟩
      · exact .inl rfl
      · have ha := hall a (by rw [hres]; exact List.mem_cons_self)
        dsimp only at ha
        split at ha
        · exact .inr ⟨by assumption, a, rfl⟩
        · cases ha
      · have ha := hall a (by simp [hres])
        have hb := hall b (by simp [hres])
        cases Option.some.inj (ha.symm.trans hb)
        simp [hres] at hnodup
    · cases hview
  · rintro ⟨hs, hres⟩
    refine ⟨_, if_pos hs, rfl, fun r hr => ?_⟩
    rcases hres with hnil | ⟨hterminal, r', hone⟩
    · rw [hnil] at hr
      cases hr
    · rw [hone, List.mem_singleton] at hr
      have horder : env.scanResults.order results = [r'] :=
        List.perm_singleton.mp (hone ▸ env.scanResults.perm results)
      subst hr
      rw [if_pos hterminal]
      rw [resultOf, hresults]
      exact congrArg List.head? horder

lemma Written.readsBack_iff (h : Written j) (hj : db.job? j.id = some j)
    (htenant : j.tenantID = caller.tenantID)
    (hcaller : caller.isAdmin = true ∨ caller.scope = none) :
    ReadsBack env caller db j ↔ Ended j.status ∧
      (db.jobResults.select fun r => r.jobID = j.id).length ≤ 1 := by
  have hterminal (hended : Ended j.status) : isTerminalStatus j.status = true := by
    rcases hended with he | he | he <;> rw [he] <;> rfl
  rw [Jobs.readsBack_iff rfl hj htenant hcaller, h.lastError, and_iff_left h.createdBy]
  refine and_congr_right fun hended => ?_
  rw [hterminal hended, Nat.le_one_iff_eq_zero_or_eq_one, List.length_eq_zero_iff,
    List.length_eq_one_iff]
  simp

/-- **Reading back.** After any run of the server, an admin or an unscoped caller of the tenant
reads a job back exactly when its `last_error` and `created_by` are not `NULL`, and it has no
result, or has ended and has one. Where the jobs before the run have an author, and an error text
exactly if they have ended, the run keeps it so: then a job is read back exactly when it is
completed, failed or timed out and has at most one result. -/
theorem reads_back_iff (cfg : ServerConfig) (db : Db) (calls : List Call) (env : Env)
    (caller : Caller) (j : JobRow) (hj : (runCalls cfg db calls).job? j.id = some j)
    (htenant : j.tenantID = caller.tenantID)
    (hcaller : caller.isAdmin = true ∨ caller.scope = none) :
    let results := (runCalls cfg db calls).jobResults.select fun r => r.jobID = j.id
    (ReadsBack env caller (runCalls cfg db calls) j ↔
        (j.lastError ≠ none ∧ j.createdBy ≠ none) ∧
          (results = [] ∨ isTerminalStatus j.status = true ∧ ∃ r, results = [r])) ∧
      ((∀ k ∈ db.jobs.rows, Written k) → Written j ∧
        (ReadsBack env caller (runCalls cfg db calls) j ↔
          Ended j.status ∧ results.length ≤ 1)) := by
  intro results
  refine ⟨readsBack_iff rfl hj htenant hcaller, fun hdb => ?_⟩
  have hwritten : Written j := allWritten_runCalls hdb j.id j hj
  exact ⟨hwritten, hwritten.readsBack_iff hj htenant hcaller⟩

def completedRow : JobRow :=
  { id := "job_j", tenantID := "t", deviceID := "d", type := .exec, status := .completed
    payload := "run", createdBy := some "u", createdAt := 1, dispatchedAt := some 2
    acknowledgedAt := some 3, completedAt := some 4, lastError := some "" }

theorem completed_job_read_back : ReadsBack (Sample.env 5 "n") Sample.caller
    (runCalls Sample.cfg Sample.db Sample.completedJob) completedRow :=
  ((reads_back_iff Sample.cfg Sample.db Sample.completedJob (Sample.env 5 "n") Sample.caller
    completedRow (by decide) rfl (.inl rfl)).2 (by simp [Sample.db, Table.empty])).2.mpr
      ⟨.inl rfl, by decide⟩

/-- A job that has just been created is there, and `Get` fails. -/
theorem created_job_unreadable :
    let db := runCalls Sample.cfg Sample.db [Sample.call (Sample.create "d") 1 "j"]
    (db.job? "job_j").isSome ∧ ((get (Sample.env 2 "k") Sample.caller "job_j").run [] db).1 =
      .err 500 "failed to get job" :=
  ⟨by decide, rfl⟩

end Moebius.Jobs
