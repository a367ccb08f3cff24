import Moebius.Concurrent
import Moebius.Reports
import Moebius.Retries
import Moebius.Runs

/-!
Failures that are not retried.

A job becomes failed or timed out on three paths: by a result its agent submits, by the reaper, and
by a check-in that reports a failed update. Only the first makes a retry.
-/

namespace Moebius

open Proc AgentJobs Option JobUpdate Call Db Scheduler Table Checkin

/-- The call takes the job, which has retries left, to a status that calls for a retry. -/
def Call.FailsRetryable (cfg : ServerConfig) (db : Db) (c : Call) (j : JobRow) : Prop :=
  db.job? j.id = some j ∧ j.retryCount < j.maxRetries ∧
    ∃ j', (c.after cfg db).job? j.id = some j' ∧ isRetryable j'.status = true ∧
      j'.status ≠ j.status

/-- Whichever call of the run fails such a job, the run makes exactly one retry of it. -/
def EveryFailureRetried (cfg : ServerConfig) (db : Db) (calls : List Call) : Prop :=
  ∀ pre c post, calls = pre ++ c :: post → ∀ j, c.FailsRetryable cfg (runCalls cfg db pre) j →
    (retriesOf cfg db calls j.id).length = 1

def StuckInflight (cfg : ServerConfig) (now : Time) (j : JobRow) : Prop :=
  (j.status = .acknowledged ∨ j.status = .running) ∧
    sqlLt (j.startedAt.or j.acknowledgedAt)
      (now - (timeouts cfg.scheduler).inflightTimeout) = true

/-- The reaper and the report of a failed update meet no job with retries left. -/
def Call.SparesRetries (cfg : ServerConfig) (db : Db) (c : Call) : Prop :=
  match c.op with
  | .reapInflight =>
    ∀ j ∈ db.jobs.rows, StuckInflight cfg c.env.now j → j.maxRetries ≤ j.retryCount
  | .checkin (some cert) (some req) =>
    ∀ who ∈ admitted (Op.authTime c.env) cert db, ∀ j ∈ db.jobs.rows,
      req.reported = some j.id → j.tenantID = who.tenantID → j.status ≠ .failed →
        j.maxRetries ≤ j.retryCount
  | _ => True

/-- The row meets the constraints of the table of jobs. -/
structure JobRow.Sound (db : Db) (j : JobRow) : Prop where
  tenant : (db.tenants.get? j.tenantID).isSome
  device : (db.devices.get? j.deviceID).isSome
  author : j.createdBy.all fun u => (db.users.get? u).isSome
  count : Int4 j.retryCount
  limit : Int4 j.maxRetries

/-- No statement of the call fails, the rows of the jobs meet their constraints, and the identifier
the call draws for a job is a new one. -/
structure Call.Faultless (db : Db) (c : Call) : Prop where
  clean : true ∉ c.faults
  sound : ∀ j ∈ db.jobs.rows, j.Sound db
  fresh : db.job? (c.env.newJobID 0) = none

instance (db : Db) (j : JobRow) : Decidable (j.Sound db) :=
  decidable_of_iff
    ((db.tenants.get? j.tenantID).isSome ∧ (db.devices.get? j.deviceID).isSome ∧
      (j.createdBy.all fun u => (db.users.get? u).isSome) ∧ Int4 j.retryCount ∧ Int4 j.maxRetries)
    ⟨fun h => ⟨h.1, h.2.1, h.2.2.1, h.2.2.2.1, h.2.2.2.2⟩,
      fun h => ⟨h.tenant, h.device, h.author, h.count, h.limit⟩⟩

instance (db : Db) (c : Call) : Decidable (c.Faultless db) :=
  decidable_of_iff
    (true ∉ c.faults ∧ (∀ j ∈ db.jobs.rows, j.Sound db) ∧ db.job? (c.env.newJobID 0) = none)
    ⟨fun h => ⟨h.1, h.2.1, h.2.2⟩, fun h => ⟨h.clean, h.sound, h.fresh⟩⟩

/-! ### Who fails jobs -/

/-- Every job that is failed or timed out in `b` was so in `a`, but for the reported job, which is
given by its identifier and its tenant. -/
def Fails (reported : Option (String × String)) (a b : Db) : Prop :=
  ∀ id j', b.job? id = some j' → isRetryable j'.status = true →
    (∃ j, a.job? id = some j ∧ SameJob j j' ∧ j.status = j'.status) ∨
      j'.status = .failed ∧ reported = some (j'.id, j'.tenantID)

variable {reported : Option (String × String)}

section

variable {a b c : Db}

lemma fails_of_jobs_eq (h : b.jobs = a.jobs) : Fails reported a b := by
  intro id j' hj' _
  refine .inl ⟨j', ?_, .refl j', rfl⟩
  rw [job?, ← h]
  exact hj'

lemma Fails.refl (a : Db) : Fails reported a a := fails_of_jobs_eq rfl

lemma Fails.trans (h : Fails reported a b) (h' : Fails reported b c) : Fails reported a c := by
  intro id k hk hs
  rcases h' id k hk hs with ⟨j', hj', hsame', hs'⟩ | hrep
  · rcases h id j' hj' (hs' ▸ hs) with ⟨j, hj, hsame, hs''⟩ | ⟨hfailed, hrep⟩
    · exact .inl ⟨j, hj, hsame.trans hsame', hs''.trans hs'⟩
    · exact .inr ⟨hs' ▸ hfailed, by rw [hsame'.id, hsame'.tenantID, hrep]⟩
  · exact .inr hrep

lemma fails_insertJob {row : JobRow} (h : a.insertJob row = some b) (hs : row.status = .queued) :
    Fails reported a b := by
  obtain ⟨⟨jobs, hins, rfl⟩, -⟩ := insertJob_eq_some h
  intro id j' hj' hr
  have hget := get?_insert hins id
  rw [show jobs.get? id = some j' from hj'] at hget
  split at hget
  · cases hget
    rw [hs] at hr
    cases hr
  · exact .inl ⟨j', hget.symm, .refl j', rfl⟩

lemma fails_update {u : JobUpdate}
    (h : ∀ j, isRetryable (u.onRow j).status = true → (u.onRow j).status = j.status ∨
      (u.onRow j).status = .failed ∧ reported = some (j.id, j.tenantID)) (a : Db) :
    Fails reported a (a.updateJobs u) := by
  intro id j' hj' hr
  rw [job?_updateJobs] at hj'
  obtain ⟨j, hj, rfl⟩ := map_eq_some_iff.mp hj'
  rcases h j hr with hs | ⟨hs, hrep⟩
  · exact .inl ⟨j, hj, onRow_same u j, hs.symm⟩
  · exact .inr ⟨hs, by simpa using hrep⟩

lemma spared_ite {p : Prop} [Decidable p] {j j' : JobRow} (h : isRetryable j'.status = false) :
    (if p then j' else j).status = j.status ∨ isRetryable (if p then j' else j).status = false := by
  split
  · exact .inr h
  · exact .inl rfl

lemma fails_update_of_spared {u : JobUpdate}
    (h : ∀ j, (u.onRow j).status = j.status ∨ isRetryable (u.onRow j).status = false) (a : Db) :
    Fails reported a (a.updateJobs u) := by
  refine fails_update (fun j hr => ?_) a
  rcases h j with hs | hs
  · exact .inl hs
  · cases hs.symm.trans hr

end

section

variable (env : Env)

lemma fails_log (db : Db) (log : Table AuditRow.id) :
    Fails reported db { db with auditLog := log } := fails_of_jobs_eq rfl

lemma fails_root {tenantID : String} {row : JobRow} {a b : Db} (hf : Fresh row)
    (_ : row.parentJobID = none) (_ : row.tenantID = tenantID) (_ : row.createdBy ≠ none)
    (h : a.insertJob row = some b) : Fails reported a b := fails_insertJob h hf.status

variable (quota : Option Jobs.Defaults) (caller : Caller) (deviceID jobID : String)

lemma each_fails_retry : (Jobs.retry env quota caller jobID).Each (Fails reported) := by
  refine each_bind (each_reading fails_log (readOnly_read _)) fun r => ?_
  rcases r with _ | _ | j
  · trivial
  · trivial
  refine each_bind (each_reading fails_log (readOnly_outOfScope env _ _)) fun out => ?_
  split
  · trivial
  split
  swap
  · trivial
  refine each_bind (each_reading fails_log (readOnly_checkQueuedJobs _ _ _)) fun r => ?_
  rcases r with e | _
  · trivial
  refine each_bind (each_insertJob fails_log fun a b h => fails_insertJob h rfl) fun ok => ?_
  cases ok
  · trivial
  · exact each_bind (each_logAction fails_log) fun _ => trivial

lemma each_fails_revoke {body : Option String} :
    (Jobs.revoke env caller deviceID body).Each (Fails reported) := by
  refine each_revoke fails_log body fun reason db db' h => ?_
  obtain ⟨-, rfl⟩ := revokeDevice_eq_some h
  exact (fails_of_jobs_eq rfl).trans (fails_update_of_spared
    (u := .cancelDevice deviceID caller.tenantID) (fun j => spared_ite rfl) _)

end

section

variable (env : Env)

lemma each_fails_serveHTTP {who : AgentIdentity} {req : CheckinRequest} :
    (serveHTTP env who (some req)).Each
      (Fails (req.reported.map fun id => (id, who.tenantID))) := by
  refine each_bind (each_fetch (fun _ _ => fails_of_jobs_eq) env who (some req)
    fun req' he u hu _ => ?_) fun r => ?_
  · cases he
    cases hu with
    | reportFailed h =>
      refine fails_update fun j hr => ?_
      simp only [onRow]
      split
      · rename_i hc
        have hrep : req.reported = some req.status.lastUpdateJobID :=
          if_pos (AgentStatus.reported_ne_none.mp h)
        exact .inr ⟨rfl, by rw [hrep, hc.1, hc.2.1]; rfl⟩
      · exact .inl rfl
    | requeueStale | holdQueued
    | releaseHeld => exact fails_update_of_spared fun j => spared_ite rfl
  · rcases r with r | js
    · trivial
    exact each_respond fun k _ => fails_update_of_spared fun j => spared_ite rfl

end

variable {j : JobRow} {c : Call}

section

variable {cfg : ServerConfig} {db : Db}

lemma fails_run {α : Type} {p : Proc Db α} (h : p.Each (Fails reported)) {fs : List Bool} :
    Fails reported db (p.run fs db).2 :=
  wp_rel Fails.refl (fun _ _ _ h h' => h.trans h') (wp_of_each h db) fs

inductive FailurePath (cfg : ServerConfig) (db : Db) (c : Call) (j : JobRow) : Prop
  | result (cert : Option ClientCert) (jobID : String) (body : Option JobResultSubmission)
      (hop : c.op = .submitResult cert jobID body)
  | reaper (hop : c.op = .reapInflight) (h : StuckInflight cfg c.env.now j)
  | report (cert : ClientCert) (req : CheckinRequest) (who : AgentIdentity)
      (hop : c.op = .checkin (some cert) (some req))
      (hwho : admitted (Op.authTime c.env) cert db = some who) (hrep : req.reported = some j.id)
      (htenant : j.tenantID = who.tenantID) (hs : j.status ≠ .failed)

lemma not_fails_of_none (hfail : c.FailsRetryable cfg db j) (h : Fails none db (c.after cfg db)) :
    False := by
  obtain ⟨hj, -, j', hj', hr, hne⟩ := hfail
  rcases h j.id j' hj' hr with ⟨k, hk, -, hs⟩ | ⟨-, hrep⟩
  · cases hj.symm.trans hk
    exact hne hs.symm
  · cases hrep

lemma failurePath_reaper (hfail : c.FailsRetryable cfg db j) (hop : c.op = .reapInflight) :
    FailurePath cfg db c j := by
  refine .reaper hop ?_
  obtain ⟨hj, -, j', hj', -, hne⟩ := hfail
  have hafter : c.after cfg db = if c.faults.headD false then db else db.updateJobs
      (.reapInflight c.env.now
        (c.env.now - (timeouts cfg.scheduler).inflightTimeout)) := by
    simp only [after, hop, Op.proc, reapStuckInflightJobs, bind_eq, pure_eq, run_map]
    exact congrArg Prod.snd (run_stmt _ _ _ _ _) |>.trans (by split <;> simp)
  by_contra hstuck
  have hsame : j' = j := by
    rw [hafter] at hj'
    split at hj'
    · exact some.inj (hj'.symm.trans hj)
    · rw [job?_updateJobs, hj, map_some] at hj'
      cases hj'
      exact if_neg hstuck
  exact hne (by rw [hsame])

lemma failurePath_checkin (hfail : c.FailsRetryable cfg db j) {cert : Option ClientCert}
    {body : Option CheckinRequest} (hop : c.op = .checkin cert body) : FailurePath cfg db c j := by
  have hafter : c.after cfg db = _ := after_checkin cfg hop
  rcases cert with _ | cert
  · exact (not_fails_of_none hfail (by rw [hafter]; exact .refl db)).elim
  by_cases hno : admitted (Op.authTime c.env) cert db = none ∨ c.faults.headD false = true
  · exact (not_fails_of_none hfail (by
      obtain ⟨n, code, msg, hrun⟩ := run_authenticate_refused _ _ hno
      rw [hafter, hrun]
      exact .refl db)).elim
  obtain ⟨hadm, hf⟩ := not_or.mp hno
  obtain ⟨who, hwho⟩ := ne_none_iff_exists'.mp hadm
  rw [run_authenticate hwho (Bool.eq_false_of_not_eq_true hf)] at hafter
  rcases body with _ | req
  · refine (not_fails_of_none hfail ?_).elim
    rw [hafter]
    refine fails_run ?_
    unfold serveHTTP fetch
    split <;> trivial
  have hfails : Fails (req.reported.map fun id => (id, who.tenantID)) db (c.after cfg db) := by
    rw [hafter]
    exact fails_run (each_fails_serveHTTP c.env)
  obtain ⟨hj, -, j', hj', hr, hne⟩ := hfail
  rcases hfails j.id j' hj' hr with ⟨k, hk, -, hs⟩ | ⟨hfailed, hrep⟩
  · cases hj.symm.trans hk
    exact absurd hs.symm hne
  · obtain ⟨id, hid, hpair⟩ := map_eq_some_iff.mp hrep
    obtain ⟨k, hk, hsame⟩ := runCalls_same cfg hj [c]
    rw [runCalls_cons, runCalls_nil, hj'] at hk
    cases hk
    rw [hsame.id, hsame.tenantID] at hpair
    obtain ⟨rfl, htenant⟩ := Prod.mk.inj hpair
    exact .report cert req who hop hwho hid htenant.symm fun hs => hne (hfailed.trans hs.symm)

/-- **Every failure** of a job with retries left is on one of the three paths. -/
lemma failurePath_of_fails (hfail : c.FailsRetryable cfg db j) : FailurePath cfg db c j := by
  have hother : ∀ op, c.op = op → ((op.proc cfg c.env).Each (Fails none)) →
      FailurePath cfg db c j := by
    intro op hop h
    refine (not_fails_of_none hfail ?_).elim
    rw [after, hop]
    exact fails_run h
  cases hop : c.op with
  | create caller body =>
    exact hother _ hop (each_bind (each_create _ fails_log fails_root rfl body) fun _ => trivial)
  | retry caller jobID =>
    exact hother _ hop (each_bind (each_fails_retry c.env _ caller jobID) fun _ => trivial)
  | cancel caller jobID =>
    exact hother _ hop (each_bind (each_cancel fails_log
      (fails_update_of_spared fun j => spared_ite rfl)) fun _ => trivial)
  | rollback caller deviceID reason payload =>
    exact hother _ hop
      (each_bind (each_rollback fails_log fails_root rfl reason payload) fun _ => trivial)
  | revoke caller deviceID body =>
    exact hother _ hop (each_bind (each_fails_revoke c.env caller deviceID) fun _ => trivial)
  | dispatchScheduled sj =>
    exact hother _ hop
      (each_bind (each_scheduled fails_log fails_root rfl) fun _ => trivial)
  | checkin cert body => exact failurePath_checkin hfail hop
  | acknowledge cert jobID =>
    exact hother _ hop (each_bind (each_authenticate cert Fails.refl (fun who => each_acknowledge
      fails_log (fails_update_of_spared fun j => spared_ite rfl)) _) fun _ => trivial)
  | submitResult cert jobID body => exact .result cert jobID body hop
  | reapDispatched =>
    exact hother _ hop
      (each_bind (each_exec (fails_update_of_spared fun j => spared_ite rfl)) fun _ => trivial)
  | reapInflight => exact failurePath_reaper hfail hop
  | outside o =>
    exact hother _ hop
      (each_bind (each_exec fun db => fails_of_jobs_eq (o.jobs db)) fun _ => trivial)

lemma submitResult_of_spares (hfail : c.FailsRetryable cfg db j) (h : c.SparesRetries cfg db) :
    ∃ cert jobID body, c.op = .submitResult cert jobID body := by
  have hmem : j ∈ db.jobs.rows := mem_of_get? hfail.1
  have hlt := hfail.2.1
  cases failurePath_of_fails hfail with
  | result cert jobID body hop => exact ⟨cert, jobID, body, hop⟩
  | reaper hop hstuck =>
    simp only [SparesRetries, hop] at h
    have := h j hmem hstuck
    omega
  | report cert req who hop hwho hrep htenant hs =>
    simp only [SparesRetries, hop] at h
    have := h who hwho j hmem hrep htenant hs
    omega

end

/-! ### Results without faults -/

/-- The tables a new job refers to are as they were. -/
structure Aside (a b : Db) : Prop where
  jobs : b.jobs = a.jobs
  tenants : b.tenants = a.tenants
  users : b.users = a.users
  devices : b.devices = a.devices

variable {target : JobStatus}

section

variable {a b c : Db} (env : Env)

lemma Aside.refl (a : Db) : Aside a a := ⟨rfl, rfl, rfl, rfl⟩

lemma Aside.trans (h : Aside a b) (h' : Aside b c) : Aside a c :=
  ⟨h'.jobs.trans h.jobs, h'.tenants.trans h.tenants, h'.users.trans h.users,
    h'.devices.trans h.devices⟩

lemma InventoryStep.aside {D : String} (h : InventoryStep D a b) : Aside a b := by
  rw [h.eq]
  exact ⟨rfl, rfl, rfl, rfl⟩

lemma aside_run {α : Type} {p : Proc Db α} (h : p.Each Aside) (db : Db) :
    Aside db (p.run [] db).2 :=
  wp_rel Aside.refl (fun _ _ _ h h' => h.trans h') (wp_of_each h db) []

variable {who : AgentIdentity} {db : Db}

lemma JobRow.Sound.congr (h : j.Sound a) (ht : b.tenants = a.tenants) (hu : b.users = a.users)
    (hd : b.devices = a.devices) : j.Sound b where
  tenant := by rw [ht]; exact h.tenant
  device := by rw [hd]; exact h.device
  author := by rw [hu]; exact h.author
  count := h.count
  limit := h.limit

lemma run_createRetryJob (hj : db.job? j.id = some j) (hown : Own who j) (hsound : j.Sound db)
    (hlt : j.retryCount < j.maxRetries) (hfresh : db.job? (env.newJobID 0) = none) :
    db.jobs.insert (retryRow env 0 who j.id j.type (j.retryCount + 1) j.maxRetries j) =
      some ((createRetryJob env who j.id j.type (j.retryCount + 1) j.maxRetries).run [] db).2.jobs
      := by
  have hrow : ∃ jobs, db.jobs.insert
      (retryRow env 0 who j.id j.type (j.retryCount + 1) j.maxRetries j) = some jobs :=
    exists_insert hfresh
  obtain ⟨jobs, hins⟩ := hrow
  have hcount : Int4 (j.retryCount + 1) := by
    obtain ⟨hlo, -⟩ := hsound.count
    obtain ⟨-, hhi⟩ := hsound.limit
    constructor <;> omega
  have hparent : (db.jobs.get? j.id).isSome := by
    rw [show db.jobs.get? j.id = some j from hj]
    rfl
  have hdb : db.insertJob (retryRow env 0 who j.id j.type (j.retryCount + 1) j.maxRetries j) =
      some { db with jobs } := by
    have hc : (db.tenants.get? who.tenantID).isSome ∧ (db.devices.get? who.agentID).isSome ∧
        (some j.id).all (fun p => (db.jobs.get? p).isSome) ∧
        j.createdBy.all (fun u => (db.users.get? u).isSome) ∧
        Int4 (j.retryCount + 1) ∧ Int4 j.maxRetries :=
      ⟨hown.2 ▸ hsound.tenant, hown.1 ▸ hsound.device, hparent, hsound.author, hcount,
        hsound.limit⟩
    rw [insertJob, hins]
    exact if_pos hc
  simp only [createRetryJob, bind_eq, run_nil_bind, run_nil_read, hj, run_nil_attempt, hdb,
    getD_some, pure_eq, run_done, hins]

variable {req : JobResultSubmission}

lemma run_afterResult {j' : JobRow} (hj : db.job? j.id = some j') (hsame : SameJob j j')
    (hown : Own who j) (hsound : j.Sound db)
    (hr : shouldRetry target j.retryCount j.maxRetries = true)
    (hfresh : db.job? (env.newJobID 0) = none) :
    db.jobs.insert (retryRow env 0 who j.id j.type (j.retryCount + 1) j.maxRetries j) =
      some ((afterResult env who j.id req target j).run [] db).2.jobs := by
  have h1 : Aside db ((storeInventory env who req target j).run [] db).2 :=
    aside_run (each_mono (fun _ _ => InventoryStep.aside) each_storeInventory) db
  have h2 := aside_run (p := logAction env who.tenantID who.agentID "agent" "job.result" "job" j.id
    [("status", target.text)]) (each_logAction fun _ _ => ⟨rfl, rfl, rfl, rfl⟩)
    ((storeInventory env who req target j).run [] db).2
  simp only [afterResult, retryIfAllowed, hr, if_true, bind_eq, run_nil_bind, pure_eq, run_done]
  generalize ((logAction env who.tenantID who.agentID "agent" "job.result" "job" j.id
    [("status", target.text)]).run [] ((storeInventory env who req target j).run [] db).2).2 = db'
    at h2
  have h := h1.trans h2
  have hjob : ∀ id, db'.job? id = db.job? id := fun id => by rw [job?, h.jobs]; rfl
  obtain ⟨-, hlt⟩ : isRetryable target = true ∧ j.retryCount < j.maxRetries := by
    simpa [shouldRetry] using hr
  have hsound' : j'.Sound db' := by
    obtain ⟨ht, hd, ha, hc, hl⟩ := hsound.congr h.tenants h.users h.devices
    refine ⟨?_, ?_, ?_, ?_, ?_⟩
    · rwa [hsame.tenantID]
    · rwa [hsame.deviceID]
    · rwa [hsame.createdBy]
    · rwa [hsame.retryCount]
    · rwa [hsame.maxRetries]
  have hrun := run_createRetryJob env (by rw [hjob, hsame.id, hj])
    (⟨hsame.deviceID.trans hown.1, hsame.tenantID.trans hown.2⟩ : Own who j') hsound'
    (by rw [hsame.retryCount, hsame.maxRetries]; exact hlt) (by rw [hjob, hfresh])
  rwa [hsame.id, hsame.type, hsame.retryCount, hsame.maxRetries, retryRow_same hsame, h.jobs]
    at hrun

lemma run_recordResult (hj : db.job? j.id = some j) (hown : Own who j) (hsound : j.Sound db)
    (hr : shouldRetry target j.retryCount j.maxRetries = true)
    (hfresh : db.job? (env.newJobID 0) = none) :
    ((recordResult env who j.id req target j).run [] db).2.jobs = db.jobs ∨
      (db.updateJobs (.finish j.id target env.now req.message req.startedAt)).jobs.insert
        (retryRow env 0 who j.id j.type (j.retryCount + 1) j.maxRetries j) =
          some ((recordResult env who j.id req target j).run [] db).2.jobs := by
  rw [recordResult, bind_eq, run_nil_bind, run_nil_attempt]
  generalize hins : insertResult _ db = stored
  rcases stored with _ | db1
  · exact .inl rfl
  right
  have haside : Aside db db1 := by
    obtain ⟨-, t, -, rfl⟩ := eq_some_of_guard hins
    exact ⟨rfl, rfl, rfl, rfl⟩
  have hjobs : (db1.updateJobs (.finish j.id target env.now req.message req.startedAt)).jobs =
      (db.updateJobs (.finish j.id target env.now req.message req.startedAt)).jobs := by
    simp only [updateJobs, haside.jobs]
  have hjob : ∀ id, db1.job? id = db.job? id := fun id => by rw [job?, haside.jobs]; rfl
  simp only [isSome_some, if_true, getD_some, bind_eq, run_nil_bind, run_nil_exec]
  rw [← hjobs]
  refine run_afterResult env (by rw [job?_updateJobs, hjob, hj, map_some])
    (onRow_same _ j) hown (hsound.congr haside.tenants haside.users haside.devices) hr ?_
  rw [job?_updateJobs, hjob, hfresh, map_none]

end

section

variable {cfg : ServerConfig} {db : Db} {k : JobRow} {jobID : String}

lemma validate_of_inflight {s : JobStatus} (hs : s = .acknowledged ∨ s = .running)
    (ht : target = .completed ∨ target = .failed ∨ target = .timedOut) :
    validateTransition (effectiveStatus s) target = .ok () := by
  rcases hs with rfl | rfl <;> rcases ht with rfl | rfl | rfl <;> rfl

lemma failed_by_finish (hfail : c.FailsRetryable cfg db k) {lastError : String} {now : Time}
    {startedAt : Option Time} (h : (c.after cfg db).job? k.id =
      (db.updateJobs (.finish jobID target now lastError startedAt)).job? k.id) :
    k.id = jobID ∧ isRetryable target = true := by
  obtain ⟨hk, -, k', hk', hr, hne⟩ := hfail
  rw [h, job?_updateJobs, hk, map_some] at hk'
  cases hk'
  simp only [onRow] at hr hne
  split at hne
  · rename_i hid
    rw [if_pos hid] at hr
    exact ⟨hid, hr⟩
  · exact absurd rfl hne

/-- **A result that fails a job with retries left** makes its retry, unless there is a fault. -/
lemma retried_of_faultless {cert : Option ClientCert} {body : Option JobResultSubmission}
    (hop : c.op = .submitResult cert jobID body) (hc : c.Faultless db)
    (hfail : c.FailsRetryable cfg db k) :
    ∃ row, c.retries cfg db = [row] ∧ row.parentJobID = some k.id := by
  have hafter : c.after cfg db = ((authenticate (Op.authTime c.env) cert fun who =>
      submitResult c.env who jobID body).run [] db).2 := by
    rw [after, hop, run_of_clean hc.clean]
    exact congrArg Prod.snd (run_map _ Answer.noBody _ _)
  rcases cert with _ | cert
  · exact (not_fails_of_none hfail (by rw [hafter]; exact .refl db)).elim
  rcases hwho : admitted (Op.authTime c.env) cert db with _ | who
  · exact (not_fails_of_none hfail (by
      obtain ⟨n, code, msg, hrun⟩ := run_authenticate_refused _ _ (.inl hwho)
      rw [hafter, hrun]
      exact .refl db)).elim
  rw [run_authenticate hwho rfl] at hafter
  have hrec : Recorded c.env who jobID body db (c.after cfg db) := by
    have hw : (submitResult c.env who jobID body).wp (AgentStep who none) _ db :=
      wp_submitResult c.env jobID body db
    rw [hafter]
    exact wp_run hw _
  rcases hrec with h | ⟨hbody, ht, hj, hs, h⟩ | ⟨hbody, ht, hj, hs, hr, h⟩
  · exact (not_fails_of_none hfail (fails_of_jobs_eq h)).elim
  · rename_i req target j
    obtain ⟨hrow, hown, rfl⟩ := agentJob_eq_some hj
    obtain ⟨hid, htarget⟩ := failed_by_finish hfail (by rw [job?, h]; rfl)
    obtain rfl : k = j := by
      have hk := hfail.1
      rw [hid, hrow] at hk
      exact (some.inj hk).symm
    have hlt := hfail.2.1
    have hr : shouldRetry target k.retryCount k.maxRetries = true := by
      simp [shouldRetry, htarget, hlt]
    have hrun : c.after cfg db = ((recordResult c.env who k.id req target k).run [] db).2 := by
      rw [hafter, hbody]
      simp only [submitResult, ht, bind_eq, run_nil_bind, List.tail_nil, run_nil_read, hj,
        validate_of_inflight hs (targetStatus_terminal ht)]
    rcases run_recordResult c.env hrow hown (hc.sound k (mem_of_get? hrow)) hr
      hc.fresh with hsame | hins
    · exact (not_fails_of_none hfail (fails_of_jobs_eq (by rw [hrun, hsame]))).elim
    · rw [← hrun] at hins
      exact ⟨_, retries_of_insert hop hins, rfl⟩
  · obtain ⟨hrow, hown, rfl⟩ := agentJob_eq_some hj
    refine ⟨_, retries_of_insert hop h, ?_⟩
    have hne : c.env.newJobID 0 ≠ k.id := by
      intro he
      have hk := hfail.1
      rw [← he, hc.fresh] at hk
      cases hk
    have hid := (failed_by_finish hfail ((get?_insert h k.id).trans (if_neg hne))).1
    rw [hid]
    rfl

/-- **Retries of failed jobs.** In a run without faults in which neither the reaper nor a report of
a failed update meets a job with retries left, every failure of a job with retries left is followed
by exactly one retry. -/
theorem failures_retried (cfg : ServerConfig) (db : Db) (calls : List Call)
    (h : Along (after cfg) (fun db c => c.Faultless db ∧ c.SparesRetries cfg db) calls db) :
    EveryFailureRetried cfg db calls := by
  rintro pre c post rfl j hfail
  have hstep : c.Faultless (runCalls cfg db pre) ∧ c.SparesRetries cfg (runCalls cfg db pre) :=
    (Along.append.mp h).2.1
  obtain ⟨hc, hspares⟩ := hstep
  obtain ⟨cert, jobID, body, hop⟩ := submitResult_of_spares hfail hspares
  obtain ⟨row, hone, hparent⟩ := retried_of_faultless hop hc hfail
  have hmem : row ∈ retriesOf cfg db (pre ++ c :: post) j.id := by
    rw [retriesOf, List.mem_filter]
    refine ⟨?_, by simpa using hparent⟩
    rw [automaticRetries_append, automaticRetries, hone]
    simp
  have hpos := List.length_pos_of_mem hmem
  have hle : (retriesOf cfg db (pre ++ c :: post) j.id).length ≤ 1 := length_retriesOf_le _ _
  omega

end

namespace Sample

def retryableJob : List Call :=
  [call (.create caller (some
      { type := "exec", target := { deviceIDs := ["d"] }, payload := "run"
        retryPolicy := some ⟨1, 600⟩ })) 1 "j",
    call (checkin "d" {}) 2 "k", call (acknowledge "d" "job_j") 3 "l"]

def failedJob : List Call := retryableJob ++ [call (result "d" "job_j" "failed") 4 "m"]

def reapedJob : List Call := retryableJob ++ [call .reapInflight (3700 * second) "m"]

lemma failedJob_spares : Along (after cfg)
    (fun db c => c.Faultless db ∧ c.SparesRetries cfg db) failedJob db :=
  ⟨⟨by decide, trivial⟩, ⟨by decide, fun _ _ _ _ h => by cases h⟩, ⟨by decide, trivial⟩,
    ⟨by decide, trivial⟩, trivial⟩

end Sample

open Moebius.Sample in
theorem failedJob_retried : EveryFailureRetried cfg db failedJob ∧
      (retriesOf cfg db failedJob "job_j").map (·.id) = ["job_m"] :=
  ⟨failures_retried _ _ _ failedJob_spares, by decide⟩

open Moebius.Sample in
/-- A job the reaper times out is not retried, although it has a retry left. -/
theorem reapedJob_not_retried : ¬ EveryFailureRetried cfg db reapedJob := by
  intro h
  have hbefore : ((runCalls cfg db retryableJob).job? "job_j").map
      (fun j => (j.id, j.status, j.retryCount, j.maxRetries)) =
        some ("job_j", .acknowledged, 0, 1) := by decide
  have hafter : ((runCalls cfg db reapedJob).job? "job_j").map (·.status) =
      some .timedOut := by decide
  have hnone : (retriesOf cfg db reapedJob "job_j").length = 0 := by decide
  obtain ⟨j, hj, he⟩ := map_eq_some_iff.mp hbefore
  obtain ⟨hid, hs, hcount, hmax⟩ : j.id = "job_j" ∧ j.status = .acknowledged ∧
      j.retryCount = 0 ∧ j.maxRetries = 1 := by simpa using he
  obtain ⟨j', hj', hs'⟩ := map_eq_some_iff.mp hafter
  have hone := h retryableJob _ [] rfl j
    ⟨by rw [hid, hj], by rw [hcount, hmax]; decide, j', ?_, by rw [hs']; rfl, ?_⟩
  · rw [hid, hnone] at hone
    cases hone
  · rw [hid, ← hj', reapedJob, runCalls_append]
    rfl
  · rw [hs', hs]
    decide

end Moebius
