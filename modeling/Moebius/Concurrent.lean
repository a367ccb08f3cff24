import Moebius.ServerSteps

/-!
Cancellations, check-ins and acknowledgements as tasks that run side by side.

Each of the three handlers reads the status of jobs and later writes them by identifier alone.
As a task it checks up to the point where it has read what it needs, and acts from its first
write on; run without interruption it is the handler again.
-/

namespace Moebius

open Proc Checkin AgentJobs Jobs

inductive Request
  | cancel (env : Env) (caller : Caller) (jobID : String)
  | checkin (env : Env) (who : AgentIdentity) (body : Option CheckinRequest)
  | acknowledge (env : Env) (who : AgentIdentity) (jobID : String)

namespace Request

def task : Request → Task Db (List JobRow) Answer
  | cancel env caller jobID =>
    { check := do
        match ← cancelCheck env caller jobID with
        | .error r => pure (.error (.noBody r))
        | .ok () => pure (.ok [])
      act := fun _ => do return .noBody (← cancelWrite env caller jobID) }
  | checkin env who body =>
    { check := do
        match ← fetch env who body with
        | .error r => pure (.error (.checkin r))
        | .ok jobs => pure (.ok jobs)
      act := fun jobs => do return .checkin (← respond env jobs) }
  | acknowledge env who jobID =>
    { check := do
        match ← acknowledgeCheck who jobID with
        | .error r => pure (.error (.noBody r))
        | .ok () => pure (.ok [])
      act := fun _ => do return .noBody (← acknowledgeWrite env who jobID) }

def handler : Request → Proc Db Answer
  | cancel env caller jobID => do return .noBody (← Jobs.cancel env caller jobID)
  | checkin env who body => do return .checkin (← serveHTTP env who body)
  | acknowledge env who jobID => do return .noBody (← AgentJobs.acknowledge env who jobID)

lemma whole_task (r : Request) : r.task.whole = r.handler := by
  cases r with
  | cancel env caller jobID =>
    simp only [Task.whole, task, handler, Jobs.cancel, bind_eq, Proc.bind_assoc]
    congr 1; funext x
    rcases x with e | _ <;> rfl
  | checkin env who body =>
    simp only [Task.whole, task, handler, serveHTTP, bind_eq, Proc.bind_assoc]
    congr 1; funext x
    rcases x with e | _ <;> rfl
  | acknowledge env who jobID =>
    simp only [Task.whole, task, handler, AgentJobs.acknowledge, bind_eq, Proc.bind_assoc]
    congr 1; funext x
    rcases x with e | _ <;> rfl

end Request

/-! ### Every statement, whatever the state -/

lemma readOnly_acknowledgeCheck (who : AgentIdentity) (jobID : String) :
    (acknowledgeCheck who jobID).ReadOnly := by
  refine readOnly_bind (readOnly_read _) fun r => ?_
  rcases r with _ | _ | j
  · trivial
  · trivial
  dsimp only
  split <;> trivial

/-- The updates of job rows that a check-in makes before it has fetched its jobs. Held jobs are only
released in an active session. -/
inductive FetchUpdate (who : AgentIdentity) (req : CheckinRequest) : JobUpdate → Prop
  | reportFailed {lastError : String} {now : Time} (h : req.reported ≠ none) :
      FetchUpdate who req
        (.reportFailed req.status.lastUpdateJobID who.tenantID lastError now)
  | requeueStale {cutoff : Time} :
      FetchUpdate who req (.requeueStale who.agentID who.tenantID cutoff)
  | holdQueued : FetchUpdate who req (.holdQueued who.agentID who.tenantID)
  | releaseHeld : FetchUpdate who req (.releaseHeld who.agentID who.tenantID)

section

variable {R : Db → Db → Prop} {env : Env}

lemma each_authenticate {β : Type} (cert : Option ClientCert) (hrefl : ∀ a, R a a)
    {next : AgentIdentity → Proc Db (Reply β)} (h : ∀ who, (next who).Each R) (at' : Time) :
    (authenticate at' cert next).Each R := by
  refine each_bind (each_of_readOnly (readOnly_mtlsCheck at' cert) hrefl) fun x => ?_
  rcases x with r | who
  · trivial
  · exact h who

lemma each_respond {jobs : List JobRow}
    (h : ∀ j ∈ jobs, ∀ db : Db, R db (db.updateJobs (.markDispatched j.id env.now))) :
    (respond env jobs).Each R := by
  refine each_bind (each_loop (fun ds j hj => each_bind (each_exec (h j hj)) fun ok => ?_) [])
    fun r => ?_
  · cases ok <;> trivial
  · rcases r with e | ds
    · exact e.elim
    · trivial

variable {who : AgentIdentity} {jobID : String}

variable (hlog : ∀ (db : Db) log, R db { db with auditLog := log })

include hlog

lemma each_acknowledgeWrite
    (h : ∀ db : Db, R db (db.updateJobs (.markAcknowledged jobID env.now))) :
    (acknowledgeWrite env who jobID).Each R := by
  refine each_bind (each_exec h) fun ok => ?_
  cases ok
  · trivial
  · exact each_bind (each_logAction hlog) fun _ => trivial

lemma each_acknowledge (h : ∀ db : Db, R db (db.updateJobs (.markAcknowledged jobID env.now))) :
    (acknowledge env who jobID).Each R := by
  refine each_bind (each_reading hlog (readOnly_acknowledgeCheck who jobID)) fun r => ?_
  rcases r with r | _
  · trivial
  · exact each_acknowledgeWrite hlog h

variable {req : CheckinRequest} (hu : ∀ u, FetchUpdate who req u →
  (u = .releaseHeld who.agentID who.tenantID →
    (req.status.cdmEnabled && req.status.cdmSessionActive) = true) →
  ∀ db : Db, R db (db.updateJobs u))

include hu

lemma each_reportFailedUpdate : (reportFailedUpdate env who req.status).Each R := by
  unfold reportFailedUpdate
  split
  · rename_i hrep
    refine each_bind (each_exec (hu _ (.reportFailed ?_) nofun)) fun ok => ?_
    · exact AgentStatus.reported_ne_none.mpr hrep
    cases ok
    · trivial
    · exact each_logAction hlog
  · trivial

lemma each_afterReport (hdelta : (processDelta env who req.inventoryDelta).Each R) :
    (afterReport env who req).Each R := by
  have hread := each_reading hlog (readOnly_read (queuedJobs env who))
  refine each_bind hdelta fun _ => ?_
  refine each_bind (each_exec (hu _ .requeueStale nofun)) fun _ => ?_
  refine each_bind ?_ fun r => ?_
  · unfold fetchDispatchableJobs
    split
    · refine each_bind (each_exec (hu _ .holdQueued nofun)) fun ok => ?_
      cases ok <;> trivial
    · split
      · rename_i hactive
        exact each_bind (each_exec (hu _ .releaseHeld fun _ => hactive)) fun _ => hread
      · exact hread
  · rcases r with _ | _ <;> trivial

end

lemma each_fetch {R : Db → Db → Prop} (hsame : ∀ a b : Db, b.jobs = a.jobs → R a b) (env : Env)
    (who : AgentIdentity) (body : Option CheckinRequest)
    (h : ∀ req ∈ body, ∀ u, FetchUpdate who req u → (u = .releaseHeld who.agentID who.tenantID →
        (req.status.cdmEnabled && req.status.cdmSessionActive) = true) →
      ∀ db : Db, R db (db.updateJobs u)) : (fetch env who body).Each R := by
  have hlog : ∀ (db : Db) log, R db { db with auditLog := log } := fun _ _ => hsame _ _ rfl
  unfold fetch
  split
  · trivial
  rcases body with _ | req
  · trivial
  refine each_bind (each_exec fun db => hsame _ _ rfl) fun ok => ?_
  cases ok
  · trivial
  · exact each_bind (each_reportFailedUpdate hlog (h req rfl)) fun _ =>
      each_afterReport hlog (h req rfl)
        (each_mono (fun _ _ hab => hsame _ _ hab.quiet.jobs) each_processDelta)

def Refuses {β γ : Type} (x : Except (Reply β) γ) : Prop :=
  ∀ r, x = .error r → ∃ n code msg, r = .error n code msg ∧ 400 ≤ n

variable {β γ : Type}

lemma refuses_error {n : ℕ} {code msg : String} (h : 400 ≤ n) :
    Refuses (.error (.error n code msg) : Except (Reply β) γ) := by
  intro r hr
  cases hr
  exact ⟨n, code, msg, rfl, h⟩

lemma Refuses.not_is2xx {r : Reply β} (h : Refuses (.error r : Except (Reply β) γ)) :
    ¬ r.Is2xx := by
  obtain ⟨n, code, msg, rfl, hn⟩ := h r rfl
  rintro ⟨-, h2 : n < 300⟩
  omega

lemma refuses_ok {g : γ} : Refuses (.ok g : Except (Reply β) γ) := nofun

variable (env : Env) (who : AgentIdentity)

lemma returns_cancelCheck (caller : Caller) (jobID : String) :
    (cancelCheck env caller jobID).Returns Refuses := by
  refine returns_bind (returns_of_forall (fun r => ?_) _)
  rcases r with _ | _ | j
  · exact refuses_error (by decide)
  · exact refuses_error (by decide)
  refine returns_bind (returns_of_forall (fun out => ?_) _)
  split
  · exact refuses_error (by decide)
  split
  · exact refuses_ok
  · exact refuses_error (by decide)

lemma returns_acknowledgeCheck (jobID : String) : (acknowledgeCheck who jobID).Returns Refuses := by
  refine returns_bind (returns_of_forall (fun r => ?_) _)
  rcases r with _ | _ | j
  · exact refuses_error (by decide)
  · exact refuses_error (by decide)
  dsimp only
  split
  · exact refuses_error (by decide)
  · exact refuses_ok

lemma returns_fetch (body : Option CheckinRequest) : (fetch env who body).Returns Refuses := by
  unfold fetch
  split
  · exact refuses_error (by decide)
  rcases body with _ | req
  · exact refuses_error (by decide)
  refine returns_bind (returns_of_forall (fun ok => ?_) _)
  cases ok
  · exact refuses_error (by decide)
  refine returns_bind (returns_of_forall (fun _ => ?_) _)
  refine returns_bind (returns_of_forall (fun _ => ?_) _)
  refine returns_bind (returns_of_forall (fun _ => ?_) _)
  refine returns_bind (returns_of_forall (fun r => ?_) _)
  rcases r with _ | js
  · exact refuses_error (by decide)
  · exact refuses_ok

lemma returns_respond (jobs : List JobRow) :
    (respond env jobs).Returns fun r => ∀ n resp, r = .ok n resp →
      ∀ d ∈ resp.jobs, ∃ j ∈ jobs, d.jobID = j.id := by
  have hloop : (markJobs env jobs).Returns fun r => ∀ ds, r = .ok ds →
      ∀ d ∈ ds, ∃ j ∈ jobs, d.jobID = j.id := by
    refine returns_loop (fun ds : List JobDispatch => ∀ d ∈ ds, ∃ j ∈ jobs, d.jobID = j.id)
      (fun ds hds j hj => returns_bind (returns_of_forall (fun ok => ?_) _)) (by simp)
    cases ok
    · intro ds' he
      cases he
      exact hds
    · intro ds' he d hd
      cases he
      rcases List.mem_append.mp hd with hd | hd
      · exact hds d hd
      · rw [List.mem_singleton] at hd
        exact ⟨j, hj, hd ▸ rfl⟩
  refine returns_bind (returns_mono hloop fun r hr => ?_)
  rcases r with e | ds
  · exact e.elim
  · intro n resp he
    cases he
    exact hr ds rfl

def Without (id : String) (x : Except (Reply CheckinResponse) (List JobRow)) : Prop :=
  ∀ js, x = .ok js → ∀ j ∈ js, j.id ≠ id

section

variable {I : Db → Prop} {id : String} (env : Env) (who : AgentIdentity)

lemma answers_fetchDispatchableJobs {cdmEnabled cdmSessionActive : Bool}
    (h : ∀ db, I db → ∀ j, db.job? id = some j → j.status ≠ .queued) :
    (fetchDispatchableJobs env who cdmEnabled cdmSessionActive).Answers I
      fun r => ∀ js, r = some js → ∀ j ∈ js, j.id ≠ id := by
  have hread : (Proc.read (queuedJobs env who)).Answers I
      fun r => ∀ js, r = some js → ∀ j ∈ js, j.id ≠ id := by
    refine answers_read (fun db hI js he j hj hid => ?_) nofun
    cases he
    have hf : Fetched who db _ := fetched_queuedJobs env db
    exact h db hI j (hid ▸ hf.row j hj) (hf.queued j hj)
  unfold fetchDispatchableJobs
  split
  · refine answers_bind (answers_of_forall (fun ok r he js hjs => ?_) _) fun ok => ?_
    · cases ok <;> cases he <;> cases hjs
      simp
    · cases ok <;> trivial
  · split
    · exact answers_bind (answers_of_forall (fun _ => doneIn_stmt _ _ _) _) fun _ => hread
    · exact hread

lemma answers_afterReport {req : CheckinRequest}
    (h : ∀ db, I db → ∀ j, db.job? id = some j → j.status ≠ .queued) :
    (afterReport env who req).Answers I (Without id) := by
  have hne : ∀ a, fetchDispatchableJobs env who req.status.cdmEnabled
      req.status.cdmSessionActive ≠ done a := by
    intro a
    unfold fetchDispatchableJobs
    split
    · exact nofun
    · split <;> exact nofun
  refine answers_bind (answers_of_forall (fun _ => doneIn_stmt _ _ _) _) fun _ => ?_
  refine answers_bind (answers_of_forall (fun _ => doneIn_bind fun a ha => absurd ha (hne a)) _)
    fun _ => ?_
  refine answers_bind (answers_mono (answers_fetchDispatchableJobs env who h)
    fun r hr x hx => ?_)
    fun r => ?_
  · rcases r with _ | js
    · cases hx; exact nofun
    · cases hx
      intro js' he
      cases he
      exact hr js rfl
  · rcases r with _ | _ <;> trivial

lemma answers_fetch (body : Option CheckinRequest)
    (h : ∀ db, I db → ∀ j, db.job? id = some j → j.status ≠ .queued) :
    (fetch env who body).Answers I (Without id) := by
  unfold fetch
  split
  · trivial
  rcases body with _ | req
  · trivial
  have hafter : (afterReport env who req).DoneIn (Without id) :=
    doneIn_bind fun _ _ => doneIn_stmt _ _ _
  refine answers_bind (answers_of_forall (fun ok => ?_) _) fun ok => ?_
  · cases ok
    · intro x hx
      cases hx
      exact nofun
    · exact doneIn_bind fun _ _ => hafter
  · cases ok
    · trivial
    · exact answers_bind (answers_of_forall (fun _ => hafter) _) fun _ =>
        answers_afterReport env who h

end

lemma answers_acknowledgeCheck {I : Db → Prop} (who : AgentIdentity) (jobID : String)
    (h : ∀ db, I db → ∀ j, db.job? jobID = some j → j.status ≠ .dispatched) :
    (acknowledgeCheck who jobID).Answers I fun x => x ≠ .ok () := by
  refine answers_bind (answers_read (fun db hI x hx => ?_) fun x hx => ?_) fun r => ?_
  · rcases hj : agentJob who jobID db with _ | j
    · rw [hj] at hx; cases hx; exact nofun
    · obtain ⟨hrow, -, -⟩ := agentJob_eq_some hj
      rw [hj] at hx
      rcases hv : validateTransition j.status .acknowledged with msg | _
      · simp only [hv] at hx; cases hx; exact nofun
      · exact absurd (validateTransition_acknowledged.mp hv) (h db hI j hrow)
  · cases hx; exact nofun
  · rcases r with _ | _ | j
    · trivial
    · trivial
    dsimp only
    split <;> trivial

end Moebius
