import Moebius.Handler
import Moebius.JobState

/-!
The operator's side of a job: create jobs for a set of devices, cancel a job, retry a job,
roll a device back, revoke a device. Creation and retry are subject to the queued-job quota.
-/

namespace Moebius.Jobs

open Proc

structure Defaults where
  maxDevices : ℤ
  maxQueuedJobs : ℤ
  maxAPIKeys : ℤ
  maxFileSizeBytes : ℤ

/-- A zero field of the override inherits the default. -/
def applyOverride (d : Defaults) (o : TenantQuotas) : Defaults where
  maxDevices := if o.maxDevices ≠ 0 then o.maxDevices else d.maxDevices
  maxQueuedJobs := if o.maxQueuedJobs ≠ 0 then o.maxQueuedJobs else d.maxQueuedJobs
  maxAPIKeys := if o.maxAPIKeys ≠ 0 then o.maxAPIKeys else d.maxAPIKeys
  maxFileSizeBytes := if o.maxFileSizeBytes ≠ 0 then o.maxFileSizeBytes else d.maxFileSizeBytes

inductive QuotaError
  | exceeded (limit current attempted : ℤ)
  | internal

variable (env : Env) (tenantID : String) (quota : Option Defaults) (caller : Caller)
  (jobID : String) (req : CreateRequest) (jobType : JobType)

/-- `SELECT COUNT(*) FROM jobs WHERE tenant_id = $1 AND status IN ('queued','dispatched')`. -/
def countQueuedJobs (db : Db) : ℤ :=
  (db.jobs.select fun j =>
    j.tenantID = tenantID ∧ (j.status = .queued ∨ j.status = .dispatched)).length

/-- Room for `incr` more of what `count` counts; without a resolver there is no quota. -/
def checkCount (limit : Defaults → ℤ) (count : Db → ℤ) (incr attempted : ℤ) (tenantID : String) :
    Proc Db (Except QuotaError Unit) :=
  match quota with
  | none => pure (.ok ())
  | some d => do
    match ← read (fun db => db.tenants.get? tenantID) with
    | none => pure (.error .internal)
    | some none => pure (.error .internal)
    | some (some tenant) =>
      let eff := (tenant.quotas.map (applyOverride d)).getD d
      if limit eff < 0 then pure (.ok ())
      else
        match ← read count with
        | none => pure (.error .internal)
        | some n =>
          if n + incr > limit eff then pure (.error (.exceeded (limit eff) n attempted))
          else pure (.ok ())

lemma readOnly_checkCount (limit : Defaults → ℤ) (count : Db → ℤ) (incr attempted : ℤ)
    (tenantID : String) : (checkCount quota limit count incr attempted tenantID).ReadOnly := by
  rcases quota with _ | d
  · trivial
  refine readOnly_bind (readOnly_read _) fun r => ?_
  rcases r with _ | _ | tenant
  · trivial
  · trivial
  dsimp only
  split
  · trivial
  refine readOnly_bind (readOnly_read _) fun r => ?_
  rcases r with _ | n
  · trivial
  dsimp only
  split <;> trivial

def checkQueuedJobs (tenantID : String) (incr : ℤ) : Proc Db (Except QuotaError Unit) :=
  if incr ≤ 0 then pure (.ok ())
  else checkCount quota (·.maxQueuedJobs) (countQueuedJobs tenantID) incr incr tenantID

def quotaReply {β : Type} (kind : String) : QuotaError → Reply β
  | .exceeded limit current attempted =>
    .error 409 "quota_exceeded"
      (if attempted > 0 then
        "quota " ++ kind ++ " exceeded: current=" ++ toString current ++ " attempted=" ++
          toString attempted ++ " limit=" ++ toString limit
      else
        "quota " ++ kind ++ " exceeded: current=" ++ toString current ++ " limit=" ++
          toString limit)
  | .internal => .err 500 "failed to check quota"

/-! ### Create -/

structure CreateRequest where
  type : String
  target : JobTarget
  payload : String
  retryPolicy : Option RetryPolicy

structure CreateResponse where
  jobIDs : List String
  targetDeviceCount : ℕ

def resolveTargets (target : JobTarget) : Proc Db (Except Unit (List String)) :=
  expandAll env tenantID target.deviceIDs target.groupIDs target.tagIDs target.siteIDs

/-- The scope enforcement of `Create`: an answer to send, or the devices that remain. -/
def scopeTargets {β : Type} (env : Env) (caller : Caller) (deviceIDs : List String) :
    Proc Db (Except (Reply β) (List String)) :=
  if caller.isAdmin then pure (.ok deviceIDs)
  else if caller.scope.isNone then pure (.ok deviceIDs)
  else do
    match ← resolveScope env caller.tenantID caller.scope with
    | .error _ => pure (.error (.err 500 "failed to resolve scope"))
    | .ok allowed =>
      let filtered := filterDeviceIDs allowed deviceIDs
      if filtered = [] then
        pure (.error (.error 403 "scope_violation" "target devices are outside this key's scope"))
      else pure (.ok filtered)

def newJobRow (i : ℕ) (caller : Caller) (jobType : JobType) (payload : String)
    (retryPolicy : Option RetryPolicy) (deviceID : String) : JobRow :=
  { id := env.newJobID i, tenantID := caller.tenantID, deviceID, type := jobType
    status := .queued, payload, retryPolicy
    maxRetries := (retryPolicy.map (·.maxRetries)).getD 0
    createdBy := some caller.userID, createdAt := env.now }

/-- One insertion for each device; it stops at the first failure. -/
def insertJobs (row : ℕ → String → JobRow) (deviceIDs : List String) :
    Proc Db (Except Unit (List String)) :=
  loop (fun ids deviceID => do
    if ← attempt (Db.insertJob (row ids.length deviceID)) then
      pure (.ok (ids ++ [(row ids.length deviceID).id]))
    else pure (.error ())) deviceIDs []

def createFor (req : CreateRequest) (deviceIDs : List String) : Proc Db (Reply CreateResponse) := do
  let retryPolicy := req.retryPolicy.or (defaultRetryPolicy jobType)
  match ← insertJobs (fun i d => newJobRow env i caller jobType req.payload retryPolicy d)
      deviceIDs with
  | .error _ => pure (.err 500 "failed to create job")
  | .ok ids =>
    logAction env caller.tenantID caller.userID "user" "job.create" "job" (ids.headD "")
      [("type", req.type), ("device_count", toString deviceIDs.length)]
    pure (.ok 201 { jobIDs := ids, targetDeviceCount := deviceIDs.length })

/-- `Create` once the request has been read and its type accepted. -/
def createTyped : Proc Db (Reply CreateResponse) :=
  if req.payload = "" then pure (.err 400 "payload is required")
  else do
    match ← resolveTargets env caller.tenantID req.target with
    | .error _ => pure (.err 500 "failed to resolve targets")
    | .ok [] => pure (.error 400 "no_targets" "no devices matched the target specification")
    | .ok deviceIDs =>
      match ← scopeTargets env caller deviceIDs with
      | .error r => pure r
      | .ok deviceIDs =>
        match ← checkQueuedJobs quota caller.tenantID deviceIDs.length with
        | .error e => pure (quotaReply "queued_jobs" e)
        | .ok () => createFor env caller jobType req deviceIDs

def create (body : Option CreateRequest) : Proc Db (Reply CreateResponse) :=
  match body with
  | none => pure (.err 400 "invalid request body")
  | some req =>
    match validateType req.type with
    | .error msg => pure (.error 400 "invalid_job_type" msg)
    | .ok jobType => createTyped env quota caller req jobType

/-- `SELECT ... WHERE id = $1 AND tenant_id = $2`. -/
def tenantJob (db : Db) : Option JobRow :=
  (db.job? jobID).filter fun j => j.tenantID = tenantID

def cancelCheck : Proc Db (Except (Reply Unit) Unit) := do
  match ← read (tenantJob caller.tenantID jobID) with
  | none => pure (.error (.err 500 "failed to get job"))
  | some none => pure (.error (.err 404 "job not found"))
  | some (some j) =>
    if ← outOfScope env caller j.deviceID then
      pure (.error (.error 403 "scope_violation" "job target device is outside this key's scope"))
    else if isCancellable j.status then pure (.ok ())
    else pure (.error (.error 409 "not_cancellable"
      ("job in state " ++ j.status.text ++ " cannot be cancelled")))

def cancelWrite : Proc Db (Reply Unit) := do
  if ← exec (Db.updateJobs (.markCancelled jobID env.now)) then
    logAction env caller.tenantID caller.userID "user" "job.cancel" "job" jobID []
    pure (.ok 204 ())
  else pure (.err 500 "failed to cancel job")

def cancel : Proc Db (Reply Unit) := do
  match ← cancelCheck env caller jobID with
  | .error r => pure r
  | .ok () => cancelWrite env caller jobID

def retryRow (j : JobRow) : JobRow :=
  { id := env.newJobID 0, tenantID := caller.tenantID, deviceID := j.deviceID
    parentJobID := some jobID, type := j.type, status := .queued, payload := j.payload
    retryPolicy := j.retryPolicy, retryCount := j.retryCount + 1, maxRetries := j.maxRetries
    createdBy := j.createdBy, createdAt := env.now }

def retry (env : Env) (quota : Option Defaults) (caller : Caller) (jobID : String) :
    Proc Db (Reply String) := do
  match ← read (tenantJob caller.tenantID jobID) with
  | none => pure (.err 500 "failed to get job")
  | some none => pure (.err 404 "job not found")
  | some (some j) =>
    if ← outOfScope env caller j.deviceID then
      pure (.error 403 "scope_violation" "job target device is outside this key's scope")
    else if isRetryable j.status then
      match ← checkQueuedJobs quota caller.tenantID 1 with
      | .error e => pure (quotaReply "queued_jobs" e)
      | .ok () =>
        if ← attempt (Db.insertJob (retryRow env caller jobID j)) then
          logAction env caller.tenantID caller.userID "user" "job.retry" "job" (env.newJobID 0)
            [("parent_job_id", jobID)]
          pure (.ok 201 (env.newJobID 0))
        else pure (.err 500 "failed to create retry job")
    else pure (.error 409 "not_retryable"
      ("job in state " ++ j.status.text ++ " cannot be retried"))

def rollbackRow (deviceID payload : String) : JobRow :=
  { id := env.newJobID 0, tenantID := caller.tenantID, deviceID, type := .agentRollback
    status := .queued, payload, createdBy := some caller.userID, createdAt := env.now }

/-- `Rollback` of a device; `reason` is the body and `payload` its JSON. -/
def rollback (env : Env) (caller : Caller) (deviceID : String) (reason : Option String)
    (payload : String → String) : Proc Db (Reply String) :=
  match reason with
  | none => pure (.err 400 "invalid request body")
  | some reason => do
    match ← read (fun db =>
        (db.devices.get? deviceID).any fun d => d.tenantID = caller.tenantID) with
    | none => pure (.err 500 "failed to verify device")
    | some false => pure (.err 404 "device not found")
    | some true =>
      if ← attempt (Db.insertJob (rollbackRow env caller deviceID (payload reason))) then
        logAction env caller.tenantID caller.userID "user" "device.rollback" "device" deviceID
          [("job_id", env.newJobID 0), ("reason", reason)]
        pure (.ok 201 (env.newJobID 0))
      else pure (.err 500 "failed to create rollback job")

/-- `Revoke` of a device; an absent body stands for an empty reason. -/
def revoke (deviceID : String) (body : Option String) : Proc Db (Reply Unit) := do
  if ← outOfScope env caller deviceID then
    pure (.error 404 "device_not_found" "Device not found or already revoked")
  else
    match body with
    | none => pure (.err 400 "invalid request body")
    | some reason =>
      let reason := if reason = "" then "operator_revoked" else reason
      if ← attempt (Db.revokeDevice env.now caller.tenantID deviceID reason) then
        logAction env caller.tenantID caller.userID "user" "device.revoke" "device" deviceID
          [("reason", reason)]
        pure (.ok 204 ())
      else pure (.error 404 "device_not_found" "Device not found or already revoked")

end Moebius.Jobs
