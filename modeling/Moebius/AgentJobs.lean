import Moebius.Handler
import Moebius.JobState

/-!
The job endpoints of an agent: it acknowledges a dispatched job and submits its result. A
failed or timed-out result may create a retry of the job.
-/

namespace Moebius.AgentJobs

open Proc Db

variable (env : Env) (who : AgentIdentity) (deviceID jobID : String) (packages : List PackageRef)
  (req : JobResultSubmission) (target : JobStatus) (j : JobRow)

/-- `SELECT ... WHERE id = $1 AND device_id = $2 AND tenant_id = $3`. -/
def agentJob (db : Db) : Option JobRow :=
  (db.job? jobID).filter fun j => j.deviceID = who.agentID ∧ j.tenantID = who.tenantID

def acknowledgeCheck : Proc Db (Except (Reply Unit) Unit) := do
  match ← read (agentJob who jobID) with
  | none => pure (.error (.err 500 "failed to get job"))
  | some none => pure (.error (.err 404 "job not found"))
  | some (some j) =>
    match validateTransition j.status .acknowledged with
    | .error msg => pure (.error (.error 409 "invalid_transition" msg))
    | .ok () => pure (.ok ())

/-- The handler from the update on. -/
def acknowledgeWrite : Proc Db (Reply Unit) := do
  if ← exec (updateJobs (.markAcknowledged jobID env.now)) then
    logAction env who.tenantID who.agentID "agent" "job.acknowledge" "job" jobID []
    pure (.ok 204 ())
  else pure (.err 500 "failed to acknowledge job")

def acknowledge : Proc Db (Reply Unit) := do
  match ← acknowledgeCheck who jobID with
  | .error r => pure r
  | .ok () => acknowledgeWrite env who jobID

/-! ### Results -/

def insertPackages : Proc Db (Except Unit ℕ) :=
  loop (fun i p => do
    if ← attempt (insertPackage
        { id := env.newInventoryPkgID i, deviceID, name := p.name, version := p.version,
          manager := p.manager, lastSeenAt := env.clock 2 }) then
      pure (.ok (i + 1))
    else pure (.error ())) packages 0

/-- Replace the hardware row; the answer is whether the insertion went through. -/
def replaceHardware (hw : FullInventoryHW) : Proc Db Bool := do
  let _ ← exec (deleteHardware deviceID)
  attempt (insertHardware
    { id := env.newInventoryHWID 0, deviceID, collectedAt := env.clock 2, cpu := hw.cpu,
      ramMB := hw.ramMB, disks := hw.disks, networkInterfaces := hw.networkInterfaces })

def replacePackages : Proc Db Unit :=
  if packages = [] then pure ()
  else do
    let _ ← exec (deletePackages deviceID)
    let _ ← insertPackages env deviceID packages
    pure ()

/-- `processFullInventory`; its error is logged and dropped. -/
def processFullInventory (resultData : String) : Proc Db Unit :=
  match env.unmarshalInventory resultData with
  | none => pure ()
  | some inv =>
    match inv.hardware with
    | none => replacePackages env deviceID inv.packages
    | some hw => do
      if ← replaceHardware env deviceID hw then replacePackages env deviceID inv.packages
      else pure ()

def retryRow (i : ℕ) (who : AgentIdentity) (parentJobID : String) (jobType : JobType)
    (retryCount maxRetries : ℤ) (parent : JobRow) : JobRow :=
  { id := env.newJobID i, tenantID := who.tenantID, deviceID := who.agentID
    parentJobID := some parentJobID, type := jobType, status := .queued
    payload := parent.payload, retryPolicy := parent.retryPolicy, retryCount, maxRetries
    createdBy := parent.createdBy, createdAt := env.clock 3 }

def createRetryJob (parentJobID : String) (jobType : JobType) (retryCount maxRetries : ℤ) :
    Proc Db Unit := do
  match ← read (fun db => db.job? parentJobID) with
  | none => pure ()
  | some none => pure ()
  | some (some parent) =>
    let _ ← attempt (insertJob
      (retryRow env 0 who parentJobID jobType retryCount maxRetries parent))
    pure ()

def targetStatus : String → Option JobStatus
  | "completed" => some .completed
  | "failed" => some .failed
  | "timed_out" => some .timedOut
  | _ => none

/-- An acknowledged job counts as running when its result arrives. -/
def effectiveStatus (s : JobStatus) : JobStatus := if s = .acknowledged then .running else s

def storeInventory : Proc Db Unit :=
  if j.type = .inventoryFull ∧ target = .completed then
    processFullInventory env who.agentID req.stdout
  else pure ()

def retryIfAllowed : Proc Db Unit :=
  if shouldRetry target j.retryCount j.maxRetries then
    createRetryJob env who jobID j.type (j.retryCount + 1) j.maxRetries
  else pure ()

/-- The handler after the update of the job row. -/
def afterResult : Proc Db (Reply Unit) := do
  storeInventory env who req target j
  logAction env who.tenantID who.agentID "agent" "job.result" "job" jobID
    [("status", target.text)]
  retryIfAllowed env who jobID target j
  pure (.ok 204 ())

/-- The handler once the transition is allowed. -/
def recordResult : Proc Db (Reply Unit) := do
  if ← attempt (insertResult
      { id := env.newJobResultID 0, jobID, exitCode := req.exitCode, stdout := req.stdout,
        stderr := req.stderr, startedAt := req.startedAt, completedAt := req.completedAt }) then
    if ← exec (updateJobs (.finish jobID target env.now req.message req.startedAt)) then
      afterResult env who jobID req target j
    else pure (.err 500 "failed to update job")
  else pure (.err 500 "failed to store result")

def submitResult (body : Option JobResultSubmission) : Proc Db (Reply Unit) :=
  match body with
  | none => pure (.err 400 "invalid request body")
  | some req =>
    match targetStatus req.status with
    | none => pure (.err 400 "invalid status: must be completed, failed, or timed_out")
    | some target => do
      match ← read (agentJob who jobID) with
      | none => pure (.err 500 "failed to get job")
      | some none => pure (.err 404 "job not found")
      | some (some j) =>
        match validateTransition (effectiveStatus j.status) target with
        | .error msg => pure (.error 409 "invalid_transition" msg)
        | .ok () => recordResult env who jobID req target j

end Moebius.AgentJobs
