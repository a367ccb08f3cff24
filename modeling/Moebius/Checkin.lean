import Mathlib.Data.List.Sort
import Moebius.Handler

/-!
The check-in of an agent: it refreshes the device row, takes a report of a failed update,
applies the inventory delta, requeues jobs the agent missed, and hands out queued jobs unless
the device withholds consent.
-/

namespace Moebius.Checkin

open Proc Db

/-- One package loop of a delta: it stops at the first statement that fails. -/
def forPackages (stmt : ℕ → PackageRef → Proc Db Bool) (ps : List PackageRef) :
    Proc Db (Except Unit ℕ) :=
  loop (fun i p => do
    if ← stmt i p then pure (.ok (i + 1)) else pure (.error ())) ps 0

variable (env : Env) (who : AgentIdentity) (jobs : List JobRow) (body : Option CheckinRequest)

/-- `processPackageDelta`; the answer is whether it ended without an error. -/
def processPackageDelta (deviceID : String) (delta : PackageDelta) : Proc Db Bool := do
  let now := env.clock 2
  match ← forPackages (fun i p => attempt (addPackage
      { id := env.newInventoryPkgID i, deviceID, name := p.name, version := p.version,
        manager := p.manager, lastSeenAt := now })) delta.added with
  | .error _ => pure false
  | .ok _ =>
    match ← forPackages (fun _ p => exec (updatePackage p.version now deviceID p.name p.manager))
        delta.updated with
    | .error _ => pure false
    | .ok _ =>
      match ← forPackages (fun _ p => exec (deletePackage deviceID p.name p.manager))
          delta.removed with
      | .error _ => pure false
      | .ok _ => pure true

def reportFailedUpdate (status : AgentStatus) : Proc Db Unit :=
  if status.lastUpdateFailed ∧ status.lastUpdateJobID ≠ "" then do
    if ← exec (updateJobs
        (.reportFailed status.lastUpdateJobID who.tenantID status.lastUpdateError env.now)) then
      logAction env who.tenantID who.agentID "agent" "agent_update.rollback" "job"
        status.lastUpdateJobID [("error", status.lastUpdateError)]
    else pure ()
  else pure ()

def processDelta (delta : Option InventoryDelta) : Proc Db Unit :=
  match delta.bind (·.packages) with
  | none => pure ()
  | some packages => do
    let _ ← processPackageDelta env who.agentID packages
    pure ()

/-- `SELECT ... WHERE device_id = $1 AND tenant_id = $2 AND status = $3 ORDER BY created_at ASC
LIMIT 10`. Rows created at the same time come in the order of the scan. -/
def queuedJobs (db : Db) : List JobRow :=
  ((env.scanJobs.order (db.jobs.select fun j =>
      j.deviceID = who.agentID ∧ j.tenantID = who.tenantID ∧ j.status = .queued)).insertionSort
    fun a b => a.createdAt ≤ b.createdAt).take 10

def fetchDispatchableJobs (cdmEnabled cdmSessionActive : Bool) :
    Proc Db (Option (List JobRow)) := do
  if cdmEnabled && !cdmSessionActive then
    if ← exec (updateJobs (.holdQueued who.agentID who.tenantID)) then pure (some [])
    else pure none
  else if cdmEnabled && cdmSessionActive then
    let _ ← exec (updateJobs (.releaseHeld who.agentID who.tenantID))
    read (queuedJobs env who)
  else read (queuedJobs env who)

def toDispatch (j : JobRow) : JobDispatch :=
  { jobID := j.id, type := j.type, payload := j.payload, createdAt := j.createdAt }

/-- The loop that marks the fetched jobs; a job whose statement fails is skipped. -/
def markJobs : Proc Db (Except Empty (List JobDispatch)) :=
  loop (fun dispatched j => do
    if ← exec (updateJobs (.markDispatched j.id env.now)) then
      pure (.ok (dispatched ++ [toDispatch j]))
    else pure (.ok dispatched)) jobs []

/-- The handler between the report of a failed update and the marking loop. -/
def afterReport (req : CheckinRequest) :
    Proc Db (Except (Reply CheckinResponse) (List JobRow)) := do
  processDelta env who req.inventoryDelta
  let _ ← exec (updateJobs (.requeueStale who.agentID who.tenantID (env.now - 60 * second)))
  match ← fetchDispatchableJobs env who req.status.cdmEnabled req.status.cdmSessionActive with
  | none => pure (.error (.err 500 "failed to fetch jobs"))
  | some jobs => pure (.ok jobs)

def fetch : Proc Db (Except (Reply CheckinResponse) (List JobRow)) :=
  if who.agentID = "" ∨ who.tenantID = "" then
    pure (.error (.err 401 "agent identity not found"))
  else match body with
    | none => pure (.error (.err 400 "invalid request body"))
    | some req => do
      if ← exec (updateDevice env.now req who.agentID who.tenantID) then
        reportFailedUpdate env who req.status
        afterReport env who req
      else pure (.error (.err 500 "failed to update device"))

/-- The handler from the marking loop on. -/
def respond : Proc Db (Reply CheckinResponse) := do
  match ← markJobs env jobs with
  | .ok dispatched => pure (.ok 200 { timestamp := env.now, jobs := dispatched })

def serveHTTP : Proc Db (Reply CheckinResponse) := do
  match ← fetch env who body with
  | .error r => pure r
  | .ok jobs => respond env jobs

end Moebius.Checkin
