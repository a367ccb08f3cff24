import Moebius.Jobs

/-!
The scheduler: it creates the jobs of a schedule that is due and reaps jobs that agents left
behind. Each reaping is a single statement.
-/

namespace Moebius.Scheduler

open Proc

structure Config where
  tickSeconds : ℤ
  reaperDispatchedTimeoutSec : ℤ
  reaperInflightTimeoutSec : ℤ

structure Timeouts where
  dispatchedTimeout : Time
  inflightTimeout : Time

/-- `New`: a timeout that is not positive falls back to its default. -/
def timeouts (cfg : Config) : Timeouts where
  dispatchedTimeout := int64
    ((if cfg.reaperDispatchedTimeoutSec ≤ 0 then 300 else cfg.reaperDispatchedTimeoutSec) * second)
  inflightTimeout := int64
    ((if cfg.reaperInflightTimeoutSec ≤ 0 then 3600 else cfg.reaperInflightTimeoutSec) * second)

variable (t : Timeouts) (env : Env) (now : Time)

def reapStuckDispatchedJobs : Proc Db Bool :=
  exec (Db.updateJobs (.reapDispatched (now - t.dispatchedTimeout)))

def reapStuckInflightJobs : Proc Db Bool :=
  exec (Db.updateJobs (.reapInflight now (now - t.inflightTimeout)))

/-- The part of `runTick` that reaps jobs. -/
def reapStuckJobs : Proc Db Unit := do
  let _ ← reapStuckDispatchedJobs t now
  let _ ← reapStuckInflightJobs t now
  pure ()

def resolveTargets (tenantID : String) (target : JobTarget) : Proc Db (Except Unit (List String)) :=
  expandAll env tenantID target.deviceIDs target.groupIDs target.tagIDs target.siteIDs

def scheduledRow (i : ℕ) (sj : ScheduledJob) (deviceID : String) : JobRow :=
  { id := env.newJobID i, tenantID := sj.tenantID, deviceID, type := sj.jobType
    status := .queued, payload := sj.payload, retryPolicy := sj.retryPolicy
    maxRetries := (sj.retryPolicy.map (·.maxRetries)).getD 0
    createdBy := some ("scheduler:" ++ sj.id), createdAt := env.now }

/-- `dispatchScheduledJob`; the answer is whether it ended without an error. -/
def dispatchScheduledJob (sj : ScheduledJob) : Proc Db Bool :=
  match sj.target with
  | none => pure false
  | some target => do
    match ← resolveTargets env sj.tenantID target with
    | .error _ => pure false
    | .ok [] => pure true
    | .ok deviceIDs =>
      match ← Jobs.insertJobs (fun i d => scheduledRow env i sj d) deviceIDs with
      | .error _ => pure false
      | .ok _ => pure true

end Moebius.Scheduler
