import Moebius.Scheduler
import Moebius.Scopes
import Moebius.Enrollment

/-!
Scheduled jobs: the requests that manage them and the scheduler that runs them.

Cron expressions are read by a library; `Cron` is what the server uses of it. A tick of the
scheduler lists the schedules that are due, creates the jobs of each of them and then moves the
schedule to its next run. Nothing ties the two together, so a schedule whose jobs could not all be
created stays where it was.
-/

namespace Moebius

open Proc

/-- The cron library: an expression is refused with a message, or stands for a function that takes a
time to the next run after it. -/
structure Cron where
  parse : String → Except String (Time → Time)

namespace Db

def insertSchedule (row : ScheduledJob) (db : Db) : Option Db :=
  if (db.tenants.get? row.tenantID).isSome then
    (db.scheduledJobs.insert row).map fun t => { db with scheduledJobs := t }
  else none

variable (tenantID id : String)

def ownSchedule (sj : ScheduledJob) : Bool :=
  sj.id = id ∧ sj.tenantID = tenantID

/-- The answer is the number of rows updated. -/
def updateSchedule (f : ScheduledJob → ScheduledJob) (hf : ∀ sj, (f sj).id = sj.id) (db : Db) :
    ℕ × Db :=
  ((db.scheduledJobs.select (ownSchedule tenantID id)).length,
    { db with
      scheduledJobs := db.scheduledJobs.update
        (fun sj => if ownSchedule tenantID id sj then f sj else sj)
        (fun sj => by split <;> simp [hf]) })

/-- The answer is the number of rows deleted. -/
def deleteSchedule (db : Db) : ℕ × Db :=
  ((db.scheduledJobs.select (ownSchedule tenantID id)).length,
    { db with scheduledJobs := db.scheduledJobs.delete (ownSchedule tenantID id) })

/-- `UPDATE scheduled_jobs SET last_run_at = $2, next_run_at = $3 WHERE id = $1`. -/
def markScheduledJobRun (lastRun nextRun : Time) (db : Db) : Db :=
  { db with
    scheduledJobs := db.scheduledJobs.update
      (fun sj =>
        if sj.id = id then { sj with lastRunAt := some lastRun, nextRunAt := some nextRun } else sj)
      (fun sj => by split <;> rfl) }

end Db

namespace ScheduledJobs

structure CreateRequest where
  name : String
  jobType : String
  payload : String
  target : JobTarget
  cronExpr : String
  retryPolicy : Option RetryPolicy := none
  enabled : Option Bool := none

variable (u : Updates) (cron : Cron) (env : Env) (caller : Caller) (req : CreateRequest)
  (jobType : JobType)

def newSchedule (nextRun : Time) : ScheduledJob :=
  { id := env.newScheduledJobID 0, tenantID := caller.tenantID, name := req.name, jobType
    payload := req.payload, target := some req.target, cronExpr := req.cronExpr
    retryPolicy := req.retryPolicy, enabled := req.enabled.getD true, lastRunAt := none
    nextRunAt := some nextRun }

/-- `Create` once the request has been read and its type accepted. -/
def createTyped : Proc Db (Reply ScheduledJob) :=
  if req.payload = "" then pure (.err 400 "payload is required")
  else if !caller.isAdmin && !targetOverlapsScope caller.scope (some req.target) then
    pure (.error 403 "scope_violation" "scheduled job target is outside this key's scope")
  else
    match cron.parse req.cronExpr with
    | .error msg => pure (.error 400 "invalid_cron" ("invalid cron expression: " ++ msg))
    | .ok next => do
      let sj := newSchedule env caller req jobType (next env.now)
      if ← attempt (Db.insertSchedule sj) then
        logAction env caller.tenantID caller.userID "user" "scheduled_job.create" "scheduled_job"
          sj.id []
        pure (.ok 201 sj)
      else pure (.err 500 "failed to create scheduled job")

def create (body : Option CreateRequest) : Proc Db (Reply ScheduledJob) :=
  match body with
  | none => pure (.err 400 "invalid request body")
  | some req =>
    if req.name = "" then pure (.err 400 "name is required")
    else
      match validateType req.jobType with
      | .error msg => pure (.error 400 "invalid_job_type" msg)
      | .ok jobType => createTyped cron env caller req jobType

def list (env : Env) (caller : Caller) : Proc Db (Reply (List ScheduledJob)) := do
  match ← read (fun db => orderBy (fun a b => env.textLE a.name b.name)
      (env.scanSchedules.order
        (db.scheduledJobs.select fun sj => sj.tenantID = caller.tenantID))) with
  | none => pure (.err 500 "failed to list scheduled jobs")
  | some rows => pure (.ok 200 rows)

def find (tenantID id : String) (db : Db) : Option ScheduledJob :=
  (db.scheduledJobs.get? id).filter fun sj => sj.tenantID = tenantID

def get (caller : Caller) (id : String) : Proc Db (Reply ScheduledJob) := do
  match ← read (find caller.tenantID id) with
  | none => pure (.err 500 "failed to get scheduled job")
  | some none => pure (.err 404 "scheduled job not found")
  | some (some sj) => pure (.ok 200 sj)

structure UpdateRequest where
  name : Option String := none
  jobType : Option String := none
  payload : Option String := none
  target : Option JobTarget := none
  cronExpr : Option String := none
  retryPolicy : Option RetryPolicy := none

/-- The columns an update sets. A new expression comes with the next run it asks for. -/
structure Updates where
  name : Option String := none
  jobType : Option JobType := none
  payload : Option String := none
  target : Option JobTarget := none
  cron : Option (String × Time) := none
  retryPolicy : Option RetryPolicy := none

def Updates.isEmpty : Bool :=
  u.name.isNone && u.jobType.isNone && u.payload.isNone && u.target.isNone && u.cron.isNone &&
    u.retryPolicy.isNone

def Updates.apply (sj : ScheduledJob) : ScheduledJob :=
  { sj with
    name := u.name.getD sj.name, jobType := u.jobType.getD sj.jobType
    payload := u.payload.getD sj.payload, target := u.target.or sj.target
    cronExpr := (u.cron.map (·.1)).getD sj.cronExpr
    nextRunAt := (u.cron.map (·.2)).or sj.nextRunAt
    retryPolicy := u.retryPolicy.or sj.retryPolicy }

lemma Updates.apply_id (u : Updates) (sj : ScheduledJob) : (u.apply sj).id = sj.id := rfl

/-- What a request asks to set, unless its type or its expression is refused. -/
def updates {β : Type} (cron : Cron) (now : Time) (req : UpdateRequest) :
    Except (Reply β) Updates := do
  let jobType ← match req.jobType with
    | none => pure none
    | some t =>
      match validateType t with
      | .error msg => throw (.error 400 "invalid_job_type" msg)
      | .ok jobType => pure (some jobType)
  let run ← match req.cronExpr with
    | none => pure none
    | some expr =>
      match cron.parse expr with
      | .error msg => throw (.error 400 "invalid_cron" ("invalid cron expression: " ++ msg))
      | .ok next => pure (some (expr, next now))
  return { name := req.name, jobType, payload := req.payload, target := req.target, cron := run
           retryPolicy := req.retryPolicy }

/-- The scope of the key plays no part in it. The answer is the schedule, unless it cannot be read
back. -/
def update (cron : Cron) (env : Env) (caller : Caller) (id : String)
    (body : Option UpdateRequest) : Proc Db (Reply (Option ScheduledJob)) :=
  match body with
  | none => pure (.err 400 "invalid request body")
  | some req =>
    match updates cron env.now req with
    | .error r => pure r
    | .ok u =>
      if u.isEmpty then pure (.err 400 "no fields to update")
      else do
        match ← query (fun db =>
            some (db.updateSchedule caller.tenantID id u.apply u.apply_id)) with
        | none => pure (.err 500 "failed to update scheduled job")
        | some n =>
          if n = 0 then pure (.err 404 "scheduled job not found")
          else do
            logAction env caller.tenantID caller.userID "user" "scheduled_job.update"
              "scheduled_job" id []
            match ← read (find caller.tenantID id) with
            | none => pure (.ok 200 none)
            | some sj => pure (.ok 200 sj)

/-- What `Delete`, `Enable` and `Disable` have in common: one statement on the schedule. -/
def act (id verb : String) (stmt : Db → ℕ × Db) : Proc Db (Reply Unit) := do
  match ← query (fun db => some (stmt db)) with
  | none => pure (.err 500 ("failed to " ++ verb ++ " scheduled job"))
  | some n =>
    if n = 0 then pure (.err 404 "scheduled job not found")
    else do
      logAction env caller.tenantID caller.userID "user" ("scheduled_job." ++ verb) "scheduled_job"
        id []
      pure (.ok 204 ())

def delete (env : Env) (caller : Caller) (id : String) : Proc Db (Reply Unit) :=
  act env caller id "delete" (Db.deleteSchedule caller.tenantID id)

def setEnabled (enabled : Bool) (sj : ScheduledJob) : ScheduledJob := { sj with enabled := enabled }

lemma setEnabled_id (enabled : Bool) (sj : ScheduledJob) : (setEnabled enabled sj).id = sj.id := rfl

def enable (env : Env) (caller : Caller) (id : String) : Proc Db (Reply Unit) :=
  act env caller id "enable"
    (Db.updateSchedule caller.tenantID id (setEnabled true) (setEnabled_id true))

def disable (env : Env) (caller : Caller) (id : String) : Proc Db (Reply Unit) :=
  act env caller id "disable"
    (Db.updateSchedule caller.tenantID id (setEnabled false) (setEnabled_id false))

end ScheduledJobs

namespace Scheduler

variable (cron : Cron) (now : Time) (env : Env) (k : ℕ) (sj : ScheduledJob)

/-- `enabled = TRUE AND next_run_at IS NOT NULL AND next_run_at <= $1`. -/
def due : Bool :=
  sj.enabled && sj.nextRunAt.any fun t => decide (t ≤ now)

/-- `ListDueScheduledJobs`, by the time they are due at. -/
def listDue (db : Db) : List ScheduledJob :=
  (env.scanSchedules.order (db.scheduledJobs.select (due env.now))).insertionSort
    fun a b => a.nextRunAt.getD 0 ≤ b.nextRunAt.getD 0

/-- The identifiers drawn for the `k`-th schedule of a tick are its own. -/
def draw : Env :=
  { env with rand := fun pfx i => env.rand pfx (Nat.pair k i) }

/-- `MarkScheduledJobRun` with the next run; an expression the library refuses leaves the schedule
as it is. -/
def advance : Proc Db Unit :=
  match cron.parse sj.cronExpr with
  | .error _ => pure ()
  | .ok next => do
    let _ ← exec (Db.markScheduledJobRun sj.id now (next now))
    pure ()

/-- One schedule of a tick: it advances only if all its jobs were created. -/
def runScheduled : Proc Db Unit := do
  if ← dispatchScheduledJob (draw env k) sj then advance cron env.now sj
  else pure ()

def evaluateScheduledJobs : Proc Db Unit := do
  match ← read (listDue env) with
  | none => pure ()
  | some due =>
    let _ ← loop (fun k sj => do
      runScheduled cron env k sj
      pure (.ok (k + 1) : Except Unit ℕ)) due 0
    pure ()

/-- `runTick`. The alert rules between the schedules and the reaper write nothing. -/
def runTick (cfg : Config) (env : Env) : Proc Db Unit := do
  evaluateScheduledJobs cron env
  reapStuckJobs (timeouts cfg) env.now
  let _ ← Enrollment.reapExpiredEnrollmentTokens env.now
  pure ()

end Scheduler

end Moebius
