import Moebius.Checkin
import Moebius.AgentJobs
import Moebius.Scheduler

/-!
The server as a whole: every operation that creates or moves jobs, and runs of them.

An operation is one call of a handler or one statement of the reaper. In a run the calls come
one after the other, each with its own clock, identifiers, scan orders and failing statements.
-/

namespace Moebius

open Proc Scheduler Jobs

structure ServerConfig where
  quota : Option Defaults
  scheduler : Config

/-- Whatever else the server does to its database; it writes no job row. -/
structure Outside where
  apply : Db → Db
  jobs : ∀ db, (apply db).jobs = db.jobs

inductive Op
  | create (caller : Caller) (body : Option CreateRequest)
  | retry (caller : Caller) (jobID : String)
  | cancel (caller : Caller) (jobID : String)
  | rollback (caller : Caller) (deviceID : String) (reason : Option String)
      (payload : String → String)
  | revoke (caller : Caller) (deviceID : String) (body : Option String)
  | dispatchScheduled (sj : ScheduledJob)
  | checkin (cert : Option ClientCert) (body : Option CheckinRequest)
  | acknowledge (cert : Option ClientCert) (jobID : String)
  | submitResult (cert : Option ClientCert) (jobID : String) (body : Option JobResultSubmission)
  | reapDispatched
  | reapInflight
  | outside (o : Outside)

inductive Answer
  | create (r : Reply CreateResponse)
  | newJob (r : Reply String)
  | noBody (r : Reply Unit)
  | checkin (r : Reply CheckinResponse)
  | background (ok : Bool)

namespace Op

def authTime (env : Env) : Time := env.clock 4

def proc (cfg : ServerConfig) (env : Env) : Op → Proc Db Answer
  | create caller body => do return .create (← Jobs.create env cfg.quota caller body)
  | retry caller jobID => do return .newJob (← Jobs.retry env cfg.quota caller jobID)
  | cancel caller jobID => do return .noBody (← Jobs.cancel env caller jobID)
  | rollback caller deviceID reason payload => do
    return .newJob (← Jobs.rollback env caller deviceID reason payload)
  | revoke caller deviceID body => do return .noBody (← Jobs.revoke env caller deviceID body)
  | dispatchScheduled sj => do return .background (← dispatchScheduledJob env sj)
  | checkin cert body => do
    return .checkin (← authenticate (authTime env) cert fun who => Checkin.serveHTTP env who body)
  | acknowledge cert jobID => do
    return .noBody (← authenticate (authTime env) cert fun who =>
      AgentJobs.acknowledge env who jobID)
  | submitResult cert jobID body => do
    return .noBody (← authenticate (authTime env) cert fun who =>
      AgentJobs.submitResult env who jobID body)
  | reapDispatched => do
    return .background
      (← reapStuckDispatchedJobs (timeouts cfg.scheduler) env.now)
  | reapInflight => do
    return .background
      (← reapStuckInflightJobs (timeouts cfg.scheduler) env.now)
  | outside o => do return .background (← exec o.apply)

/-- The job the operation reports as a failed update. -/
def reported : Op → Option String
  | checkin _ (some req) => req.reported
  | _ => none

/-- The tenant on whose behalf the operation creates jobs that are no retries. -/
def origin : Op → Option String
  | create caller _ => some caller.tenantID
  | rollback caller _ _ _ => some caller.tenantID
  | dispatchScheduled sj => some sj.tenantID
  | _ => none

end Op

/-! ### Runs -/

/-- An operation together with everything its outcome depends on besides the database. -/
structure Call where
  op : Op
  env : Env
  faults : List Bool := []

namespace Call

variable (cfg : ServerConfig) (db : Db) (c : Call)

def answer : Answer :=
  ((c.op.proc cfg c.env).run c.faults db).1

def after : Db :=
  ((c.op.proc cfg c.env).run c.faults db).2

def statements : List (Db × Db) :=
  (c.op.proc cfg c.env).steps c.faults db

end Call

def runCalls (cfg : ServerConfig) (db : Db) (calls : List Call) : Db :=
  calls.foldl (Call.after cfg) db

@[simp] lemma runCalls_nil (cfg : ServerConfig) (db : Db) : runCalls cfg db [] = db := rfl

@[simp] lemma runCalls_cons (cfg : ServerConfig) (db : Db) (c : Call) (calls : List Call) :
    runCalls cfg db (c :: calls) = runCalls cfg (c.after cfg db) calls := rfl

@[simp] lemma runCalls_append (cfg : ServerConfig) (db : Db) (calls calls' : List Call) :
    runCalls cfg db (calls ++ calls') = runCalls cfg (runCalls cfg db calls) calls' :=
  List.foldl_append

/-! ### A small server

One tenant with a user and two devices, a clock that stands still during a call, and no failing
statement. -/

namespace Sample

variable (device : String)

def cert : ClientCert :=
  { commonName := device, serialNumber := "s-" ++ device
    notBefore := 0, notAfter := 1000 * second }

def certRow : CertRow :=
  { id := "c-" ++ device, deviceID := device, serialNumber := "s-" ++ device, fingerprint := ""
    issuedAt := 0, expiresAt := 1000 * second }

def db : Db where
  tenants := ⟨[{ id := "t" }], by decide⟩
  users := ⟨[{ id := "u", tenantID := "t" }], by decide⟩
  devices := ⟨[{ id := "d", tenantID := "t" }, { id := "e", tenantID := "t" }], by decide⟩
  certs := ⟨[certRow "d", certRow "e"], by decide⟩

def cfg : ServerConfig := { quota := none, scheduler := ⟨60, 300, 3600⟩ }

def caller : Caller := { tenantID := "t", userID := "u", isAdmin := true, scope := none }

/-- The world of one call, at one time; every identifier ends in `salt`. -/
def env (now : Time) (salt : String) : Env := .plain now salt

def call (op : Op) (now : Time) (salt : String) : Call := { op, env := env now salt }

def create : Op :=
  .create caller (some
    { type := "exec", target := { deviceIDs := [device] }, payload := "run", retryPolicy := none })

def checkin (status : AgentStatus) : Op :=
  .checkin (some (cert device)) (some { status })

def acknowledge (jobID : String) : Op := .acknowledge (some (cert device)) jobID

def result (jobID status : String) : Op :=
  .submitResult (some (cert device)) jobID (some { status })

/-- A job from its creation to its end. -/
def completedJob : List Call :=
  [call (create "d") 1 "j", call (checkin "d" {}) 2 "k", call (acknowledge "d" "job_j") 3 "l",
    call (result "d" "job_j" "completed") 4 "m"]

end Sample

end Moebius
