import Moebius.Accounts
import Moebius.Devices
import Moebius.Schedules

/-!
The endpoints on groups, sites, tags, devices, jobs and schedules, each behind the permission the
router asks for, and every statement they issue.

`Effect` lists the writes of these endpoints and `Issues` says which request issues which write, and
what it has made sure of by then. That every statement of every request is in the list is proved
once; what holds of whole requests and of runs is argued from the list alone.
-/

namespace Moebius.Api

open Proc ScheduledJobs

/-! ### Requests -/

inductive OwnerRequest
  | list
  | get (id : String)
  | create (body : Option Owners.Body)
  | update (id : String) (body : Option Owners.Body)
  | delete (id : String)
  | listDevices (id : String)
  | addDevices (id : String) (body : Option (List String))
  | removeDevice (id deviceID : String)

inductive TagRequest
  | list
  | create (body : Option String)
  | delete (id : String)
  | addToDevice (deviceID : String) (body : Option (List String))
  | removeFromDevice (deviceID tagID : String)

inductive DeviceRequest
  | list (f : Devices.Filters)
  | get (deviceID : String)
  | update (deviceID : String) (body : Option String)
  | revoke (deviceID : String) (body : Option String)
  | inventory (deviceID : String)
  | rollback (deviceID : String) (reason : Option String)

inductive JobRequest
  | list (f : Jobs.Filters)
  | get (jobID : String)
  | create (body : Option Jobs.CreateRequest)
  | cancel (jobID : String)
  | retry (jobID : String)

inductive ScheduleRequest
  | list
  | get (id : String)
  | create (body : Option CreateRequest)
  | update (id : String) (body : Option UpdateRequest)
  | delete (id : String)
  | enable (id : String)
  | disable (id : String)

inductive Request
  | group (r : OwnerRequest)
  | site (r : OwnerRequest)
  | tag (r : TagRequest)
  | device (r : DeviceRequest)
  | job (r : JobRequest)
  | schedule (r : ScheduleRequest)

def OwnerRequest.permission (resource : String) : OwnerRequest → String
  | .list | .get _ | .listDevices _ => resource ++ ":read"
  | .create _ | .update _ _ | .delete _ | .addDevices _ _ | .removeDevice _ _ =>
    resource ++ ":write"

def Request.permission : Request → String
  | .group r => r.permission "groups"
  | .site r => r.permission "sites"
  | .tag .list => "tags:read"
  | .tag _ => "tags:write"
  | .device (.list _) | .device (.get _) => "devices:read"
  | .device (.update _ _) | .device (.rollback _ _) => "devices:write"
  | .device (.revoke _ _) => "devices:revoke"
  | .device (.inventory _) => "inventory:read"
  | .job (.list _) | .job (.get _) => "jobs:read"
  | .job (.create _) | .job (.cancel _) => "jobs:create"
  | .job (.retry _) => "jobs:retry"
  | .schedule .list | .schedule (.get _) => "scheduled_jobs:read"
  | .schedule _ => "scheduled_jobs:write"

inductive Body
  | none
  | owners (rows : List OwnerRow)
  | owner (row : Option OwnerRow)
  | devices (rows : List DeviceRow)
  | device (view : Devices.View)
  | inventory (deviceID : String) (shown : Inventory.Response)
  | jobs (items : List Jobs.Item)
  | job (view : Jobs.View)
  | created (r : Jobs.CreateResponse)
  | newJob (id : String)
  | schedules (rows : List ScheduledJob)
  | schedule (row : Option ScheduledJob)

structure Config where
  quota : Option Jobs.Defaults
  cron : Cron
  /-- `hostname ILIKE '%search%'`. -/
  ilike : String → String → Bool
  /-- The JSON payload of a rollback with this reason. -/
  rollbackPayload : String → String

def answer {β : Type} (f : β → Body) (p : Proc Db (Reply β)) : Proc Db (Reply Body) := do
  match ← p with
  | .ok status body => pure (.ok status (f body))
  | .error status code message => pure (.error status code message)

variable (cfg : Config) (env : Env) (caller : Caller)

def groupHandler : OwnerRequest → Proc Db (Reply Body)
  | .list => answer .owners (Groups.list env caller)
  | .get id => answer (fun r => .owner (some r)) (Groups.get caller id)
  | .create body =>
    answer (fun r => .owner (some r)) (Groups.create env caller (body.map (·.name)))
  | .update id body => answer .owner (Groups.update env caller id (body.map (·.name)))
  | .delete id => answer (fun _ => .none) (Groups.delete env caller id)
  | .listDevices id => answer .devices (Groups.listDevices env caller id)
  | .addDevices id body => answer (fun _ => .none) (Groups.addDevices env caller id body)
  | .removeDevice id deviceID =>
    answer (fun _ => .none) (Groups.removeDevice env caller id deviceID)

def siteHandler : OwnerRequest → Proc Db (Reply Body)
  | .list => answer .owners (Sites.list env caller)
  | .get id => answer (fun r => .owner (some r)) (Sites.get caller id)
  | .create body => answer (fun r => .owner (some r)) (Sites.create env caller body)
  | .update id body => answer .owner (Sites.update env caller id body)
  | .delete id => answer (fun _ => .none) (Sites.delete env caller id)
  | .listDevices id => answer .devices (Sites.listDevices env caller id)
  | .addDevices id body => answer (fun _ => .none) (Sites.addDevices env caller id body)
  | .removeDevice id deviceID =>
    answer (fun _ => .none) (Sites.removeDevice env caller id deviceID)

def tagHandler : TagRequest → Proc Db (Reply Body)
  | .list => answer .owners (Tags.list env caller)
  | .create body => answer (fun r => .owner (some r)) (Tags.create env caller body)
  | .delete id => answer (fun _ => .none) (Tags.delete env caller id)
  | .addToDevice deviceID body =>
    answer (fun _ => .none) (Tags.addToDevice env caller deviceID body)
  | .removeFromDevice deviceID tagID =>
    answer (fun _ => .none) (Tags.removeFromDevice env caller deviceID tagID)

def deviceHandler : DeviceRequest → Proc Db (Reply Body)
  | .list f => answer .devices (Devices.list env cfg.ilike caller f)
  | .get deviceID => answer .device (Devices.get env caller deviceID)
  | .update deviceID body => answer .device (Devices.update env caller deviceID body)
  | .revoke deviceID body => answer (fun _ => .none) (Jobs.revoke env caller deviceID body)
  | .inventory deviceID =>
    answer (.inventory deviceID) (Inventory.getDeviceInventory env caller deviceID)
  | .rollback deviceID reason =>
    answer .newJob (Jobs.rollback env caller deviceID reason cfg.rollbackPayload)

def jobHandler : JobRequest → Proc Db (Reply Body)
  | .list f => answer .jobs (Jobs.list env caller f)
  | .get jobID => answer .job (Jobs.get env caller jobID)
  | .create body => answer .created (Jobs.create env cfg.quota caller body)
  | .cancel jobID => answer (fun _ => .none) (Jobs.cancel env caller jobID)
  | .retry jobID => answer .newJob (Jobs.retry env cfg.quota caller jobID)

def scheduleHandler : ScheduleRequest → Proc Db (Reply Body)
  | .list => answer .schedules (list env caller)
  | .get id => answer (fun sj => .schedule (some sj)) (get caller id)
  | .create body =>
    answer (fun sj => .schedule (some sj)) (create cfg.cron env caller body)
  | .update id body => answer .schedule (update cfg.cron env caller id body)
  | .delete id => answer (fun _ => .none) (delete env caller id)
  | .enable id => answer (fun _ => .none) (enable env caller id)
  | .disable id => answer (fun _ => .none) (disable env caller id)

def handler (req : Request) : ApiAuth.Handler Body := fun caller =>
  match req with
  | .group r => groupHandler env caller r
  | .site r => siteHandler env caller r
  | .tag r => tagHandler env caller r
  | .device r => deviceHandler cfg env caller r
  | .job r => jobHandler cfg env caller r
  | .schedule r => scheduleHandler cfg env caller r

def serve (req : Request) : Proc Db (Reply Body) :=
  ApiAuth.require req.permission (handler cfg env req) caller

end Moebius.Api
