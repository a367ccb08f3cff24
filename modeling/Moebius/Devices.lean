import Moebius.Jobs
import Moebius.Groups

/-!
The requests that show devices, their inventory and their jobs, and the one that renames a device.

The two lists share their shape: resolve the scope, answer with nothing if it resolves to nothing,
otherwise one query whose conditions are put together from the parameters of the request. A list
ends after a hundred rows, the newest first.
-/

namespace Moebius

open Proc

/-- `ORDER BY ... DESC LIMIT 100` on rows in the order of a scan. -/
def newest {ρ : Type} (at' : ρ → Time) (rows : List ρ) : List ρ :=
  (orderBy (fun a b => decide (at' b ≤ at' a)) rows).take 100

lemma selected_of_newest {κ ρ : Type} {key : ρ → κ} {at' : ρ → Time} {scan : Scan ρ}
    {t : Table key} {p : ρ → Bool} {r : ρ} (h : r ∈ newest at' (scan.order (t.select p))) : p r :=
  (List.mem_filter.mp ((scan.mem_order _ _).mp (mem_orderBy.mp (List.mem_of_mem_take h)))).2

/-- A condition of a dynamic query, left out when the parameter is empty. -/
def unlessEmpty (param : String) (p : Bool) : Bool := decide (param = "") || p

/-- A condition on the devices a scope allows, left out when there is no scope. -/
def allowedBy (allowed : Option (List String)) (deviceID : String) : Bool :=
  match allowed with
  | none => true
  | some ids => decide (deviceID ∈ ids)

/-- The scope of a list: an answer to send, or the devices it is restricted to. -/
def listScope {β : Type} (env : Env) (caller : Caller) (nothing : β) :
    Proc Db (Except (Reply β) (Option (List String))) :=
  if caller.isAdmin then pure (.ok none)
  else
    match caller.scope with
    | none => pure (.ok none)
    | some s => do
      match ← resolveScope env caller.tenantID (some s) with
      | .error _ => pure (.error (.err 500 "failed to resolve scope"))
      | .ok allowed =>
        if allowed.getD [] = [] then pure (.error (.ok 200 nothing))
        else pure (.ok allowed)

/-- A list that the scope restricts: of devices or of jobs. -/
def scopedList {β : Type} (env : Env) (caller : Caller) (rows : Option (List String) → Db → List β)
    (failed : String) : Proc Db (Reply (List β)) := do
  match ← listScope env caller [] with
  | .error r => pure r
  | .ok allowed =>
    match ← read (rows allowed) with
    | none => pure (.err 500 failed)
    | some rows => pure (.ok 200 rows)

namespace Db

def deviceOf (tenantID deviceID : String) (db : Db) : Option DeviceRow :=
  (db.devices.get? deviceID).filter fun d => d.tenantID = tenantID

/-- `UPDATE devices SET hostname = $1 WHERE id = $2 AND tenant_id = $3`. -/
def renameDevice (tenantID deviceID hostname : String) (db : Db) : ℕ × Db :=
  ((db.devices.select fun d => d.id = deviceID ∧ d.tenantID = tenantID).length,
    { db with
      devices := db.devices.update
        (fun d =>
          if d.id = deviceID ∧ d.tenantID = tenantID then { d with hostname := hostname } else d)
        (fun d => by split <;> rfl) })

def ownerNames (env : Env) (o : Owner) (deviceID : String) (db : Db) : List String :=
  (env.scanMembers.order ((o.members db).select fun m => m.deviceID = deviceID)).filterMap
    fun m => ((o.rows db).get? m.ownerID).map (·.name)

end Db

namespace Devices

structure Filters where
  status : String := ""
  groupID : String := ""
  tagID : String := ""
  siteID : String := ""
  os : String := ""
  search : String := ""

structure View where
  row : DeviceRow
  groups : List String := []
  tags : List String := []
  sites : List String := []

/-- The device is linked to the group, tag or site, whichever tenant that is of. -/
def linkedTo (o : Db.Owner) (ownerID : String) (db : Db) (d : DeviceRow) : Bool :=
  (o.members db).rows.any fun m => m.deviceID = d.id ∧ m.ownerID = ownerID

variable (env : Env) (ilike : String → String → Bool) (tenantID : String) (f : Filters)
  (allowed : Option (List String))

/-- The conditions `ListDevices` puts together; `ilike` is `hostname ILIKE '%search%'`. -/
def wanted (db : Db) (d : DeviceRow) : Bool :=
  decide (d.tenantID = tenantID) && allowedBy allowed d.id &&
    unlessEmpty f.groupID (linkedTo .group f.groupID db d) &&
    unlessEmpty f.tagID (linkedTo .tag f.tagID db d) &&
    unlessEmpty f.siteID (linkedTo .site f.siteID db d) &&
    unlessEmpty f.os (d.os = f.os) && unlessEmpty f.search (ilike d.hostname f.search) &&
    unlessEmpty f.status (d.status.text = f.status)

/-- `ListDevices`; it does not select the sequence number. -/
def listDevices (db : Db) : List DeviceRow :=
  (newest (·.registeredAt)
    (env.scanDevices.order (db.devices.select (wanted ilike tenantID f allowed db)))).map
      fun d => { d with sequenceLast := 0 }

def list (env : Env) (ilike : String → String → Bool) (caller : Caller) (f : Filters) :
    Proc Db (Reply (List DeviceRow)) :=
  scopedList env caller (listDevices env ilike caller.tenantID f) "failed to list devices"

/-- `GetDevice`: an error on one of the names leaves them out. -/
def getDevice (deviceID : String) : Proc Db (Except Unit (Option View)) := do
  match ← read (Db.deviceOf tenantID deviceID) with
  | none => pure (.error ())
  | some none => pure (.ok none)
  | some (some row) => do
    let groups ← read (Db.ownerNames env .group deviceID)
    let tags ← read (Db.ownerNames env .tag deviceID)
    let sites ← read (Db.ownerNames env .site deviceID)
    pure (.ok (some
      { row, groups := groups.getD [], tags := tags.getD [], sites := sites.getD [] }))

def get (env : Env) (caller : Caller) (deviceID : String) : Proc Db (Reply View) := do
  if ← outOfScope env caller deviceID then pure (.err 404 "device not found")
  else
    match ← getDevice env caller.tenantID deviceID with
    | .error _ => pure (.err 500 "failed to get device")
    | .ok none => pure (.err 404 "device not found")
    | .ok (some d) => pure (.ok 200 d)

/-- The body is the new host name. Nothing is written to the audit log. -/
def update (caller : Caller) (deviceID : String) (body : Option String) : Proc Db (Reply View) := do
  if ← outOfScope env caller deviceID then pure (.err 404 "device not found")
  else
    match body with
    | none => pure (.err 400 "invalid request body")
    | some hostname =>
      if hostname = "" then pure (.err 400 "hostname is required")
      else
        match ← query (fun db => some (db.renameDevice caller.tenantID deviceID hostname)) with
        | none => pure (.err 404 "device not found")
        | some n =>
          if n = 0 then pure (.err 404 "device not found")
          else
            match ← getDevice env caller.tenantID deviceID with
            | .ok (some d) => pure (.ok 200 d)
            | _ => pure (.err 500 "failed to get updated device")

end Devices

namespace Inventory

structure Response where
  hardware : Option HardwareRow := none
  packages : List PackageRow := []

variable (env : Env) (deviceID : String) (db : Db)

def latestHardware : Option HardwareRow :=
  let rows := env.scanHardware.order
    (db.inventoryHardware.select fun h => h.deviceID = deviceID)
  (orderBy (fun a b => decide (b.collectedAt ≤ a.collectedAt)) rows).head?

def packagesOf : List PackageRow :=
  orderBy (fun a b => env.textLE a.name b.name)
    (env.scanPackages.order (db.inventoryPackages.select fun p => p.deviceID = deviceID))

def getDeviceInventory (caller : Caller) (deviceID : String) : Proc Db (Reply Response) := do
  if ← outOfScope env caller deviceID then pure (.err 404 "device not found")
  else
    match ← read (fun db => (db.deviceOf caller.tenantID deviceID).isSome) with
    | some true =>
      match ← read (latestHardware env deviceID) with
      | none => pure (.err 500 "failed to get hardware inventory")
      | some hardware =>
        match ← read (packagesOf env deviceID) with
        | none => pure (.err 500 "failed to get packages")
        | some packages => pure (.ok 200 { hardware, packages })
    | _ => pure (.err 404 "device not found")

end Inventory

namespace Jobs

structure Item where
  id : String
  tenantID : String
  deviceID : String
  type : JobType
  status : JobStatus
  payload : String
  createdAt : Time
  deriving DecidableEq

variable (env : Env) (tenantID : String) (j : JobRow) (f : Filters) (allowed : Option (List String))

def item : Item :=
  { id := j.id, tenantID := j.tenantID, deviceID := j.deviceID, type := j.type, status := j.status
    payload := j.payload, createdAt := j.createdAt }

structure View where
  row : JobRow
  result : Option JobResultRow := none

structure Filters where
  status : String := ""
  type : String := ""
  deviceID : String := ""

def wanted (j : JobRow) : Bool :=
  decide (j.tenantID = tenantID) && allowedBy allowed j.deviceID &&
    unlessEmpty f.status (j.status.text = f.status) &&
    unlessEmpty f.type (j.type.text = f.type) && unlessEmpty f.deviceID (j.deviceID = f.deviceID)

def listJobs (db : Db) : List Item :=
  (newest (·.createdAt) (env.scanJobs.order (db.jobs.select (wanted tenantID f allowed)))).map item

def list (env : Env) (caller : Caller) (f : Filters) : Proc Db (Reply (List Item)) :=
  scopedList env caller (listJobs env caller.tenantID f) "failed to list jobs"

/-- The columns `last_error` and `created_by` are scanned into plain strings, which a `NULL` is
not. -/
def scans : Bool := j.lastError.isSome && j.createdBy.isSome

def resultOf (jobID : String) (db : Db) : Option JobResultRow :=
  (env.scanResults.order (db.jobResults.select fun r => r.jobID = jobID)).head?

def get (env : Env) (caller : Caller) (jobID : String) : Proc Db (Reply View) := do
  match ← read (tenantJob caller.tenantID jobID) with
  | none => pure (.err 500 "failed to get job")
  | some none => pure (.err 404 "job not found")
  | some (some j) =>
    if !scans j then pure (.err 500 "failed to get job")
    else if ← outOfScope env caller j.deviceID then pure (.err 404 "job not found")
    else if isTerminalStatus j.status then do
      let result ← read (resultOf env j.id)
      pure (.ok 200 { row := j, result := result.getD none })
    else pure (.ok 200 { row := j })

end Jobs

end Moebius
