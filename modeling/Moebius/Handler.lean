import Mathlib.Data.List.Sort
import Moebius.Db
import Moebius.Proc

/-!
What every handler draws on: the clock, random identifiers, the order in which scans return
rows, the identity attached by the authentication middleware and the audit log.
-/

namespace Moebius

open Proc

/-- The world outside the database during one request. -/
structure Env where
  /-- The readings of the clock, in the order they are taken. -/
  clock : ℕ → Time
  /-- The random part of the `i`-th identifier drawn of each kind. -/
  rand : String → ℕ → String
  scanJobs : Scan JobRow := .heap
  scanMembers : Scan Membership := .heap
  /-- `json.Unmarshal` of the output of an inventory job. -/
  unmarshalInventory : String → Option FullInventory := fun _ => none
  /-- The serial number drawn for a certificate, unless drawing or signing fails. -/
  serial : Option ℕ := none
  /-- The enrollment token drawn, unless drawing fails. -/
  rawToken : Option String := none
  /-- Which statements inside a transaction of the handler fail. -/
  txFaults : List Bool := []
  scanKeys : Scan APIKeyRow := .heap
  scanRoles : Scan RoleRow := .heap
  scanUsers : Scan UserRow := .heap
  scanOwners : Scan OwnerRow := .heap
  scanDevices : Scan DeviceRow := .heap
  scanHardware : Scan HardwareRow := .heap
  scanPackages : Scan PackageRow := .heap
  scanResults : Scan JobResultRow := .heap
  scanSchedules : Scan ScheduledJob := .heap
  scanFiles : Scan FileRow := .heap
  /-- How the collation compares texts. -/
  textLE : String → String → Bool := fun a b => decide (a ≤ b)

namespace Env

/-- One reading of the clock and one random text throughout. -/
def plain (now : Time) (salt : String) : Env where
  clock _ := now
  rand _ _ := salt

variable (env : Env) (i : ℕ)

def now : Time := env.clock 0

def newID (pfx : String) (i : ℕ) : String := pfx ++ "_" ++ env.rand pfx i

def newJobID : String := env.newID "job" i
def newJobResultID : String := env.newID "jrs" i
def newAuditEntryID : String := env.newID "aud" i
def newInventoryHWID : String := env.newID "ihw" i
def newInventoryPkgID : String := env.newID "ipk" i
def newDeviceID : String := env.newID "dev" i
def newCertificateID : String := env.newID "crt" i
def newEnrollmentTokenID : String := env.newID "enr" i
def newRoleID : String := env.newID "rol" i
def newUserID : String := env.newID "usr" i
def newAPIKeyID : String := env.newID "key" i
def newGroupID : String := env.newID "grp" i
def newTagID : String := env.newID "tag" i
def newSiteID : String := env.newID "sit" i
def newScheduledJobID : String := env.newID "sjb" i
def newTenantID : String := env.newID "ten" i

end Env

/-- `ORDER BY` on rows in the order of a scan. -/
def orderBy {ρ : Type} (le : ρ → ρ → Bool) (rows : List ρ) : List ρ :=
  rows.insertionSort fun a b => le a b = true

@[simp] lemma mem_orderBy {ρ : Type} {le : ρ → ρ → Bool} {rows : List ρ} {r : ρ} :
    r ∈ orderBy le rows ↔ r ∈ rows :=
  (List.perm_insertionSort _ _).mem_iff

variable (allowed : Option (List String)) (env : Env) (table : Db → Table Membership.key)
  (tenantID : String)

/-- `LogAction`: one insertion, whose failure the handlers do not see. -/
def logAction (actorID actorType action resourceType resourceID : String)
    (metadata : List (String × String)) : Proc Db Unit := do
  let _ ← attempt (Db.insertAudit
    { id := env.newAuditEntryID 0, tenantID, actorID, actorType, action, resourceType, resourceID,
      metadata, createdAt := env.clock 1 })
  pure ()

variable {env tenantID} in
lemma wp_logAction {actorID actorType action resourceType resourceID : String}
    {metadata : List (String × String)} {Q : Unit → Db → Prop} {db : Db}
    (hQ : ∀ log, Q () { db with auditLog := log }) :
    (logAction env tenantID actorID actorType action resourceType resourceID metadata).wp
      (fun _ _ => True) Q db := by
  simp only [logAction, bind_eq, wp_bind]
  refine wp_attempt _ _ trivial (hQ db.auditLog) fun db' h => ⟨trivial, ?_⟩
  obtain ⟨-, log, -, rfl⟩ := eq_some_of_guard h
  exact hQ log

/-- What the TLS layer hands over of a verified client certificate. -/
structure ClientCert where
  commonName : String
  serialNumber : String
  notBefore : Time
  notAfter : Time

structure AgentIdentity where
  agentID : String
  tenantID : String

/-- The device of a certificate and whether the certificate was revoked. -/
def lookupCert (agentID serial : String) (db : Db) : Option (String × DeviceStatus × Option Time) :=
  (db.devices.get? agentID).bind fun d =>
    (db.certs.rows.find? fun c => c.deviceID = d.id ∧ c.serialNumber = serial).map fun c =>
      (d.tenantID, d.status, c.revokedAt)

/-- The mTLS middleware up to the point where it passes the request on; `at'` is its own clock
reading. -/
def mtlsCheck {β : Type} (at' : Time) (cert : Option ClientCert) :
    Proc Db (Except (Reply β) AgentIdentity) :=
  match cert with
  | none => pure (.error (.error 401 "missing_cert" "client certificate required"))
  | some cert =>
    if cert.commonName = "" then
      pure (.error (.error 401 "no_agent_id" "certificate missing agent identity"))
    else if at' < cert.notBefore ∨ cert.notAfter < at' then
      pure (.error (.error 401 "cert_expired" "certificate expired"))
    else do
      match ← read (lookupCert cert.commonName cert.serialNumber) with
      | none => pure (.error (.error 500 "" "internal error"))
      | some none => pure (.error (.error 401 "unknown_device" "unknown device or certificate"))
      | some (some (tenantID, status, revokedAt)) =>
        if revokedAt.isSome then
          pure (.error (.error 401 "cert_revoked" "certificate revoked"))
        else if status = .revoked then
          pure (.error (.error 401 "device_revoked" "device revoked"))
        else pure (.ok ⟨cert.commonName, tenantID⟩)

/-- The middleware in front of the agent endpoints. -/
def authenticate {β : Type} (at' : Time) (cert : Option ClientCert)
    (next : AgentIdentity → Proc Db (Reply β)) : Proc Db (Reply β) := do
  match ← mtlsCheck at' cert with
  | .error r => pure r
  | .ok who => next who

/-! ### API callers -/

/-- What the API authentication middleware attaches to a request. -/
structure Caller where
  tenantID : String
  userID : String
  isAdmin : Bool
  scope : Option APIScope
  roleID : String := ""
  permissions : List String := []

def members (ownerID tenantID : String) (db : Db) : List String :=
  (env.scanMembers.order ((table db).select fun m =>
    m.ownerID = ownerID ∧ (db.devices.get? m.deviceID).any fun d => d.tenantID = tenantID)).map
      (·.deviceID)

/-- One expansion loop of a target or a scope: one query for each identifier. -/
def expand (owners : List String) (acc : List String) : Proc Db (Except Unit (List String)) :=
  loop (fun acc ownerID => do
    match ← read (members env table ownerID tenantID) with
    | none => pure (.error ())
    | some ids => pure (.ok (ids.foldl (fun acc id => if id ∈ acc then acc else acc ++ [id]) acc)))
    owners acc

/-- Identifiers without repetition, then groups, tags and sites in this order. -/
def expandAll (deviceIDs groupIDs tagIDs siteIDs : List String) :
    Proc Db (Except Unit (List String)) := do
  let direct := deviceIDs.foldl (fun acc id => if id ∈ acc then acc else acc ++ [id]) []
  match ← expand env Db.deviceGroups tenantID groupIDs direct with
  | .error e => pure (.error e)
  | .ok acc =>
    match ← expand env Db.deviceTags tenantID tagIDs acc with
    | .error e => pure (.error e)
    | .ok acc => expand env Db.deviceSites tenantID siteIDs acc

/-- The allowed devices of a scope; `none` stands for an unrestricted key. -/
def resolveScope (scope : Option APIScope) : Proc Db (Except Unit (Option (List String))) :=
  match scope with
  | none => pure (.ok none)
  | some s => do
    match ← expandAll env tenantID s.deviceIDs s.groupIDs s.tagIDs s.siteIDs with
    | .error e => pure (.error e)
    | .ok ids => pure (.ok (some ids))

def deviceInScope (deviceID : String) : Bool :=
  match allowed with
  | none => true
  | some ids => decide (deviceID ∈ ids)

def filterDeviceIDs (deviceIDs : List String) : List String :=
  match allowed with
  | none => deviceIDs
  | some ids => deviceIDs.filter fun d => d ∈ ids

/-- The scope check of the handlers on one device: a failed resolution lets the caller pass. -/
def outOfScope (caller : Caller) (deviceID : String) : Proc Db Bool :=
  if caller.isAdmin then pure false
  else do
    match ← resolveScope env caller.tenantID caller.scope with
    | .error _ => pure false
    | .ok allowed => pure (!deviceInScope allowed deviceID)

end Moebius
