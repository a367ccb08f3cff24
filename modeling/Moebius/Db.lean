import Moebius.Models

/-!
The database and the statements the handlers send to it.

Every `UPDATE jobs` of the server is listed in `JobUpdate`; a row changes under one of them by
`JobUpdate.onRow`, which carries the `WHERE` clause and the `SET` list. An insertion is refused
when a key is taken, a referenced row is missing or a number does not fit its column.
-/

namespace Moebius

open APIScope

structure Db where
  tenants : Table TenantRow.id := .empty
  users : Table UserRow.id := .empty
  devices : Table DeviceRow.id := .empty
  groups : Table OwnerRow.id := .empty
  tags : Table OwnerRow.id := .empty
  sites : Table OwnerRow.id := .empty
  deviceGroups : Table Membership.key := .empty
  deviceTags : Table Membership.key := .empty
  deviceSites : Table Membership.key := .empty
  certs : Table CertRow.id := .empty
  enrollmentTokens : Table EnrollmentTokenRow.id := .empty
  jobs : Table JobRow.id := .empty
  jobResults : Table JobResultRow.id := .empty
  inventoryHardware : Table HardwareRow.id := .empty
  inventoryPackages : Table PackageRow.id := .empty
  auditLog : Table AuditRow.id := .empty
  roles : Table RoleRow.id := .empty
  apiKeys : Table APIKeyRow.id := .empty
  scheduledJobs : Table ScheduledJob.id := .empty
  files : Table FileRow.id := .empty

/-- `column < value`, which is not true of `NULL`. -/
def sqlLt (column : Option Time) (value : Time) : Bool :=
  match column with
  | some t => decide (t < value)
  | none => false

/-- The range of an `INT` column. -/
def Int4 (n : ℤ) : Prop := -2147483648 ≤ n ∧ n ≤ 2147483647
  deriving Decidable

/-! ### Updates of job rows -/

inductive JobUpdate
  /-- Check-in: the agent reports a failed update. -/
  | reportFailed (jobID tenantID lastError : String) (now : Time)
  /-- Check-in: dispatched jobs the agent missed. -/
  | requeueStale (agentID tenantID : String) (cutoff : Time)
  /-- Check-in: consent is missing. -/
  | holdQueued (agentID tenantID : String)
  /-- Check-in: a session is active. -/
  | releaseHeld (agentID tenantID : String)
  | markDispatched (jobID : String) (now : Time)
  | markAcknowledged (jobID : String) (now : Time)
  /-- The result of a job. -/
  | finish (jobID : String) (status : JobStatus) (now : Time) (lastError : String)
      (startedAt : Option Time)
  | markCancelled (jobID : String) (now : Time)
  /-- Revocation of a device. -/
  | cancelDevice (deviceID tenantID : String)
  | reapDispatched (cutoff : Time)
  | reapInflight (now cutoff : Time)

namespace JobUpdate

def reaperError : String := "reaper: agent never reported completion within inflight timeout"

def onRow : JobUpdate → JobRow → JobRow
  | reportFailed jobID tenantID lastError now, j =>
    if j.id = jobID ∧ j.tenantID = tenantID ∧ j.status ≠ .failed then
      { j with status := .failed, lastError := some lastError, completedAt := some now }
    else j
  | requeueStale agentID tenantID cutoff, j =>
    if j.deviceID = agentID ∧ j.tenantID = tenantID ∧ j.status = .dispatched ∧
        sqlLt j.dispatchedAt cutoff then
      { j with status := .queued, dispatchedAt := none }
    else j
  | holdQueued agentID tenantID, j =>
    if j.deviceID = agentID ∧ j.tenantID = tenantID ∧ j.status = .queued then
      { j with status := .cdmHold }
    else j
  | releaseHeld agentID tenantID, j =>
    if j.deviceID = agentID ∧ j.tenantID = tenantID ∧ j.status = .cdmHold then
      { j with status := .queued }
    else j
  | markDispatched jobID now, j =>
    if j.id = jobID then { j with status := .dispatched, dispatchedAt := some now } else j
  | markAcknowledged jobID now, j =>
    if j.id = jobID then { j with status := .acknowledged, acknowledgedAt := some now } else j
  | finish jobID status now lastError startedAt, j =>
    if j.id = jobID then
      { j with
        status := status, completedAt := some now, lastError := some lastError
        startedAt := j.startedAt.or startedAt }
    else j
  | markCancelled jobID now, j =>
    if j.id = jobID then { j with status := .cancelled, completedAt := some now } else j
  | cancelDevice deviceID tenantID, j =>
    if j.deviceID = deviceID ∧ j.tenantID = tenantID ∧
        (j.status = .pending ∨ j.status = .queued ∨ j.status = .dispatched) then
      { j with status := .cancelled }
    else j
  | reapDispatched cutoff, j =>
    if j.status = .dispatched ∧ sqlLt j.dispatchedAt cutoff then
      { j with status := .queued, dispatchedAt := none }
    else j
  | reapInflight now cutoff, j =>
    if (j.status = .acknowledged ∨ j.status = .running) ∧
        sqlLt (j.startedAt.or j.acknowledgedAt) cutoff then
      { j with status := .timedOut, completedAt := some now, lastError := some reaperError }
    else j

/-- The columns no `UPDATE` touches. -/
structure SameJob (r r' : JobRow) : Prop where
  id : r'.id = r.id
  tenantID : r'.tenantID = r.tenantID
  deviceID : r'.deviceID = r.deviceID
  parentJobID : r'.parentJobID = r.parentJobID
  type : r'.type = r.type
  payload : r'.payload = r.payload
  retryPolicy : r'.retryPolicy = r.retryPolicy
  retryCount : r'.retryCount = r.retryCount
  maxRetries : r'.maxRetries = r.maxRetries
  createdBy : r'.createdBy = r.createdBy
  createdAt : r'.createdAt = r.createdAt

variable (u : JobUpdate) (r : JobRow)

lemma SameJob.refl : SameJob r r := ⟨rfl, rfl, rfl, rfl, rfl, rfl, rfl, rfl, rfl, rfl, rfl⟩

lemma SameJob.trans {r r' r'' : JobRow} (h : SameJob r r') (h' : SameJob r' r'') :
    SameJob r r'' where
  id := h'.id.trans h.id
  tenantID := h'.tenantID.trans h.tenantID
  deviceID := h'.deviceID.trans h.deviceID
  parentJobID := h'.parentJobID.trans h.parentJobID
  type := h'.type.trans h.type
  payload := h'.payload.trans h.payload
  retryPolicy := h'.retryPolicy.trans h.retryPolicy
  retryCount := h'.retryCount.trans h.retryCount
  maxRetries := h'.maxRetries.trans h.maxRetries
  createdBy := h'.createdBy.trans h.createdBy
  createdAt := h'.createdAt.trans h.createdAt

lemma onRow_same : SameJob r (u.onRow r) := by
  cases u <;> simp only [onRow] <;> split <;> constructor <;> rfl

@[simp] lemma onRow_id : (u.onRow r).id = r.id := (onRow_same u r).id

@[simp] lemma onRow_tenantID : (u.onRow r).tenantID = r.tenantID := (onRow_same u r).tenantID

@[simp] lemma onRow_deviceID : (u.onRow r).deviceID = r.deviceID := (onRow_same u r).deviceID

end JobUpdate

namespace Db

def updateJobs (u : JobUpdate) (db : Db) : Db :=
  { db with jobs := db.jobs.update u.onRow u.onRow_id }

variable (row : PackageRow) (now : Time) (deviceID agentID certID : String) (db : Db)

def job? (id : String) : Option JobRow := db.jobs.get? id

@[simp] lemma job?_updateJobs (u : JobUpdate) (db : Db) (id : String) :
    (db.updateJobs u).job? id = (db.job? id).map u.onRow := by
  simp [job?, updateJobs]

/-- `INSERT INTO jobs`, with the constraints of the table. -/
def insertJob (row : JobRow) (db : Db) : Option Db :=
  if (db.tenants.get? row.tenantID).isSome ∧ (db.devices.get? row.deviceID).isSome ∧
      row.parentJobID.all (fun p => (db.jobs.get? p).isSome) ∧
      row.createdBy.all (fun u => (db.users.get? u).isSome) ∧
      Int4 row.retryCount ∧ Int4 row.maxRetries then
    (db.jobs.insert row).map fun jobs => { db with jobs := jobs }
  else none

lemma insertJob_eq_some {row : JobRow} {db db' : Db} (h : db.insertJob row = some db') :
    (∃ jobs, db.jobs.insert row = some jobs ∧ db' = { db with jobs := jobs }) ∧
      ∀ p ∈ row.parentJobID, (db.job? p).isSome := by
  obtain ⟨hc, jobs, hj, hdb⟩ := eq_some_of_guard h
  refine ⟨⟨jobs, hj, hdb.symm⟩, fun p hp => ?_⟩
  have hall := hc.2.2.1
  rw [Option.mem_def.mp hp] at hall
  simpa [job?] using hall

lemma device_of_insertJob {row : JobRow} {db db' : Db} (h : db.insertJob row = some db') :
    (db.devices.get? row.deviceID).isSome :=
  (eq_some_of_guard h).1.2.1

/-- Check-in: the device row. -/
def updateDevice (req : CheckinRequest) (agentID tenantID : String) (db : Db) : Db :=
  { db with
    devices := db.devices.update
      (fun d =>
        if d.id = agentID ∧ d.tenantID = tenantID then
          { d with
            lastSeenAt := some now, status := .online
            agentVersion := req.status.agentVersion
            cdmEnabled := req.status.cdmEnabled
            cdmSessionActive := req.status.cdmSessionActive
            cdmSessionExpiresAt := req.status.cdmSessionExpiresAt
            sequenceLast := req.sequence }
        else d)
      (fun d => by split <;> rfl) }

/-- `INSERT INTO inventory_packages ... ON CONFLICT DO NOTHING`: the only unique column is the
key, so only a taken key is a conflict. -/
def addPackage : Option Db :=
  if (db.devices.get? row.deviceID).isSome then
    match db.inventoryPackages.insert row with
    | some t => some { db with inventoryPackages := t }
    | none => some db
  else none

def insertPackage : Option Db :=
  if (db.devices.get? row.deviceID).isSome then
    (db.inventoryPackages.insert row).map fun t => { db with inventoryPackages := t }
  else none

def updatePackage (version : String) (now : Time) (deviceID name manager : String) (db : Db) : Db :=
  { db with
    inventoryPackages := db.inventoryPackages.update
      (fun p =>
        if p.deviceID = deviceID ∧ p.name = name ∧ p.manager = manager then
          { p with version := version, lastSeenAt := now }
        else p)
      (fun p => by split <;> rfl) }

def deletePackage (name manager : String) (db : Db) : Db :=
  { db with
    inventoryPackages := db.inventoryPackages.delete fun p =>
      p.deviceID = deviceID ∧ p.name = name ∧ p.manager = manager }

def deletePackages : Db :=
  { db with inventoryPackages := db.inventoryPackages.delete fun p => p.deviceID = deviceID }

def deleteHardware : Db :=
  { db with inventoryHardware := db.inventoryHardware.delete fun r => r.deviceID = deviceID }

def insertHardware (row : HardwareRow) (db : Db) : Option Db :=
  if (db.devices.get? row.deviceID).isSome then
    (db.inventoryHardware.insert row).map fun t => { db with inventoryHardware := t }
  else none

def insertResult (row : JobResultRow) (db : Db) : Option Db :=
  if (db.jobs.get? row.jobID).isSome ∧ row.exitCode.all (fun n => Int4 n) then
    (db.jobResults.insert row).map fun t => { db with jobResults := t }
  else none

def insertAudit (row : AuditRow) (db : Db) : Option Db :=
  if (db.tenants.get? row.tenantID).isSome then
    (db.auditLog.insert row).map fun t => { db with auditLog := t }
  else none

def revokeRows (tenantID deviceID reason : String) (db : Db) : Db :=
  updateJobs (.cancelDevice deviceID tenantID)
    { db with
      devices := db.devices.update
        (fun d =>
          if d.id = deviceID ∧ d.tenantID = tenantID then { d with status := .revoked } else d)
        (fun d => by split <;> rfl)
      certs := db.certs.update
        (fun c =>
          if c.deviceID = deviceID ∧ c.revokedAt = none then
            { c with revokedAt := some now, revocationReason := some reason }
          else c)
        (fun c => by split <;> rfl) }

/-- The transaction of `RevokeDevice`; it fails when the device is not there. -/
def revokeDevice (tenantID deviceID reason : String) (db : Db) : Option Db :=
  if db.devices.rows.any fun d => d.id = deviceID ∧ d.tenantID = tenantID then
    some (db.revokeRows now tenantID deviceID reason)
  else none

lemma revokeDevice_eq_some {now : Time} {tenantID deviceID reason : String} {db db' : Db}
    (h : db.revokeDevice now tenantID deviceID reason = some db') :
    (∃ r, db.devices.get? deviceID = some r ∧ r.id = deviceID ∧ r.tenantID = tenantID) ∧
      db' = db.revokeRows now tenantID deviceID reason := by
  obtain ⟨hany, hdb⟩ := Option.ite_none_right_eq_some.mp h
  obtain ⟨r, hr, hmatch⟩ := List.any_eq_true.mp hany
  obtain ⟨hid, htenant⟩ := of_decide_eq_true hmatch
  exact ⟨⟨r, hid ▸ Table.get?_of_mem hr, hid, htenant⟩, (Option.some.inj hdb).symm⟩

def insertDevice (row : DeviceRow) (db : Db) : Option Db :=
  if (db.tenants.get? row.tenantID).isSome then
    (db.devices.insert row).map fun t => { db with devices := t }
  else none

/-- `INSERT INTO agent_certificates`: serial numbers and fingerprints are unique as well. -/
def insertCert (row : CertRow) (db : Db) : Option Db :=
  if (db.devices.get? row.deviceID).isSome ∧
      ∀ c ∈ db.certs.rows, c.serialNumber ≠ row.serialNumber ∧ c.fingerprint ≠ row.fingerprint then
    (db.certs.insert row).map fun t => { db with certs := t }
  else none

def superseded (c : CertRow) : Bool :=
  c.deviceID = agentID ∧ c.id ≠ certID ∧ c.revokedAt = none

/-- Renewal: the certificates before the new one; the answer is how many there were. -/
def supersedeCerts : ℕ × Db :=
  ((db.certs.select (superseded agentID certID)).length,
    { db with
      certs := db.certs.update
        (fun c =>
          if superseded agentID certID c then
            { c with revokedAt := some now, revocationReason := some "superseded_by_renewal" }
          else c)
        (fun c => by split <;> rfl) })

/-- What a device can be a member of. -/
inductive Owner
  | group | tag | site
  deriving DecidableEq

namespace Owner

def rows : Owner → Db → Table OwnerRow.id
  | group => Db.groups
  | tag => Db.tags
  | site => Db.sites

def members : Owner → Db → Table Membership.key
  | group => Db.deviceGroups
  | tag => Db.deviceTags
  | site => Db.deviceSites

def setMembers : Owner → Table Membership.key → Db → Db
  | group, t, db => { db with deviceGroups := t }
  | tag, t, db => { db with deviceTags := t }
  | site, t, db => { db with deviceSites := t }

/-- The identifiers of this kind that a scope lists. -/
def idsOf : Owner → APIScope → List String
  | group => groupIDs
  | tag => tagIDs
  | site => siteIDs

end Owner

variable (o : Owner) (now : Time) (hash id tenantID : String) (db : Db)

/-- `SELECT EXISTS(SELECT 1 FROM groups WHERE id = $1 AND tenant_id = $2)`, and the same for tags
and sites. -/
def ownerExists : Bool :=
  (o.rows db).rows.any fun r => r.id = id ∧ r.tenantID = tenantID

/-- `INSERT INTO device_groups ... SELECT ... WHERE EXISTS (...) ON CONFLICT DO NOTHING`; the
answer is the number of rows added. Only a row that is added is checked for its device. -/
def addMember (deviceID id tenantID : String) (db : Db) : Option (ℕ × Db) :=
  if ownerExists o id tenantID db then
    match (o.members db).insert ⟨deviceID, id⟩ with
    | none => some (0, db)
    | some t => if (db.devices.get? deviceID).isSome then some (1, o.setMembers t db) else none
  else some (0, db)

/-- `WHERE token_hash = $1 AND used_at IS NULL AND expires_at > $2`. -/
def redeemable (now : Time) (t : EnrollmentTokenRow) : Bool :=
  t.tokenHash = hash ∧ t.usedAt = none ∧ now < t.expiresAt

def insertToken (row : EnrollmentTokenRow) (db : Db) : Option Db :=
  if (db.tenants.get? row.tenantID).isSome ∧ (db.users.get? row.createdBy).isSome ∧
      ∀ t ∈ db.enrollmentTokens.rows, t.tokenHash ≠ row.tokenHash then
    (db.enrollmentTokens.insert row).map fun t => { db with enrollmentTokens := t }
  else none

def peekToken : Option EnrollmentTokenRow :=
  db.enrollmentTokens.rows.find? (redeemable hash now)

/-- `UPDATE enrollment_tokens SET used_at = $1 WHERE ... RETURNING ...`. -/
def consumeToken : Option EnrollmentTokenRow × Db :=
  ((db.peekToken now hash).map fun t => { t with usedAt := some now },
    { db with
      enrollmentTokens := db.enrollmentTokens.update
        (fun t => if redeemable hash now t then { t with usedAt := some now } else t)
        (fun t => by split <;> rfl) })

/-- The answer is the number of rows deleted. -/
def deleteToken (tokenID tenantID : String) (db : Db) : ℕ × Db :=
  ((db.enrollmentTokens.select fun t => t.id = tokenID ∧ t.tenantID = tenantID).length,
    { db with
      enrollmentTokens := db.enrollmentTokens.delete fun t =>
        t.id = tokenID ∧ t.tenantID = tenantID })

/-- The reaper: tokens past their expiry that were never used. -/
def reapTokens : Db :=
  { db with
    enrollmentTokens := db.enrollmentTokens.delete fun t => t.usedAt = none ∧ t.expiresAt < now }

end Db

end Moebius
