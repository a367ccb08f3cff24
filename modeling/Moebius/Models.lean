import Mathlib.Data.Int.Notation
import Moebius.Table

/-!
The rows the server stores and the messages agents exchange with it.

Identifiers are text and times are integers; JSON columns hold what their JSON decodes to,
or the raw text where the server never looks inside.
-/

namespace Moebius

/-- Nanoseconds on the server's or the agent's clock. -/
abbrev Time := ℤ

def second : Time := 1000000000

/-- An integer as a signed 64-bit one. -/
def int64 (n : ℤ) : ℤ := n.bmod 0x10000000000000000

/-- The zero value of a time in Go, at the start of the year 1. -/
def zeroTime : Time := -62135596800 * second

inductive JobStatus
  | pending | queued | cdmHold | dispatched | acknowledged
  | running | completed | failed | timedOut | cancelled
  deriving DecidableEq

def JobStatus.text : JobStatus → String
  | .pending => "pending"
  | .queued => "queued"
  | .cdmHold => "cdm_hold"
  | .dispatched => "dispatched"
  | .acknowledged => "acknowledged"
  | .running => "running"
  | .completed => "completed"
  | .failed => "failed"
  | .timedOut => "timed_out"
  | .cancelled => "cancelled"

inductive JobType
  | exec | packageInstall | packageRemove | packageUpdate
  | inventoryFull | fileTransfer | agentUpdate | agentRollback
  deriving DecidableEq

def JobType.text : JobType → String
  | .exec => "exec"
  | .packageInstall => "package_install"
  | .packageRemove => "package_remove"
  | .packageUpdate => "package_update"
  | .inventoryFull => "inventory_full"
  | .fileTransfer => "file_transfer"
  | .agentUpdate => "agent_update"
  | .agentRollback => "agent_rollback"

structure RetryPolicy where
  maxRetries : ℤ
  retryDelaySeconds : ℤ
  deriving DecidableEq

structure JobRow where
  id : String
  tenantID : String
  deviceID : String
  parentJobID : Option String := none
  type : JobType
  status : JobStatus
  payload : String
  retryPolicy : Option RetryPolicy := none
  retryCount : ℤ := 0
  maxRetries : ℤ := 0
  lastError : Option String := none
  createdBy : Option String := none
  createdAt : Time
  dispatchedAt : Option Time := none
  acknowledgedAt : Option Time := none
  startedAt : Option Time := none
  completedAt : Option Time := none
  deriving DecidableEq

structure JobResultRow where
  id : String
  jobID : String
  exitCode : Option ℤ
  stdout : String
  stderr : String
  startedAt : Option Time
  completedAt : Option Time
  deriving DecidableEq

structure JobTarget where
  deviceIDs : List String := []
  groupIDs : List String := []
  tagIDs : List String := []
  siteIDs : List String := []

structure ScheduledJob where
  id : String
  tenantID : String
  name : String
  jobType : JobType
  payload : String
  target : Option JobTarget
  cronExpr : String
  retryPolicy : Option RetryPolicy
  enabled : Bool
  lastRunAt : Option Time
  nextRunAt : Option Time

/-! ### Tenants, users and devices -/

structure TenantQuotas where
  maxDevices : ℤ
  maxQueuedJobs : ℤ
  maxAPIKeys : ℤ
  maxFileSizeBytes : ℤ

structure TenantRow where
  id : String
  quotas : Option TenantQuotas := none
  name : String := ""
  slug : String := ""

structure UserRow where
  id : String
  tenantID : String
  email : String := ""
  roleID : Option String := none
  ssoSubject : Option String := none
  createdAt : Time := 0
  deriving DecidableEq

structure APIScope where
  groupIDs : List String := []
  tagIDs : List String := []
  siteIDs : List String := []
  deviceIDs : List String := []
  deriving DecidableEq

/-- What `json.Unmarshal` leaves in its destination, and whether it ended without an error. -/
structure Decoded (α : Type) where
  value : α
  ok : Bool := true
  deriving DecidableEq

/-- A row of `roles`; a system role has no tenant. -/
structure RoleRow where
  id : String
  tenantID : Option String := none
  name : String := ""
  permissions : Decoded (List String)
  isCustom : Bool := false
  deriving DecidableEq

structure APIKeyRow where
  id : String
  tenantID : String
  userID : Option String
  name : String := ""
  keyHash : String
  roleID : Option String
  scope : Option (Decoded APIScope) := none
  isAdmin : Bool := false
  expiresAt : Option Time := none
  createdAt : Time := 0
  deriving DecidableEq

inductive DeviceStatus
  | online | offline | unknown | revoked
  deriving DecidableEq

def DeviceStatus.text : DeviceStatus → String
  | .online => "online"
  | .offline => "offline"
  | .unknown => "unknown"
  | .revoked => "revoked"

structure DeviceRow where
  id : String
  tenantID : String
  hostname : String := ""
  os : String := ""
  osVersion : String := ""
  arch : String := ""
  agentVersion : String := ""
  status : DeviceStatus := .unknown
  lastSeenAt : Option Time := none
  registeredAt : Time := 0
  cdmEnabled : Bool := false
  cdmSessionActive : Bool := false
  cdmSessionExpiresAt : Option Time := none
  sequenceLast : ℤ := 0
  deriving DecidableEq

/-- A row of `groups`, `tags` or `sites`; only sites have a location. -/
structure OwnerRow where
  id : String
  tenantID : String
  name : String := ""
  location : String := ""
  deriving DecidableEq

/-- A row of `device_groups`, `device_tags` or `device_sites`. -/
structure Membership where
  deviceID : String
  ownerID : String
  deriving DecidableEq

def Membership.key (m : Membership) : String × String := (m.deviceID, m.ownerID)

structure CertRow where
  id : String
  deviceID : String
  serialNumber : String
  fingerprint : String
  issuedAt : Time
  expiresAt : Time
  revokedAt : Option Time := none
  revocationReason : Option String := none
  deriving DecidableEq

/-- A row of `enrollment_tokens`. The scope is `NULL`, or JSON that may not decode. -/
structure EnrollmentTokenRow where
  id : String
  tenantID : String
  tokenHash : String
  createdBy : String
  scope : Option (Option APIScope) := none
  usedAt : Option Time := none
  expiresAt : Time
  createdAt : Time
  deriving DecidableEq

structure EnrollmentToken where
  id : String
  tenantID : String
  tokenHash : String
  createdBy : String
  scope : Option APIScope
  usedAt : Option Time
  expiresAt : Time
  createdAt : Time
  deriving DecidableEq

structure FileRow where
  id : String
  tenantID : String
  filename : String
  sizeBytes : ℤ
  sha256 : String
  signature : Option String := none
  signatureKeyID : Option String := none
  signatureVerified : Bool := false
  mimeType : Option String := none
  storageBackend : String
  storagePath : String
  createdBy : Option String := none
  createdAt : Time
  deriving DecidableEq

structure HardwareRow where
  id : String
  deviceID : String
  collectedAt : Time
  cpu : String
  ramMB : ℤ
  disks : String
  networkInterfaces : String
  deriving DecidableEq

structure PackageRow where
  id : String
  deviceID : String
  name : String
  version : String
  manager : String
  lastSeenAt : Time
  deriving DecidableEq

structure AuditRow where
  id : String
  tenantID : String
  actorID : String
  actorType : String
  action : String
  resourceType : String
  resourceID : String
  metadata : List (String × String)
  createdAt : Time
  deriving DecidableEq

structure AgentStatus where
  cdmEnabled : Bool := false
  cdmSessionActive : Bool := false
  cdmSessionExpiresAt : Option Time := none
  agentVersion : String := ""
  lastUpdateFailed : Bool := false
  lastUpdateJobID : String := ""
  lastUpdateError : String := ""

structure PackageRef where
  name : String
  version : String
  manager : String
  deriving DecidableEq

structure PackageDelta where
  added : List PackageRef := []
  removed : List PackageRef := []
  updated : List PackageRef := []

structure InventoryDelta where
  packages : Option PackageDelta

structure CheckinRequest where
  sequence : ℤ := 0
  status : AgentStatus
  inventoryDelta : Option InventoryDelta := none

/-- The job a status message reports as a failed update. -/
def AgentStatus.reported (s : AgentStatus) : Option String :=
  if s.lastUpdateFailed ∧ s.lastUpdateJobID ≠ "" then some s.lastUpdateJobID else none

lemma AgentStatus.reported_ne_none {s : AgentStatus} :
    s.reported ≠ none ↔ s.lastUpdateFailed ∧ s.lastUpdateJobID ≠ "" := by
  unfold AgentStatus.reported
  split <;> simp_all

def CheckinRequest.reported (req : CheckinRequest) : Option String := req.status.reported

structure JobDispatch where
  jobID : String
  type : JobType
  payload : String
  createdAt : Time
  deriving DecidableEq

structure CheckinResponse where
  timestamp : Time
  jobs : List JobDispatch
  deriving DecidableEq

structure JobResultSubmission where
  status : String
  exitCode : Option ℤ := none
  stdout : String := ""
  stderr : String := ""
  message : String := ""
  startedAt : Option Time := none
  completedAt : Option Time := none

structure FullInventoryHW where
  cpu : String
  ramMB : ℤ
  disks : String
  networkInterfaces : String

structure FullInventory where
  hardware : Option FullInventoryHW
  packages : List PackageRef

/-- What a handler writes to the client. -/
inductive Reply (β : Type)
  | ok (status : ℕ) (body : β)
  | error (status : ℕ) (code message : String)

def httpCodeToErrorCode : ℕ → String
  | 400 => "bad_request"
  | 401 => "unauthorized"
  | 403 => "forbidden"
  | 404 => "not_found"
  | 405 => "method_not_allowed"
  | 409 => "conflict"
  | 429 => "rate_limited"
  | _ => "internal_error"

namespace Reply

variable {β : Type}

/-- The `Error` helper of the handlers. -/
def err (status : ℕ) (message : String) : Reply β :=
  .error status (httpCodeToErrorCode status) message

def status : Reply β → ℕ
  | .ok n _ => n
  | .error n _ _ => n

/-- The answer is a success for an HTTP client. -/
def Is2xx (r : Reply β) : Prop := 200 ≤ r.status ∧ r.status < 300
  deriving Decidable

end Reply

end Moebius
