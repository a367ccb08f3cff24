import Moebius.Enrollment
import Moebius.Jobs

/-!
Enrollment of an agent: its token is consumed, its signing request is signed, and the device, its
memberships and its certificate are stored in one transaction.
-/

namespace Moebius.Enroll

open Proc

structure EnrollRequest where
  enrollmentToken : String
  csr : String
  hostname : String
  os : String := ""
  osVersion : String := ""
  arch : String := ""
  agentVersion : String := ""

structure EnrollResponse where
  agentID : String
  certificate : Certificate
  caChain : String
  pollIntervalSeconds : ℕ

variable (C : Crypto) (o : Db.Owner) (deviceID : String) (env : Env) (tenantID : String)
  (quota : Option Jobs.Defaults) (req : EnrollRequest) (body : Option EnrollRequest)
  (token : EnrollmentToken)

/-- `SELECT COUNT(*) FROM devices WHERE tenant_id = $1`. -/
def countDevices (db : Db) : ℤ :=
  (db.devices.select fun d => d.tenantID = tenantID).length

/-- `CheckDevices`; a single device is not reported as attempted. -/
def checkDevices (tenantID : String) : Proc Db (Except Jobs.QuotaError Unit) :=
  Jobs.checkCount quota (·.maxDevices) (countDevices tenantID) 1 0 tenantID

/-! ### The transaction -/

/-- One membership: nothing inserted is only an error if there is no such owner. -/
def insertMember (id : String) : Proc Db (Except Unit Unit) := do
  match ← query (Db.addMember o deviceID id tenantID) with
  | none => pure (.error ())
  | some n =>
    if n = 0 then
      match ← read (Db.ownerExists o id tenantID) with
      | none => pure (.error ())
      | some false => pure (.error ())
      | some true => pure (.ok ())
    else pure (.ok ())

def insertMembers (ids : List String) : Proc Db (Except Unit Unit) :=
  loop (fun _ id => insertMember o deviceID tenantID id) ids ()

def applyScope (scope : APIScope) : Proc Db (Except Unit Unit) := do
  match ← insertMembers .group deviceID tenantID scope.groupIDs with
  | .error e => pure (.error e)
  | .ok _ =>
    match ← insertMembers .tag deviceID tenantID scope.tagIDs with
    | .error e => pure (.error e)
    | .ok _ => insertMembers .site deviceID tenantID scope.siteIDs

/-- A token without a scope adds no memberships. -/
def applyTokenScope : Proc Db (Except Unit Unit) :=
  match token.scope with
  | none => pure (.ok ())
  | some scope => applyScope deviceID token.tenantID scope

def deviceRow : DeviceRow where
  id := env.newDeviceID 0
  tenantID := tenantID
  hostname := req.hostname
  os := req.os
  osVersion := req.osVersion
  arch := req.arch
  agentVersion := req.agentVersion
  status := .online
  registeredAt := env.now

def certRow (x : Certificate) : CertRow where
  id := env.newCertificateID 0
  deviceID := env.newDeviceID 0
  serialNumber := x.serialHex
  fingerprint := C.fingerprint x
  issuedAt := env.now
  expiresAt := env.now + defaultCertValidity

def store (C : Crypto) (env : Env) (req : EnrollRequest) (token : EnrollmentToken)
    (x : Certificate) : Proc Db (Except (Reply EnrollResponse) Unit) := do
  if ← attempt (Db.insertDevice (deviceRow env token.tenantID req)) then
    match ← applyTokenScope (env.newDeviceID 0) token with
    | .error _ =>
      pure (.error (.error 400 "invalid_scope"
        "token scope references unknown or cross-tenant resources"))
    | .ok _ =>
      if ← attempt (Db.insertCert (certRow C env x)) then
        if ← commit then pure (.ok ())
        else pure (.error (.err 500 "failed to enroll"))
      else pure (.error (.err 500 "failed to store certificate"))
  else pure (.error (.err 500 "failed to create device"))

def sign : Option Certificate :=
  C.signCSR (env.clock 5) env.serial req.csr (env.newDeviceID 0) defaultCertValidity

def redeem : Proc Db (Except (Reply EnrollResponse) (EnrollRequest × EnrollmentToken)) :=
  match body with
  | none => pure (.error (.err 400 "invalid request body"))
  | some req =>
    if req.enrollmentToken = "" ∨ req.csr = "" ∨ req.hostname = "" then
      pure (.error (.err 400 "enrollment_token, csr, and hostname are required"))
    else do
      match ← Enrollment.validateAndConsume C env req.enrollmentToken with
      | none => pure (.error (.err 401 "invalid or expired enrollment token"))
      | some token => pure (.ok (req, token))

/-- The handler once the token is consumed. -/
def enrollDevice : Proc Db (Reply EnrollResponse) := do
  match ← checkDevices quota token.tenantID with
  | .error e => pure (Jobs.quotaReply "devices" e)
  | .ok _ =>
    match sign C env req with
    | none => pure (.err 400 "invalid CSR")
    | some x => do
      match ← transaction env.txFaults (store C env req token x)
          (.err 500 "failed to enroll") with
      | .error r => pure r
      | .ok _ => do
        logAction env token.tenantID (env.newDeviceID 0) "agent" "device.enroll" "device"
          (env.newDeviceID 0)
          [("hostname", req.hostname), ("token_id", token.id), ("cert_serial", x.serialHex)]
        pure (.ok 200
          { agentID := env.newDeviceID 0, certificate := x, caChain := C.caChainPEM
            pollIntervalSeconds := 30 })

def serveHTTP : Proc Db (Reply EnrollResponse) := do
  match ← redeem C env body with
  | .error r => pure r
  | .ok (req, token) => enrollDevice C env quota req token

end Moebius.Enroll
