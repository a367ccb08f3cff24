import Moebius.Pki

/-!
Enrollment tokens: an operator creates one, an install script peeks at it, and an agent redeems
it once.
-/

namespace Moebius

/-- `Scan` of a row followed by `json.Unmarshal` of its scope. -/
def EnrollmentTokenRow.decode (row : EnrollmentTokenRow) : Option EnrollmentToken :=
  let token (scope : Option APIScope) : EnrollmentToken :=
    { id := row.id, tenantID := row.tenantID, tokenHash := row.tokenHash
      createdBy := row.createdBy, scope, usedAt := row.usedAt, expiresAt := row.expiresAt
      createdAt := row.createdAt }
  match row.scope with
  | none => some (token none)
  | some none => none
  | some (some scope) => some (token (some scope))

namespace Enrollment

open Proc

variable (C : Crypto) (env : Env) (raw : String)

/-- The reading of the clock the token service takes. -/
def tokenTime : Time := env.clock 6

def peek : Proc Db (Option EnrollmentToken) := do
  match ← read (Db.peekToken (tokenTime env) (C.hashToken raw)) with
  | none => pure none
  | some none => pure none
  | some (some row) => pure row.decode

def validateAndConsume : Proc Db (Option EnrollmentToken) := do
  match ← query (fun db => some (db.consumeToken (tokenTime env) (C.hashToken raw))) with
  | none => pure none
  | some none => pure none
  | some (some row) => pure row.decode

def allInSet (candidates allowed : List String) : Bool :=
  if candidates = [] then true
  else if allowed = [] then false
  else candidates.all fun id => id ∈ allowed

def scopeIsSubset (outer inner : Option APIScope) : Bool :=
  match outer, inner with
  | none, _ => true
  | some _, none => false
  | some outer, some inner =>
    allInSet inner.groupIDs outer.groupIDs && allInSet inner.tagIDs outer.tagIDs &&
      allInSet inner.siteIDs outer.siteIDs && allInSet inner.deviceIDs outer.deviceIDs

def deviceExists (id tenantID : String) (db : Db) : Bool :=
  db.devices.rows.any fun d => d.id = id ∧ d.tenantID = tenantID

/-- One loop of `ValidateScopeTenant`; what the database says about a failed query is left out of
the message. -/
def checkScope (table : String) (exists' : String → Db → Bool) (ids : List String) :
    Proc Db (Except String Unit) :=
  loop (fun _ id => do
    match ← read (exists' id) with
    | none => pure (.error ("validate " ++ table ++ " " ++ id))
    | some false => pure (.error (table ++ " " ++ id ++ " not found in tenant"))
    | some true => pure (.ok ())) ids ()

def validateScopeTenant (tenantID : String) (scope : Option APIScope) :
    Proc Db (Except String Unit) :=
  match scope with
  | none => pure (.ok ())
  | some s => do
    match ← checkScope "groups" (Db.ownerExists .group · tenantID) s.groupIDs with
    | .error e => pure (.error e)
    | .ok _ =>
      match ← checkScope "tags" (Db.ownerExists .tag · tenantID) s.tagIDs with
      | .error e => pure (.error e)
      | .ok _ =>
        match ← checkScope "sites" (Db.ownerExists .site · tenantID) s.siteIDs with
        | .error e => pure (.error e)
        | .ok _ => checkScope "devices" (deviceExists · tenantID) s.deviceIDs

/-! ### Creating and deleting a token -/

def defaultTokenExpiry : Time := 24 * 3600 * second

/-- `CreateToken`: the row that is stored and the token itself. -/
def createToken (tenantID createdBy : String) (scope : Option APIScope) (expiry : Time) :
    Proc Db (Option (EnrollmentTokenRow × String)) :=
  let expiry := if expiry = 0 then defaultTokenExpiry else expiry
  match env.rawToken with
  | none => pure none
  | some raw => do
    let row : EnrollmentTokenRow :=
      { id := env.newEnrollmentTokenID 0, tenantID, tokenHash := C.hashToken raw, createdBy
        scope := scope.map some, expiresAt := env.now + expiry, createdAt := env.now }
    if ← attempt (Db.insertToken row) then pure (some (row, raw)) else pure none

structure CreateTokenRequest where
  expiresInSeconds : ℤ := 0
  scope : Option APIScope := none

structure CreateTokenResponse where
  id : String
  token : String
  expiresAt : Time
  scope : Option APIScope

def keyScope (caller : Caller) : Option APIScope :=
  if caller.isAdmin then none else caller.scope

def create (C : Crypto) (env : Env) (caller : Caller) (body : Option CreateTokenRequest) :
    Proc Db (Reply CreateTokenResponse) :=
  match body with
  | none => pure (.err 400 "invalid request body")
  | some req =>
    if (keyScope caller).isSome ∧ ¬ scopeIsSubset (keyScope caller) req.scope then
      pure (.error 403 "scope_violation"
        "enrollment token scope must be a subset of the API key's scope")
    else do
      match ← validateScopeTenant caller.tenantID req.scope with
      | .error e => pure (.error 400 "invalid_scope" e)
      | .ok _ =>
        let expiry :=
          if req.expiresInSeconds > 0 then int64 (req.expiresInSeconds * second)
          else defaultTokenExpiry
        match ← createToken C env caller.tenantID caller.userID req.scope expiry with
        | none => pure (.err 500 "failed to create enrollment token")
        | some (row, raw) => do
          logAction env caller.tenantID caller.userID "user" "enrollment_token.create"
            "enrollment_token" row.id []
          pure (.ok 201 { id := row.id, token := raw, expiresAt := row.expiresAt
                          scope := req.scope })

def delete (env : Env) (caller : Caller) (tokenID : String) : Proc Db (Reply Unit) := do
  match ← query (fun db => some (db.deleteToken tokenID caller.tenantID)) with
  | none => pure (.err 500 "failed to delete enrollment token")
  | some n =>
    if n = 0 then pure (.err 404 "enrollment token not found")
    else do
      logAction env caller.tenantID caller.userID "user" "enrollment_token.delete"
        "enrollment_token" tokenID []
      pure (.ok 204 ())

def reapExpiredEnrollmentTokens (now : Time) : Proc Db Bool := exec (Db.reapTokens now)

end Enrollment

end Moebius
