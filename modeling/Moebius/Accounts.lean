import Moebius.ApiAuth
import Moebius.Enrollment
import Moebius.Inet
import Moebius.Jobs

/-!
Roles, users and API keys: the endpoints that decide what a credential may do.
-/

namespace Moebius

open Proc Jobs Db

def permissionsSubset (caller requested : List String) : Bool :=
  if requested = [] then true else requested.all fun p => p ∈ caller

namespace Db

variable (tenantID userID keyID roleID : String) (db : Db)

/-- The role as a tenant sees it: a system role or one of its own. -/
def role? : Option RoleRow :=
  (db.roles.get? roleID).filter fun r => r.tenantID = none ∨ r.tenantID = some tenantID

def insertRole (row : RoleRow) (db : Db) : Option Db :=
  if row.tenantID.all fun t => (db.tenants.get? t).isSome then
    (db.roles.insert row).map fun t => { db with roles := t }
  else none

def ownRole (r : RoleRow) : Bool :=
  r.id = roleID ∧ r.tenantID = some tenantID ∧ r.isCustom

/-- The answer is the number of rows updated. -/
def updateRole (name : String) (permissions : List String) (db : Db) : ℕ × Db :=
  ((db.roles.select (ownRole tenantID roleID)).length,
    { db with
      roles := db.roles.update
        (fun r =>
          if ownRole tenantID roleID r then { r with name, permissions := ⟨permissions, true⟩ }
          else r)
        (fun r => by split <;> rfl) })

def countRole : ℕ :=
  (db.users.select fun u => u.roleID = some roleID ∧ u.tenantID = tenantID).length +
    (db.apiKeys.select fun k => k.roleID = some roleID ∧ k.tenantID = tenantID).length

/-- Refused while a user or a key, of any tenant, refers to a role that would go. The answer is the
number of rows deleted. -/
def deleteRole : Option (ℕ × Db) :=
  let gone := db.roles.select (ownRole tenantID roleID)
  if gone ≠ [] ∧ ((db.users.rows.any fun u => u.roleID = some roleID) ∨
      db.apiKeys.rows.any fun k => k.roleID = some roleID) then none
  else some (gone.length, { db with roles := db.roles.delete (ownRole tenantID roleID) })

def user? : Option UserRow :=
  (db.users.get? userID).filter fun u => u.tenantID = tenantID

def insertUser (row : UserRow) (db : Db) : Option Db :=
  if (db.tenants.get? row.tenantID).isSome ∧ row.roleID.all fun r => (db.roles.get? r).isSome then
    (db.users.insert row).map fun t => { db with users := t }
  else none

def ownUser (u : UserRow) : Bool :=
  u.id = userID ∧ u.tenantID = tenantID

/-- `UPDATE users SET ... WHERE id = $1 AND tenant_id = $2`; the answer is the number of rows. -/
def updateUser (f : UserRow → UserRow) (hf : ∀ u, (f u).id = u.id) (db : Db) : ℕ × Db :=
  ((db.users.select (ownUser tenantID userID)).length,
    { db with
      users := db.users.update (fun u => if ownUser tenantID userID u then f u else u)
        (fun u => by split <;> simp [hf]) })

/-- Refused when the role is not there. -/
def updateUserRole : Option (ℕ × Db) :=
  if db.users.select (ownUser tenantID userID) ≠ [] ∧ db.roles.get? roleID = none then none
  else some (db.updateUser tenantID userID (fun u => { u with roleID := some roleID }) fun _ => rfl)

/-- The answer is `none` when another user has the subject, which the index on `sso_subject`
forbids, and else the number of rows. -/
def setUserSSOSubject (subject : Option String) (db : Db) : Option ℕ × Db :=
  if db.users.select (ownUser tenantID userID) ≠ [] ∧ subject.isSome ∧
      db.users.rows.any fun u => u.id ≠ userID ∧ u.ssoSubject = subject then (none, db)
  else
    ((db.updateUser tenantID userID (fun u => { u with ssoSubject := subject }) fun _ => rfl).map
      some id)

def deactivateUser : ℕ × Db :=
  db.updateUser tenantID userID (fun u => { u with roleID := none }) fun _ => rfl

def insertAPIKey (row : APIKeyRow) (db : Db) : Option Db :=
  if (db.tenants.get? row.tenantID).isSome ∧ (row.userID.all fun u => (db.users.get? u).isSome) ∧
      row.roleID.all fun r => (db.roles.get? r).isSome then
    (db.apiKeys.insert row).map fun t => { db with apiKeys := t }
  else none

def apiKey? : Option APIKeyRow :=
  (db.apiKeys.get? keyID).filter fun k => k.tenantID = tenantID

/-- The answer is the number of rows deleted. -/
def deleteAPIKey : ℕ × Db :=
  ((db.apiKeys.select fun k => k.id = keyID ∧ k.tenantID = tenantID).length,
    { db with apiKeys := db.apiKeys.delete fun k => k.id = keyID ∧ k.tenantID = tenantID })

end Db

/-! ### Roles -/

structure Role where
  id : String
  tenantID : String
  name : String
  permissions : List String
  isCustom : Bool

/-- `Scan` of a row: permissions that do not decode are an error. -/
def RoleRow.scan (r : RoleRow) : Option Role :=
  if r.permissions.ok then
    some { id := r.id, tenantID := r.tenantID.getD "", name := r.name
           permissions := r.permissions.value, isCustom := r.isCustom }
  else none

def getRole (tenantID roleID : String) : Proc Db (Except Unit (Option Role)) := do
  match ← read (role? tenantID roleID) with
  | none => pure (.error ())
  | some none => pure (.ok none)
  | some (some row) =>
    match row.scan with
    | none => pure (.error ())
    | some role => pure (.ok (some role))

namespace Roles

def list (env : Env) (caller : Caller) : Proc Db (Reply (List Role)) := do
  match ← read (fun db => orderBy
      (fun a b => if a.isCustom = b.isCustom then env.textLE a.name b.name else b.isCustom)
      (env.scanRoles.order
        (db.roles.select fun r => r.tenantID = none ∨ r.tenantID = some caller.tenantID))) with
  | none => pure (.err 500 "failed to list roles")
  | some rows =>
    match rows.mapM RoleRow.scan with
    | none => pure (.err 500 "failed to list roles")
    | some roles => pure (.ok 200 roles)

def get (caller : Caller) (roleID : String) : Proc Db (Reply Role) := do
  match ← getRole caller.tenantID roleID with
  | .error _ => pure (.err 500 "failed to get role")
  | .ok none => pure (.error 404 "role_not_found" "No role with the given ID exists")
  | .ok (some role) => pure (.ok 200 role)

structure RoleRequest where
  name : String := ""
  permissions : List String := []

/-- What the two guards against escalation answer. -/
def escalation {β : Type} : Reply β :=
  .error 403 "permission_escalation" "cannot grant permissions you do not hold"

def create (env : Env) (caller : Caller) (body : Option RoleRequest) : Proc Db (Reply Role) :=
  match body with
  | none => pure (.err 400 "invalid request body")
  | some req =>
    if req.name = "" ∨ req.permissions = [] then
      pure (.err 400 "name and permissions are required")
    else if !caller.isAdmin && !permissionsSubset caller.permissions req.permissions then
      pure escalation
    else do
      let role : Role :=
        { id := env.newRoleID 0, tenantID := caller.tenantID, name := req.name
          permissions := req.permissions, isCustom := true }
      if ← attempt (insertRole
          { id := role.id, tenantID := some role.tenantID, name := role.name
            permissions := ⟨role.permissions, true⟩, isCustom := true }) then
        logAction env caller.tenantID caller.userID "user" "role.create" "role" role.id
          [("name", req.name)]
        pure (.ok 201 role)
      else pure (.err 500 "failed to create role")

variable (env : Env) (caller : Caller) (roleID : String)

/-- `Update` once the role has been found and the request read. -/
def updateExisting (role : Role) : Proc Db (Reply Role) := do
  match ← query (fun db =>
      some (db.updateRole caller.tenantID role.id role.name role.permissions)) with
  | none => pure (.err 500 "failed to update role")
  | some n =>
    if n = 0 then pure (.err 500 "failed to update role")
    else do
      logAction env caller.tenantID caller.userID "user" "role.update" "role" roleID []
      pure (.ok 200 role)

def update (body : Option RoleRequest) : Proc Db (Reply Role) := do
  match ← getRole caller.tenantID roleID with
  | .error _ => pure (.err 500 "failed to get role")
  | .ok none => pure (.error 404 "role_not_found" "No role with the given ID exists")
  | .ok (some role) =>
    if !role.isCustom then
      pure (.error 403 "system_role_immutable" "System roles cannot be modified")
    else
      match body with
      | none => pure (.err 400 "invalid request body")
      | some req =>
        let role := if req.name ≠ "" then { role with name := req.name } else role
        if req.permissions = [] then updateExisting env caller roleID role
        else if !caller.isAdmin && !permissionsSubset caller.permissions req.permissions then
          pure escalation
        else updateExisting env caller roleID { role with permissions := req.permissions }

/-- What the database says about a failed statement is left out of the messages. -/
def delete (env : Env) (caller : Caller) (roleID : String) : Proc Db (Reply Unit) := do
  match ← read (countRole caller.tenantID roleID) with
  | none => pure (.error 409 "role_in_use" "check role usage")
  | some count =>
    if count > 0 then
      pure (.error 409 "role_in_use"
        ("role is assigned to " ++ toString count ++ " users/keys and cannot be deleted"))
    else
      match ← query (deleteRole caller.tenantID roleID) with
      | none => pure (.error 409 "role_in_use" "delete role")
      | some n =>
        if n = 0 then pure (.error 409 "role_in_use" "role not found or is a system role")
        else do
          logAction env caller.tenantID caller.userID "user" "role.delete" "role" roleID []
          pure (.ok 204 ())

end Roles

namespace Users

structure Page where
  users : List UserRow
  nextCursor : String
  hasMore : Bool
  limit : ℕ

/-- `List`; `before` is how identifiers compare with the cursor. -/
def list (env : Env) (before : String → String → Bool) (caller : Caller) (limit : ℕ)
    (cursor : String) : Proc Db (Reply Page) := do
  match ← read (fun db => (orderBy (fun a b => decide (b.createdAt ≤ a.createdAt))
      (env.scanUsers.order (db.users.select fun u => u.tenantID = caller.tenantID &&
        (cursor == "" || before u.id cursor)))).take (limit + 1)) with
  | none => pure (.err 500 "failed to list users")
  | some rows =>
    let hasMore := decide (limit < rows.length)
    let users := if hasMore then rows.take limit else rows
    pure (.ok 200
      { users, hasMore, limit
        nextCursor := if hasMore then (users.getLast?.map (·.id)).getD "" else "" })

def get (caller : Caller) (userID : String) : Proc Db (Reply UserRow) := do
  match ← read (user? caller.tenantID userID) with
  | none => pure (.err 500 "failed to get user")
  | some none => pure (.error 404 "user_not_found" "No user with the given ID exists")
  | some (some u) => pure (.ok 200 u)

structure InviteRequest where
  email : String := ""
  roleID : String := ""

variable (env : Env) (caller : Caller)

def invite (body : Option InviteRequest) : Proc Db (Reply UserRow) :=
  match body with
  | none => pure (.err 400 "invalid request body")
  | some req =>
    if req.email = "" ∨ req.roleID = "" then pure (.err 400 "email and role_id are required")
    else do
      let user : UserRow :=
        { id := env.newUserID 0, tenantID := caller.tenantID, email := req.email
          roleID := some req.roleID, createdAt := env.now }
      if ← attempt (insertUser user) then
        logAction env caller.tenantID caller.userID "user" "user.invite" "user" user.id
          [("email", req.email), ("role_id", req.roleID)]
        pure (.ok 201 user)
      else pure (.err 500 "failed to create user")

def updateGuard (userID roleID : String) : Proc Db (Except (Reply (Option UserRow)) Unit) :=
  if caller.isAdmin then pure (.ok ())
  else if userID = caller.userID then
    pure (.error (.error 403 "self_role_change" "cannot change your own role"))
  else do
    match ← getRole caller.tenantID roleID with
    | .error _ => pure (.error (.err 500 "failed to load target role"))
    | .ok none =>
      pure (.error (.error 400 "role_not_found" "the requested role does not exist in this tenant"))
    | .ok (some role) =>
      if permissionsSubset caller.permissions role.permissions then pure (.ok ())
      else
        pure (.error (.error 403 "permission_escalation"
          "cannot assign a role with more permissions than your own"))

/-- The body is the new `role_id`; the answer is the user, unless it cannot be read back. -/
def update (env : Env) (caller : Caller) (userID : String) (body : Option String) :
    Proc Db (Reply (Option UserRow)) :=
  match body with
  | none => pure (.err 400 "invalid request body")
  | some roleID =>
    if roleID = "" then pure (.err 400 "role_id is required")
    else do
      match ← updateGuard caller userID roleID with
      | .error r => pure r
      | .ok _ =>
        match ← query (updateUserRole caller.tenantID userID roleID) with
        | none => pure (.error 404 "user_not_found" "update user role")
        | some n =>
          if n = 0 then pure (.error 404 "user_not_found" "user not found")
          else do
            logAction env caller.tenantID caller.userID "user" "user.update_role" "user" userID
              [("role_id", roleID)]
            match ← read (user? caller.tenantID userID) with
            | none => pure (.ok 200 none)
            | some u => pure (.ok 200 u)

def trimmed (subject : String) : String := String.ofList (Inet.trimSpace subject.toList)

def setSSOSubject (userID : String) (body : Option String) : Proc Db (Reply Unit) :=
  match body with
  | none => pure (.err 400 "invalid request body")
  | some subject => do
    let subject := trimmed subject
    match ← query (fun db => some (db.setUserSSOSubject caller.tenantID userID
        (if subject = "" then none else some subject))) with
    | none => pure (.err 500 "failed to set sso subject")
    | some none =>
      pure (.error 409 "sso_subject_taken" "another user is already linked to this SSO subject")
    | some (some n) =>
      if n = 0 then pure (.error 404 "user_not_found" "No user with the given ID exists")
      else do
        if subject = "" then
          logAction env caller.tenantID caller.userID "user" "user.unlink_sso" "user" userID []
        else
          logAction env caller.tenantID caller.userID "user" "user.link_sso" "user" userID
            [("sso_subject", subject)]
        pure (.ok 204 ())

def deactivate (env : Env) (caller : Caller) (userID : String) : Proc Db (Reply Unit) := do
  match ← query (fun db => some (db.deactivateUser caller.tenantID userID)) with
  | none => pure (.error 404 "user_not_found" "deactivate user")
  | some n =>
    if n = 0 then pure (.error 404 "user_not_found" "user not found")
    else do
      logAction env caller.tenantID caller.userID "user" "user.deactivate" "user" userID []
      pure (.ok 204 ())

end Users

/-! ### API keys -/

/-- A key as the server hands it around, without its hash. -/
structure APIKey where
  id : String
  tenantID : String
  userID : String
  name : String
  roleID : String
  scope : Option APIScope
  isAdmin : Bool
  expiresAt : Option Time
  createdAt : Time

/-- `Scan` of a row: `NULL` in a string column is an error, a scope that does not decode is not. -/
def APIKeyRow.scan (k : APIKeyRow) : Option APIKey := do
  let userID ← k.userID
  let roleID ← k.roleID
  return { id := k.id, tenantID := k.tenantID, userID, name := k.name, roleID
           scope := k.scope.map (·.value), isAdmin := k.isAdmin, expiresAt := k.expiresAt
           createdAt := k.createdAt }

def APIKey.row (k : APIKey) (keyHash : String) : APIKeyRow :=
  { id := k.id, tenantID := k.tenantID, userID := some k.userID, name := k.name, keyHash
    roleID := some k.roleID, scope := k.scope.map fun s => ⟨s, true⟩, isAdmin := k.isAdmin
    expiresAt := k.expiresAt, createdAt := k.createdAt }

namespace APIKeys

/-- `SELECT COUNT(*) FROM api_keys WHERE tenant_id = $1`. -/
def countAPIKeys (tenantID : String) (db : Db) : ℤ :=
  (db.apiKeys.select fun k => k.tenantID = tenantID).length

def checkAPIKeys (quota : Option Defaults) (tenantID : String) :
    Proc Db (Except QuotaError Unit) :=
  checkCount quota (·.maxAPIKeys) (countAPIKeys tenantID) 1 0 tenantID

def list (env : Env) (caller : Caller) : Proc Db (Reply (List APIKey)) := do
  match ← read (fun db => orderBy (fun a b => decide (b.createdAt ≤ a.createdAt))
      (env.scanKeys.order (db.apiKeys.select fun k => k.tenantID = caller.tenantID))) with
  | none => pure (.err 500 "failed to list API keys")
  | some rows =>
    match rows.mapM APIKeyRow.scan with
    | none => pure (.err 500 "failed to list API keys")
    | some keys => pure (.ok 200 keys)

structure CreateKeyRequest where
  name : String := ""
  roleID : String := ""
  isAdmin : Bool := false
  scope : Option APIScope := none
  expiresAt : Option Time := none

variable (env : Env) (caller : Caller)

def generateAPIKey : String := "sk_" ++ env.rand "sk" 0

def newKey (req : CreateKeyRequest) : APIKey :=
  { id := env.newAPIKeyID 0, tenantID := caller.tenantID, userID := caller.userID
    name := req.name, roleID := req.roleID, scope := req.scope, isAdmin := req.isAdmin
    expiresAt := req.expiresAt, createdAt := env.now }

/-- `Create` once the quota allows it; the answer carries the key itself. -/
def createChecked (hashAPIKey : String → String) (env : Env) (caller : Caller)
    (req : CreateKeyRequest) : Proc Db (Reply (APIKey × String)) :=
  if req.roleID = "" then pure (.err 400 "role_id is required")
  else do
    match ← getRole caller.tenantID req.roleID with
    | .error _ => pure (.err 500 "failed to load role")
    | .ok none =>
      pure (.error 400 "role_not_found" "role_id does not resolve to a role in this tenant")
    | .ok (some _) =>
      let key := newKey env caller req
      if ← attempt (insertAPIKey (key.row (hashAPIKey (generateAPIKey env)))) then
        logAction env caller.tenantID caller.userID "user" "api_key.create" "api_key" key.id
          [("name", req.name)]
        pure (.ok 201 (key, generateAPIKey env))
      else pure (.err 500 "failed to create API key")

def create (hashAPIKey : String → String) (env : Env) (quota : Option Defaults)
    (caller : Caller) (body : Option CreateKeyRequest) : Proc Db (Reply (APIKey × String)) :=
  match body with
  | none => pure (.err 400 "invalid request body")
  | some req =>
    if req.name = "" then pure (.err 400 "name is required")
    else if req.isAdmin ∧ ¬ caller.isAdmin then
      pure (.err 403 "only admin keys can create admin keys")
    else do
      match ← checkAPIKeys quota caller.tenantID with
      | .error e => pure (quotaReply "api_keys" e)
      | .ok _ => createChecked hashAPIKey env caller req

def delete (keyID : String) : Proc Db (Reply Unit) := do
  let notFound : Reply Unit := .error 404 "api_key_not_found" "No API key with the given ID exists"
  match ← read (fun db => (db.apiKey? caller.tenantID keyID).map APIKeyRow.scan) with
  | none => pure (.err 500 "failed to load api key")
  | some none => pure notFound
  | some (some none) => pure (.err 500 "failed to load api key")
  | some (some (some target)) =>
    if target.isAdmin ∧ ¬ caller.isAdmin then
      pure (.error 403 "admin_key_protected" "only an admin key can revoke another admin key")
    else
      match ← query (fun db => some (db.deleteAPIKey caller.tenantID keyID)) with
      | none => pure notFound
      | some n =>
        if n = 0 then pure notFound
        else do
          logAction env caller.tenantID caller.userID "user" "api_key.delete" "api_key" keyID []
          pure (.ok 204 ())

end APIKeys

namespace Accounts

inductive Request
  | listRoles
  | getRole (roleID : String)
  | createRole (body : Option Roles.RoleRequest)
  | updateRole (roleID : String) (body : Option Roles.RoleRequest)
  | deleteRole (roleID : String)
  | listUsers (limit : ℕ) (cursor : String)
  | getUser (userID : String)
  | inviteUser (body : Option Users.InviteRequest)
  | updateUser (userID : String) (body : Option String)
  | deactivateUser (userID : String)
  | setSSOSubject (userID : String) (body : Option String)
  | listKeys
  | createKey (body : Option APIKeys.CreateKeyRequest)
  | deleteKey (keyID : String)

def Request.permission : Request → String
  | .listRoles | .getRole _ => "roles:read"
  | .createRole _ | .updateRole _ _ | .deleteRole _ => "roles:write"
  | .listUsers _ _ | .getUser _ => "users:read"
  | .inviteUser _ | .updateUser _ _ | .deactivateUser _ | .setSSOSubject _ _ => "users:write"
  | .listKeys => "api_keys:read"
  | .createKey _ | .deleteKey _ => "api_keys:write"

inductive Body
  | none
  | roles (roles : List Role)
  | role (role : Role)
  | users (page : Users.Page)
  | user (user : Option UserRow)
  | keys (keys : List APIKey)
  | newKey (key : APIKey) (raw : String)

structure Config where
  hashAPIKey : String → String
  quota : Option Defaults
  /-- How the database compares text. -/
  textBefore : String → String → Bool := fun a b => decide (a < b)

def answer {β : Type} (f : β → Body) (p : Proc Db (Reply β)) : Proc Db (Reply Body) := do
  match ← p with
  | .ok status body => pure (.ok status (f body))
  | .error status code message => pure (.error status code message)

variable (cfg : Config) (env : Env)

def handler (req : Request) : ApiAuth.Handler Body := fun caller =>
  match req with
  | .listRoles => answer .roles (Roles.list env caller)
  | .getRole roleID => answer .role (Roles.get caller roleID)
  | .createRole body => answer .role (Roles.create env caller body)
  | .updateRole roleID body => answer .role (Roles.update env caller roleID body)
  | .deleteRole roleID => answer (fun _ => .none) (Roles.delete env caller roleID)
  | .listUsers limit cursor => answer .users (Users.list env cfg.textBefore caller limit cursor)
  | .getUser userID => answer (fun u => .user (some u)) (Users.get caller userID)
  | .inviteUser body => answer (fun u => .user (some u)) (Users.invite env caller body)
  | .updateUser userID body => answer .user (Users.update env caller userID body)
  | .deactivateUser userID => answer (fun _ => .none) (Users.deactivate env caller userID)
  | .setSSOSubject userID body =>
    answer (fun _ => .none) (Users.setSSOSubject env caller userID body)
  | .listKeys => answer .keys (APIKeys.list env caller)
  | .createKey body =>
    answer (fun r => .newKey r.1 r.2) (APIKeys.create cfg.hashAPIKey env cfg.quota caller body)
  | .deleteKey keyID => answer (fun _ => .none) (APIKeys.delete env caller keyID)

def serve (caller : Caller) (req : Request) : Proc Db (Reply Body) :=
  ApiAuth.require req.permission (handler cfg env req) caller

end Accounts

end Moebius
