import Moebius.Scopes

/-!
Groups, tags and sites, and the devices in them.

The three kinds have the same endpoints but for a few: tags are put on a device, while devices are
put into a group or a site. What they share is written once for an `Owner`, and each kind has its
own endpoints in terms of it.
-/

namespace Moebius

open Proc Db

namespace Db

namespace Owner

def setRows : Owner → Table OwnerRow.id → Db → Db
  | group, t, db => { db with groups := t }
  | tag, t, db => { db with tags := t }
  | site, t, db => { db with sites := t }

section

variable (o o' : Owner) (t : Table Membership.key) (u : Table OwnerRow.id) (db : Db)

@[simp] lemma members_setMembers : o.members (o.setMembers t db) = t := by cases o <;> rfl

@[simp] lemma rows_setRows : o.rows (o.setRows u db) = u := by cases o <;> rfl

@[simp] lemma rows_setMembers : o'.rows (o.setMembers t db) = o'.rows db := by
  cases o <;> cases o' <;> rfl

@[simp] lemma members_setRows : o'.members (o.setRows u db) = o'.members db := by
  cases o <;> cases o' <;> rfl

@[simp] lemma devices_setMembers : (o.setMembers t db).devices = db.devices := by cases o <;> rfl

@[simp] lemma devices_setRows : (o.setRows u db).devices = db.devices := by cases o <;> rfl

@[simp] lemma jobs_setMembers : (o.setMembers t db).jobs = db.jobs := by cases o <;> rfl

@[simp] lemma jobs_setRows : (o.setRows u db).jobs = db.jobs := by cases o <;> rfl

variable {o o'}

lemma members_setMembers_of_ne (h : o' ≠ o) : o'.members (o.setMembers t db) = o'.members db := by
  cases o <;> cases o' <;> first | rfl | exact absurd rfl h

lemma rows_setRows_of_ne (h : o' ≠ o) : o'.rows (o.setRows u db) = o'.rows db := by
  cases o <;> cases o' <;> first | rfl | exact absurd rfl h

end

/-- The word for one of them in messages and in the audit log. -/
def word : Owner → String
  | group => "group"
  | tag => "tag"
  | site => "site"

end Owner

variable (o : Owner) (tenantID deviceID id ownerID : String) (db : Db)

def insertOwner (row : OwnerRow) (db : Db) : Option Db :=
  if (db.tenants.get? row.tenantID).isSome then
    ((o.rows db).insert row).map fun t => o.setRows t db
  else none

def ownOwner (r : OwnerRow) : Bool := r.id = id ∧ r.tenantID = tenantID

/-- The answer is the number of rows updated. -/
def updateOwner (f : OwnerRow → OwnerRow) (hf : ∀ r, (f r).id = r.id) (db : Db) : ℕ × Db :=
  (((o.rows db).select (ownOwner tenantID id)).length,
    o.setRows ((o.rows db).update (fun r => if ownOwner tenantID id r then f r else r)
      (fun r => by split <;> simp [hf])) db)

/-- The rows that refer to a deleted row go with it. The answer is the number of rows deleted. -/
def deleteOwner : ℕ × Db :=
  let gone := (o.rows db).select (ownOwner tenantID id)
  (gone.length,
    o.setMembers ((o.members db).delete fun m => gone.any fun r => r.id = m.ownerID)
      (o.setRows ((o.rows db).delete (ownOwner tenantID id)) db))

/-- `INSERT INTO device_groups (device_id, group_id) VALUES ($1, $2) ON CONFLICT DO NOTHING`, and
the same for tags and sites. The tenant plays no part in it. -/
def addLink : Option Db :=
  match (o.members db).insert ⟨deviceID, ownerID⟩ with
  | none => some db
  | some t =>
    if (db.devices.get? deviceID).isSome ∧ ((o.rows db).get? ownerID).isSome then
      some (o.setMembers t db)
    else none

def removeLink : Db :=
  o.setMembers
    ((o.members db).delete fun m => m.deviceID = deviceID ∧ m.ownerID = ownerID) db

/-- The devices of the tenant in a group or a site. -/
def linkedDevices : List DeviceRow :=
  db.devices.select fun d =>
    d.tenantID = tenantID ∧ (o.members db).rows.any fun m => m.deviceID = d.id ∧ m.ownerID = ownerID

end Db

namespace Owners

structure Body where
  name : String := ""
  location : String := ""

variable (o : Owner) (env : Env) (caller : Caller) (id : String)

/-- Only `UpdateSite` sets a location. -/
def setRow (b : Body) (r : OwnerRow) : OwnerRow :=
  match o with
  | .site => { r with name := b.name, location := b.location }
  | _ => { r with name := b.name }

lemma setRow_id (o : Owner) (b : Body) (r : OwnerRow) : (setRow o b r).id = r.id := by
  cases o <;> rfl

def notFound {β : Type} (o : Owner) : Reply β := .err 404 (o.word ++ " not found")

/-- The check in front of everything that names one of them. -/
def outsideField : Bool :=
  !caller.isAdmin && !idInScopeField caller.scope o id

def list (o : Owner) (env : Env) (caller : Caller) : Proc Db (Reply (List OwnerRow)) := do
  match ← read (fun db => orderBy (fun a b => env.textLE a.name b.name)
      (env.scanOwners.order ((o.rows db).select fun r => r.tenantID = caller.tenantID))) with
  | none => pure (.err 500 ("failed to list " ++ o.word ++ "s"))
  | some rows =>
    if !caller.isAdmin && scopeHasField caller.scope o then
      pure (.ok 200 (rows.filter fun r => idInScopeField caller.scope o r.id))
    else pure (.ok 200 rows)

def find (tenantID id : String) (db : Db) : Option OwnerRow :=
  ((o.rows db).get? id).filter fun r => r.tenantID = tenantID

def get (o : Owner) (caller : Caller) (id : String) : Proc Db (Reply OwnerRow) :=
  if outsideField o caller id then pure (notFound o)
  else do
    match ← read (find o caller.tenantID id) with
    | none => pure (.err 500 ("failed to get " ++ o.word))
    | some none => pure (notFound o)
    | some (some r) => pure (.ok 200 r)

def create (o : Owner) (env : Env) (newID : String) (caller : Caller) (body : Option Body) :
    Proc Db (Reply OwnerRow) :=
  if !caller.isAdmin && scopeHasField caller.scope o then
    pure (.error 403 "scope_violation" ("scoped keys cannot create new " ++ o.word ++ "s"))
  else
    match body with
    | none => pure (.err 400 "invalid request body")
    | some b =>
      if b.name = "" then pure (.err 400 "name is required")
      else do
        let row : OwnerRow :=
          { id := newID, tenantID := caller.tenantID, name := b.name, location := b.location }
        if ← attempt (insertOwner o row) then
          logAction env caller.tenantID caller.userID "user" (o.word ++ ".create") o.word row.id
            [("name", b.name)]
          pure (.ok 201 row)
        else pure (.err 500 ("failed to create " ++ o.word))

/-- The answer is the row, unless it cannot be read back. -/
def update (body : Option Body) : Proc Db (Reply (Option OwnerRow)) :=
  if outsideField o caller id then pure (notFound o)
  else
    match body with
    | none => pure (.err 400 "invalid request body")
    | some b =>
      if b.name = "" then pure (.err 400 "name is required")
      else do
        match ← query (fun db =>
            some (db.updateOwner o caller.tenantID id (setRow o b) (setRow_id o b))) with
        | none => pure (notFound o)
        | some n =>
          if n = 0 then pure (notFound o)
          else do
            logAction env caller.tenantID caller.userID "user" (o.word ++ ".update") o.word id []
            match ← read (find o caller.tenantID id) with
            | none => pure (.ok 200 none)
            | some r => pure (.ok 200 r)

def delete : Proc Db (Reply Unit) :=
  if outsideField o caller id then pure (notFound o)
  else do
    match ← query (fun db => some (db.deleteOwner o caller.tenantID id)) with
    | none => pure (notFound o)
    | some n =>
      if n = 0 then pure (notFound o)
      else do
        logAction env caller.tenantID caller.userID "user" (o.word ++ ".delete") o.word id []
        pure (.ok 204 ())

/-- The scope of the key plays no part in it. Lists of devices leave out the sequence number. -/
def listDevices : Proc Db (Reply (List DeviceRow)) := do
  match ← read (fun db => orderBy (fun a b => env.textLE a.hostname b.hostname)
      (env.scanDevices.order (db.linkedDevices o caller.tenantID id))) with
  | none => pure (.err 500 ("failed to list " ++ o.word ++ " devices"))
  | some rows => pure (.ok 200 (rows.map fun d => { d with sequenceLast := 0 }))

/-- `AddDevicesToGroup` and `AddDevicesToSite`. -/
def addLinks (deviceIDs : List String) : Proc Db (Except Unit Unit) :=
  loop (fun _ deviceID => do
    if ← attempt (addLink o deviceID id) then pure (.ok ()) else pure (.error ())) deviceIDs ()

def addDevices (body : Option (List String)) : Proc Db (Reply Unit) :=
  if outsideField o caller id then pure (notFound o)
  else
    match body with
    | none => pure (.err 400 "invalid request body")
    | some deviceIDs =>
      if deviceIDs = [] then pure (.err 400 "device_ids is required")
      else do
        match ← addLinks o id deviceIDs with
        | .error _ => pure (.err 500 ("failed to add devices to " ++ o.word))
        | .ok _ => do
          logAction env caller.tenantID caller.userID "user" (o.word ++ ".add_devices") o.word id
            [("device_count", toString deviceIDs.length)]
          pure (.ok 204 ())

def removeDevice (deviceID : String) : Proc Db (Reply Unit) :=
  if outsideField o caller id then pure (notFound o)
  else do
    if ← exec (removeLink o deviceID id) then
      logAction env caller.tenantID caller.userID "user" (o.word ++ ".remove_device") o.word id
        [("device_id", deviceID)]
      pure (.ok 204 ())
    else pure (.err 500 ("failed to remove device from " ++ o.word))

end Owners

namespace Groups

variable (env : Env) (caller : Caller)

def list := Owners.list .group env caller
variable (groupID : String) (body : Option String)

def get := Owners.get .group caller groupID

def create :=
  Owners.create .group env (env.newGroupID 0) caller (body.map fun name => { name })

def update :=
  Owners.update .group env caller groupID (body.map fun name => { name })

def delete := Owners.delete .group env caller groupID
def listDevices := Owners.listDevices .group env caller groupID

def addDevices (body : Option (List String)) :=
  Owners.addDevices .group env caller groupID body

def removeDevice (deviceID : String) :=
  Owners.removeDevice .group env caller groupID deviceID

end Groups

namespace Sites

variable (env : Env) (caller : Caller)

def list := Owners.list .site env caller
variable (siteID : String) (body : Option Owners.Body)

def get := Owners.get .site caller siteID

def create :=
  Owners.create .site env (env.newSiteID 0) caller body

def update :=
  Owners.update .site env caller siteID body

def delete := Owners.delete .site env caller siteID
def listDevices := Owners.listDevices .site env caller siteID

def addDevices (body : Option (List String)) :=
  Owners.addDevices .site env caller siteID body

def removeDevice (deviceID : String) :=
  Owners.removeDevice .site env caller siteID deviceID

end Sites

namespace Tags

variable (env : Env) (caller : Caller)

def list := Owners.list .tag env caller

def create (body : Option String) :=
  Owners.create .tag env (env.newTagID 0) caller (body.map fun name => { name })

variable (deviceID tagID : String)

def delete := Owners.delete .tag env caller tagID

/-- `AddTagsToDevice`. -/
def addTags (tagIDs : List String) : Proc Db (Except Unit Unit) :=
  loop (fun _ tagID => do
    if ← attempt (addLink .tag deviceID tagID) then pure (.ok ()) else pure (.error ()))
    tagIDs ()

def addToDevice (body : Option (List String)) : Proc Db (Reply Unit) := do
  if ← outOfScope env caller deviceID then pure (.err 404 "device not found")
  else
    match body with
    | none => pure (.err 400 "invalid request body")
    | some tagIDs =>
      if tagIDs = [] then pure (.err 400 "tag_ids is required")
      else
        match ← addTags deviceID tagIDs with
        | .error _ => pure (.err 500 "failed to add tags to device")
        | .ok _ => do
          logAction env caller.tenantID caller.userID "user" "tag.add_to_device" "device" deviceID
            [("tag_count", toString tagIDs.length)]
          pure (.ok 204 ())

def removeFromDevice : Proc Db (Reply Unit) := do
  if ← outOfScope env caller deviceID then pure (.err 404 "device not found")
  else
    if ← exec (removeLink .tag deviceID tagID) then
      logAction env caller.tenantID caller.userID "user" "tag.remove_from_device" "device" deviceID
        [("tag_id", tagID)]
      pure (.ok 204 ())
    else pure (.err 500 "failed to remove tag from device")

end Tags

end Moebius
