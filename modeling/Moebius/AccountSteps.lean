import Moebius.Accounts
import Moebius.CheckThenAct

/-!
The statements behind the endpoints on roles, users and API keys, for one caller.

`AccountStep` says what each of them does to the database, and what the handler has made sure of
before. What is to hold of all fourteen endpoints, whatever they are asked and whichever of their
statements fail, is then a matter of eleven cases.
-/

namespace Moebius

open Proc ApiAuth Accounts Users APIKeys Db Option

/-- A statement of a request of the caller, where `db` is the database before the request. -/
inductive AccountStep (caller : Caller) (db : Db) : Request → Db → Db → Prop
  | same {req : Request} (a : Db) : AccountStep caller db req a a
  | audit {req : Request} {row : AuditRow} {a b : Db} (h : a.insertAudit row = some b) :
      AccountStep caller db req a b
  | insertRole {body : Option Roles.RoleRequest} {row : RoleRow} {b : Db}
      (htenant : row.tenantID = some caller.tenantID)
      (hheld : caller.isAdmin = false → row.permissions.value ⊆ caller.permissions)
      (h : db.insertRole row = some b) : AccountStep caller db (.createRole body) db b
  | updateRole {body : Option Roles.RoleRequest} {roleID name : String} {permissions : List String}
      (hheld : caller.isAdmin = false →
        permissions = permissionsOf db roleID ∨ permissions ⊆ caller.permissions) :
      AccountStep caller db (.updateRole roleID body) db
        (db.updateRole caller.tenantID roleID name permissions).2
  | deleteRole {roleID : String} {n : ℕ} {b : Db}
      (h : db.deleteRole caller.tenantID roleID = some (n, b)) :
      AccountStep caller db (.deleteRole roleID) db b
  | insertUser {body : Option InviteRequest} {row : UserRow} {b : Db}
      (htenant : row.tenantID = caller.tenantID) (hsso : row.ssoSubject = none)
      (h : db.insertUser row = some b) : AccountStep caller db (.inviteUser body) db b
  | updateUserRole {userID roleID : String} {n : ℕ} {b : Db}
      (hheld : caller.isAdmin = false → permissionsOf db roleID ⊆ caller.permissions)
      (h : db.updateUserRole caller.tenantID userID roleID = some (n, b)) :
      AccountStep caller db (.updateUser userID (some roleID)) db b
  | deactivateUser (userID : String) : AccountStep caller db (.deactivateUser userID) db
      (db.deactivateUser caller.tenantID userID).2
  | setUserSSOSubject {userID given : String} {subject : Option String}
      (hgiven : subject.isSome → trimmed given ≠ "") :
      AccountStep caller db (.setSSOSubject userID (some given)) db
        (db.setUserSSOSubject caller.tenantID userID subject).2
  | insertAPIKey {req : CreateKeyRequest} {row : APIKeyRow} {b : Db}
      (htenant : row.tenantID = caller.tenantID) (howner : row.userID = some caller.userID)
      (hrole : row.roleID = some req.roleID) (hscope : row.scope.map (·.value) = req.scope)
      (hflag : caller.isAdmin = false → row.isAdmin = false)
      (h : db.insertAPIKey row = some b) : AccountStep caller db (.createKey (some req)) db b
  | deleteAPIKey (keyID : String) : AccountStep caller db (.deleteKey keyID) db
      (db.deleteAPIKey caller.tenantID keyID).2

namespace AccountStep

variable {caller : Caller} {req : Request} {db : Db}

lemma writes {a b : Db} (h : AccountStep caller db req a b) : b = { a with
      users := b.users, roles := b.roles, apiKeys := b.apiKeys, auditLog := b.auditLog } ∧
    ∀ k ∈ b.apiKeys.rows, k ∈ a.apiKeys.rows ∨
      (k.tenantID = caller.tenantID ∧ k.userID = some caller.userID) := by
  cases h with
  | same => exact ⟨rfl, fun _ hk => .inl hk⟩
  | audit h | insertRole htenant hheld h | insertUser htenant hsso h =>
    obtain ⟨-, t, -, rfl⟩ := eq_some_of_guard h
    exact ⟨rfl, fun _ hk => .inl hk⟩
  | updateRole | deactivateUser => exact ⟨rfl, fun _ hk => .inl hk⟩
  | deleteRole h =>
    simp only [Db.deleteRole] at h
    split at h
    · cases h
    · cases h
      exact ⟨rfl, fun _ hk => .inl hk⟩
  | updateUserRole hheld h =>
    unfold Db.updateUserRole at h
    split at h
    · cases h
    · cases h
      exact ⟨rfl, fun _ hk => .inl hk⟩
  | setUserSSOSubject =>
    unfold Db.setUserSSOSubject
    split
    · exact ⟨rfl, fun _ hk => .inl hk⟩
    · exact ⟨rfl, fun _ hk => .inl hk⟩
  | insertAPIKey htenant howner hrole hscope hflag h =>
    obtain ⟨-, t, ht, rfl⟩ := eq_some_of_guard h
    refine ⟨rfl, fun k hk => ?_⟩
    rcases (Table.mem_insert ht).mp hk with hk | rfl
    · exact .inl hk
    · exact .inr ⟨htenant, howner⟩
  | deleteAPIKey keyID => exact ⟨rfl, fun _ hk => .inl (List.mem_filter.mp hk).1⟩

/-! ### Roles -/

lemma subset_of_permissionsSubset {held requested : List String}
    (h : permissionsSubset held requested = true) : requested ⊆ held := by
  intro p hp
  unfold permissionsSubset at h
  split at h
  · rename_i hnil
    rw [hnil] at hp
    cases hp
  · exact of_decide_eq_true (List.all_eq_true.mp h p hp)

lemma readOnly_getRole (tenantID roleID : String) : (getRole tenantID roleID).ReadOnly := by
  refine readOnly_bind (readOnly_read _) fun r => ?_
  rcases r with _ | _ | row
  · trivial
  · trivial
  · rcases hscan : row.scan with _ | role <;> simp only [hscan] <;> trivial

lemma wp_getRole {R : Db → Db → Prop} {tenantID roleID : String}
    {Q : Except Unit (Option Role) → Db → Prop} (hrefl : R db db) (herr : Q (.error ()) db)
    (hnone : Q (.ok none) db)
    (hsome : ∀ role : Role, role.id = roleID → role.permissions = permissionsOf db roleID →
      Q (.ok (some role)) db) : (getRole tenantID roleID).wp R Q db := by
  simp only [getRole, bind_eq, wp_bind, wp_read]
  refine ⟨⟨hrefl, ?_⟩, herr⟩
  rcases hrow : role? tenantID roleID db with _ | row
  · exact hnone
  have hget := (filter_eq_some_iff.mp hrow).1
  have hid : row.id = roleID := Table.key_of_get? hget
  rcases hscan : row.scan with _ | role
  · simp only [hscan]
    exact herr
  simp only [hscan]
  unfold RoleRow.scan at hscan
  split at hscan
  · cases hscan
    refine hsome _ hid ?_
    rw [permissionsOf, hget]
    rfl
  · cases hscan

variable {β : Type} {p : Proc Db (Reply β)} (env : Env)

lemma wp_log_bind {a : Db} {tenantID actorID actorType action resourceType resourceID : String}
    {metadata : List (String × String)} {f : Unit → Proc Db β}
    (hf : ∀ b, (f ()).wp (AccountStep caller db req) (fun _ _ => True) b) :
    ((logAction env tenantID actorID actorType action resourceType resourceID metadata).bind f).wp
      (AccountStep caller db req) (fun _ _ => True) a := by
  simp only [logAction, bind_eq, wp_bind]
  exact wp_attempt _ _ (.same a) (hf a) fun b h => ⟨.audit h, hf b⟩

lemma wp_createRole (body : Option Roles.RoleRequest) : (Roles.create env caller body).wp
    (AccountStep caller db (.createRole body)) (fun _ _ => True) db := by
  rcases body with _ | req
  · trivial
  unfold Roles.create
  dsimp only
  split
  · trivial
  split
  · trivial
  rename_i hguard
  simp only [bind_eq, wp_bind]
  refine wp_attempt _ _ (.same db) trivial fun db' h => ⟨.insertRole rfl (fun hadmin => ?_) h, ?_⟩
  · exact subset_of_permissionsSubset (by simpa [hadmin] using hguard)
  · simp only [if_true]
    exact wp_log_bind env fun _ => trivial

variable {roleID : String} {body : Option Roles.RoleRequest}

lemma wp_updateExisting {role : Role} (h : caller.isAdmin = false →
      role.permissions = permissionsOf db roleID ∨ role.permissions ⊆ caller.permissions)
    (hid : role.id = roleID) : (Roles.updateExisting env caller roleID role).wp
      (AccountStep caller db (.updateRole roleID body)) (fun _ _ => True) db := by
  subst hid
  simp only [Roles.updateExisting, bind_eq, wp_bind]
  refine wp_query (.same db) trivial fun n db' hq => ?_
  cases hq
  refine ⟨.updateRole h, ?_⟩
  dsimp only
  split
  · trivial
  · exact wp_log_bind env fun _ => trivial

lemma wp_updateRole : (Roles.update env caller roleID body).wp
    (AccountStep caller db (.updateRole roleID body)) (fun _ _ => True) db := by
  simp only [Roles.update, bind_eq, wp_bind]
  refine wp_getRole (.same db) trivial trivial fun role hid hperms => ?_
  simp only
  split
  · trivial
  rcases body with _ | req
  · trivial
  dsimp only
  -- the name alone changes nothing about the permissions
  have hname : ∀ r : Role, r = (if req.name ≠ "" then { role with name := req.name } else role) →
      r.id = roleID ∧ r.permissions = permissionsOf db roleID := by
    rintro r rfl
    split <;> exact ⟨hid, hperms⟩
  generalize (if req.name ≠ "" then { role with name := req.name } else role) = r at hname
  obtain ⟨hrid, hrperms⟩ := hname r rfl
  split
  · exact wp_updateExisting env (fun _ => .inl hrperms) hrid
  split
  · trivial
  rename_i hguard
  exact wp_updateExisting env
    (fun hadmin => .inr (subset_of_permissionsSubset (by simpa [hadmin] using hguard))) hrid

lemma wp_deleteRole : (Roles.delete env caller roleID).wp
    (AccountStep caller db (.deleteRole roleID)) (fun _ _ => True) db := by
  refine wp_bind_of_readOnly (readOnly_read _) (.same db) fun r => ?_
  rcases r with _ | count
  · trivial
  dsimp only
  split
  · trivial
  rw [bind_eq, wp_bind]
  refine wp_query (.same db) trivial fun n db' hq => ⟨.deleteRole hq, ?_⟩
  dsimp only
  split
  · trivial
  · exact wp_log_bind env fun _ => trivial

/-! ### Users -/

lemma wp_inviteUser (body : Option InviteRequest) : (invite env caller body).wp
    (AccountStep caller db (.inviteUser body)) (fun _ _ => True) db := by
  rcases body with _ | req
  · trivial
  unfold invite
  dsimp only
  split
  · trivial
  rw [bind_eq, wp_bind]
  refine wp_attempt _ _ (.same db) trivial fun db' h => ⟨.insertUser rfl rfl h, ?_⟩
  simp only [if_true]
  exact wp_log_bind env fun _ => trivial

variable {userID : String}

lemma wp_updateGuard {R : Db → Db → Prop} (hrefl : R db db) :
    (updateGuard caller userID roleID).wp R (fun r db' => db' = db ∧
      (r = .ok () → caller.isAdmin = false → permissionsOf db roleID ⊆ caller.permissions)) db := by
  unfold updateGuard
  split
  · rename_i hadmin
    refine ⟨rfl, fun _ h => ?_⟩
    rw [hadmin] at h
    cases h
  split
  · exact ⟨rfl, fun h => by cases h⟩
  simp only [bind_eq, wp_bind]
  refine wp_getRole hrefl ⟨rfl, fun h => by cases h⟩ ⟨rfl, fun h => by cases h⟩
    fun role hid hperms => ?_
  by_cases hsub : permissionsSubset caller.permissions role.permissions = true
  · simp only [if_pos hsub]
    exact ⟨rfl, fun _ _ => hperms ▸ subset_of_permissionsSubset hsub⟩
  · simp only [if_neg hsub]
    exact ⟨rfl, fun h => by cases h⟩

lemma wp_updateUser (body : Option String) : (update env caller userID body).wp
    (AccountStep caller db (.updateUser userID body)) (fun _ _ => True) db := by
  rcases body with _ | roleID
  · trivial
  unfold update
  dsimp only
  split
  · trivial
  simp only [bind_eq, wp_bind]
  refine wp_post (fun r db' hr => ?_) (wp_updateGuard (.same db))
  obtain ⟨rfl, hr⟩ := hr
  rcases r with r | _
  · trivial
  rw [wp_bind]
  refine wp_query (.same _) trivial fun n db' hq => ⟨.updateUserRole (hr rfl) hq, ?_⟩
  dsimp only
  split
  · trivial
  refine wp_log_bind env fun db'' => ?_
  rw [wp_bind, wp_read]
  exact ⟨⟨.same _, trivial⟩, trivial⟩

lemma wp_deactivateUser : (deactivate env caller userID).wp
    (AccountStep caller db (.deactivateUser userID)) (fun _ _ => True) db := by
  simp only [deactivate, bind_eq, wp_bind]
  refine wp_query (.same db) trivial fun n db' hq => ?_
  cases hq
  refine ⟨.deactivateUser userID, ?_⟩
  dsimp only
  split
  · trivial
  · exact wp_log_bind env fun _ => trivial

lemma wp_setSSOSubject (body : Option String) : (setSSOSubject env caller userID body).wp
    (AccountStep caller db (.setSSOSubject userID body)) (fun _ _ => True) db := by
  rcases body with _ | given
  · trivial
  simp only [setSSOSubject, bind_eq, wp_bind]
  refine wp_query (.same db) trivial fun n db' hq => ⟨?_, ?_⟩
  · obtain rfl : _ = db' := congrArg Prod.snd (some.inj hq)
    refine .setUserSSOSubject fun hsome hempty => ?_
    rw [if_pos hempty] at hsome
    cases hsome
  · rcases n with _ | n
    · trivial
    dsimp only
    split
    · trivial
    split
    · exact wp_log_bind env fun _ => trivial
    · exact wp_log_bind env fun _ => trivial

/-! ### API keys -/

lemma wp_createKey {hashAPIKey : String → String} {quota : Option Jobs.Defaults}
    (body : Option CreateKeyRequest) : (APIKeys.create hashAPIKey env quota caller body).wp
      (AccountStep caller db (.createKey body)) (fun _ _ => True) db := by
  rcases body with _ | req
  · trivial
  unfold APIKeys.create
  dsimp only
  split
  · trivial
  split
  · trivial
  rename_i hflag
  refine wp_bind_of_readOnly (Jobs.readOnly_checkCount _ _ _ _ _ _) (.same db) fun r => ?_
  rcases r with e | _
  · trivial
  unfold createChecked
  dsimp only
  split
  · trivial
  refine wp_bind_of_readOnly (readOnly_getRole _ _) (.same db) fun r => ?_
  rcases r with e | _ | role
  · trivial
  · trivial
  rw [bind_eq, wp_bind]
  refine wp_attempt _ _ (.same db) trivial fun db' h =>
    ⟨.insertAPIKey rfl rfl rfl ?_ (fun hadmin => ?_) h, ?_⟩
  · simp [APIKey.row, newKey, Function.comp_def]
  · simpa [APIKey.row, newKey, hadmin] using hflag
  · simp only [if_true]
    exact wp_log_bind env fun _ => trivial

lemma wp_deleteKey {keyID : String} : (APIKeys.delete env caller keyID).wp
    (AccountStep caller db (.deleteKey keyID)) (fun _ _ => True) db := by
  refine wp_bind_of_readOnly (readOnly_read _) (.same db) fun r => ?_
  rcases r with _ | _ | _ | target
  · trivial
  · trivial
  · trivial
  dsimp only
  split
  · trivial
  rw [bind_eq, wp_bind]
  refine wp_query (.same db) trivial fun n db' hq => ?_
  cases hq
  refine ⟨.deleteAPIKey keyID, ?_⟩
  dsimp only
  split
  · trivial
  · exact wp_log_bind env fun _ => trivial

/-! ### Every endpoint -/

lemma wp_answer (f : β → Body) (h : p.wp (AccountStep caller db req) (fun _ _ => True) db) :
    (answer f p).wp (AccountStep caller db req) (fun _ _ => True) db := by
  rw [answer, bind_eq, wp_bind]
  refine wp_post (fun r _ _ => ?_) h
  rcases r with ⟨n, body⟩ | ⟨n, code, msg⟩ <;> trivial

variable (cfg : Accounts.Config)

lemma wp_handler : (handler cfg env req caller).wp (AccountStep caller db req) (fun _ _ => True)
    db := by
  have hread : ∀ {β : Type} {f : β → Body} {p : Proc Db (Reply β)}, p.ReadOnly →
      (answer f p).wp (AccountStep caller db req) (fun _ _ => True) db :=
    fun h => wp_answer _ (wp_of_readOnly h (.same db) fun _ => trivial)
  cases req with
  | listRoles | listKeys =>
    refine hread (readOnly_bind (readOnly_read _) fun r => ?_)
    rcases r with _ | rows
    · trivial
    dsimp only
    split <;> trivial
  | getRole roleID =>
    refine hread (readOnly_bind (readOnly_getRole _ _) fun r => ?_)
    rcases r with e | _ | role <;> trivial
  | createRole body => exact wp_answer _ (wp_createRole env body)
  | updateRole roleID body => exact wp_answer _ (wp_updateRole env)
  | deleteRole roleID => exact wp_answer _ (wp_deleteRole env)
  | listUsers limit cursor =>
    refine hread (readOnly_bind (readOnly_read _) fun r => ?_)
    rcases r with _ | rows <;> trivial
  | getUser userID =>
    refine hread (readOnly_bind (readOnly_read _) fun r => ?_)
    rcases r with _ | _ | u <;> trivial
  | inviteUser body => exact wp_answer _ (wp_inviteUser env body)
  | updateUser userID body => exact wp_answer _ (wp_updateUser env body)
  | deactivateUser userID => exact wp_answer _ (wp_deactivateUser env)
  | setSSOSubject userID body => exact wp_answer _ (wp_setSSOSubject env body)
  | createKey body => exact wp_answer _ (wp_createKey env body)
  | deleteKey keyID => exact wp_answer _ (wp_deleteKey env)

lemma wp_serve (req : Request) (db : Db) : (serve cfg env caller req).wp
    (AccountStep caller db req) (fun _ _ => True) db := by
  unfold serve require
  split
  · exact wp_handler env cfg
  split
  · exact wp_handler env cfg
  · trivial

end AccountStep

end Moebius
