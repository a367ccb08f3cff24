import Moebius.AccountSteps
import Moebius.Runs

/-!
What a caller without the admin flag can hand out through roles, users and API keys.

Roles and the assignment of roles are guarded: what they write holds no permission the caller does
not hold. The creation of a key and the link of a user to an SSO subject are not, so a run stays
within the caller's permissions only if those two do.
-/

namespace Moebius.Accounts

open Proc ApiAuth Enrollment Users APIKeys Db Option

/-- A credential with this role, flag and scope gives nothing beyond `held` and `scope`. -/
structure Within (held : List String) (scope : Option APIScope) (db : Db) (roleID : Option String)
    (isAdmin : Bool) (credential : Option APIScope) : Prop where
  permissions : ∀ r, roleID = some r → permissionsOf db r ⊆ held
  admin : isAdmin = false
  scope : scopeIsSubset scope credential = true

/-- An SSO login as this user succeeds: a user without a role is turned away. -/
def CanLogIn (u : UserRow) : Prop := u.ssoSubject.isSome ∧ u.roleID.isSome

/-- From `a` to `b`, every key that is new and every user who is new, newly linked or has another
role is within the bounds, if it is a credential at all; and every role either stands for what it
stood for or is within the bounds. -/
structure Grants (held : List String) (scope : Option APIScope) (a b : Db) : Prop where
  roles : ∀ r, permissionsOf b r = permissionsOf a r ∨ permissionsOf b r ⊆ held
  keys : ∀ k ∈ b.apiKeys.rows, k ∈ a.apiKeys.rows ∨
    Within held scope b k.roleID k.isAdmin (k.scope.map (·.value))
  users : ∀ u ∈ b.users.rows, u ∈ a.users.rows ∨
    (CanLogIn u → Within held scope b u.roleID false none)

variable {scope : Option APIScope} {held : List String} {roleID : String}

section

variable {a b c : Db}

lemma Within.mono {roleID : Option String} {isAdmin : Bool} {credential : Option APIScope}
    (h : Within held scope b roleID isAdmin credential)
    (hroles : ∀ r, permissionsOf c r = permissionsOf b r ∨ permissionsOf c r ⊆ held) :
    Within held scope c roleID isAdmin credential := by
  refine ⟨fun r hr => ?_, h.admin, h.scope⟩
  rcases hroles r with heq | hsub
  · rw [heq]
    exact h.permissions r hr
  · exact hsub

namespace Grants

lemma refl (a : Db) : Grants held scope a a where
  roles _ := .inl rfl
  keys _ hk := .inl hk
  users _ hu := .inl hu

lemma trans (a b c : Db) (h : Grants held scope a b) (h' : Grants held scope b c) :
    Grants held scope a c where
  roles r := by
    rcases h'.roles r with heq | hsub
    · rw [heq]
      exact h.roles r
    · exact .inr hsub
  keys k hk := by
    rcases h'.keys k hk with hb | hw
    · rcases h.keys k hb with ha | hw
      · exact .inl ha
      · exact .inr (hw.mono h'.roles)
    · exact .inr hw
  users u hu := by
    rcases h'.users u hu with hb | hw
    · rcases h.users u hb with ha | hw
      · exact .inl ha
      · exact .inr fun hl => (hw hl).mono h'.roles
    · exact .inr hw

lemma of_roles (hkeys : b.apiKeys = a.apiKeys) (husers : b.users = a.users)
    (h : ∀ r, permissionsOf b r = permissionsOf a r ∨ permissionsOf b r ⊆ held) :
    Grants held scope a b where
  roles := h
  keys _ hk := .inl (hkeys ▸ hk)
  users _ hu := .inl (husers ▸ hu)

lemma of_eq (hroles : b.roles = a.roles) (hkeys : b.apiKeys = a.apiKeys)
    (husers : b.users = a.users) : Grants held scope a b :=
  of_roles hkeys husers fun r => .inl (by rw [permissionsOf, hroles, permissionsOf])

lemma of_keys (hroles : b.roles = a.roles) (husers : b.users = a.users)
    (h : ∀ k ∈ b.apiKeys.rows, k ∈ a.apiKeys.rows ∨
      Within held scope b k.roleID k.isAdmin (k.scope.map (·.value))) : Grants held scope a b where
  roles r := .inl (by rw [permissionsOf, hroles, permissionsOf])
  keys := h
  users _ hu := .inl (husers ▸ hu)

variable {tenantID userID : String}

lemma of_updateUser (f : UserRow → UserRow) (hf : ∀ u, (f u).id = u.id)
    (h : ∀ u ∈ a.users.rows, ownUser tenantID userID u = true → CanLogIn (f u) →
      Within held scope a (f u).roleID false none) :
    Grants held scope a (a.updateUser tenantID userID f hf).2 where
  roles _ := .inl rfl
  keys _ hk := .inl hk
  users u' hu' := by
    obtain ⟨u, hu, rfl⟩ := List.mem_map.mp hu'
    by_cases hown : ownUser tenantID userID u = true
    · rw [if_pos hown]
      exact .inr fun hl => (h u hu hown hl).mono fun _ => .inl rfl
    · rw [if_neg hown]
      exact .inl hu

lemma insertAudit {row : AuditRow} (h : a.insertAudit row = some b) : Grants held scope a b := by
  obtain ⟨-, t, -, rfl⟩ := eq_some_of_guard h
  exact of_eq rfl rfl rfl

lemma insertRole {row : RoleRow} (h : a.insertRole row = some b)
    (hrow : row.permissions.value ⊆ held) : Grants held scope a b := by
  obtain ⟨-, t, ht, rfl⟩ := eq_some_of_guard h
  refine of_roles rfl rfl fun r => ?_
  simp only [permissionsOf, Table.get?_insert ht r]
  split
  · exact .inr hrow
  · exact .inl rfl

/-- The role that is updated gets the permissions it has, or others within the bounds. -/
lemma updateRole {name : String} {permissions : List String}
    (h : permissions = permissionsOf a roleID ∨ permissions ⊆ held) :
    Grants held scope a (a.updateRole tenantID roleID name permissions).2 := by
  refine of_roles rfl rfl fun r => ?_
  simp only [permissionsOf, Db.updateRole, Table.get?_update]
  rcases hr : a.roles.get? r with _ | row
  · exact .inl rfl
  simp only [map_some, getD_some]
  by_cases hown : Db.ownRole tenantID roleID row = true
  · rw [if_pos hown]
    have hid : row.id = roleID := (of_decide_eq_true hown).1
    have hkey : row.id = r := Table.key_of_get? hr
    rcases h with heq | hsub
    · refine .inl (heq.trans ?_)
      rw [permissionsOf, ← hid, hkey, hr]
      rfl
    · exact .inr hsub
  · rw [if_neg hown]
    exact .inl rfl

lemma deleteRole {n : ℕ} (h : a.deleteRole tenantID roleID = some (n, b)) :
    Grants held scope a b := by
  unfold Db.deleteRole at h
  dsimp only at h
  split at h
  · cases h
  cases h
  refine of_roles rfl rfl fun r => ?_
  simp only [permissionsOf, Table.get?_delete]
  rcases hr : a.roles.get? r with _ | row
  · exact .inl rfl
  rcases hown : Db.ownRole tenantID roleID row with _ | _
  · exact .inl (by simp [Option.filter, hown])
  · exact .inr (by simp [Option.filter, hown])

lemma insertUser {row : UserRow} (h : a.insertUser row = some b) (hrow : row.ssoSubject = none) :
    Grants held scope a b := by
  obtain ⟨-, t, ht, rfl⟩ := eq_some_of_guard h
  refine ⟨fun _ => .inl rfl, fun _ hk => .inl hk, fun u hu => ?_⟩
  rcases (Table.mem_insert ht).mp hu with hu | rfl
  · exact .inl hu
  · refine .inr fun hl => ?_
    rw [CanLogIn, hrow] at hl
    cases hl.1

/-- A user who is linked already becomes a credential with the new role, without a scope. -/
lemma updateUserRole {n : ℕ} (h : a.updateUserRole tenantID userID roleID = some (n, b))
    (hrole : permissionsOf a roleID ⊆ held) (hlinked : scope = none ∨ ∀ u ∈ a.users.rows,
      ownUser tenantID userID u = true → u.ssoSubject = none) : Grants held scope a b := by
  unfold Db.updateUserRole at h
  split at h
  · cases h
  cases h
  refine of_updateUser (fun u => { u with roleID := some roleID }) (fun _ => rfl)
    fun u hu hown hl => ⟨fun r hr => ?_, rfl, ?_⟩
  · cases hr
    exact hrole
  · rcases hlinked with hnone | hall
    · rw [hnone]; rfl
    · have hsso : u.ssoSubject.isSome := hl.1
      rw [hall u hu hown] at hsso
      cases hsso

lemma setUserSSOSubject {subject : Option String}
    (h : subject.isSome → scope = none ∧ ∀ u ∈ a.users.rows,
      Db.ownUser tenantID userID u = true → ∀ r, u.roleID = some r → permissionsOf a r ⊆ held) :
    Grants held scope a (a.setUserSSOSubject tenantID userID subject).2 := by
  unfold Db.setUserSSOSubject
  split
  · exact refl a
  · refine of_updateUser (fun u => { u with ssoSubject := subject }) (fun _ => rfl)
      fun u hu hown hl => ?_
    obtain ⟨hscope, hperms⟩ := h hl.1
    exact ⟨hperms u hu hown, rfl, by rw [hscope]; rfl⟩

lemma insertAPIKey {row : APIKeyRow} (h : a.insertAPIKey row = some b)
    (hrow : Within held scope a row.roleID row.isAdmin (row.scope.map (·.value))) :
    Grants held scope a b := by
  obtain ⟨-, t, ht, rfl⟩ := eq_some_of_guard h
  refine of_keys rfl rfl fun k hk => ?_
  rcases (Table.mem_insert ht).mp hk with hk | rfl
  · exact .inl hk
  · exact .inr ⟨hrow.permissions, hrow.admin, hrow.scope⟩

lemma deleteAPIKey (tenantID keyID : String) :
    Grants held scope a (a.deleteAPIKey tenantID keyID).2 :=
  of_keys rfl rfl fun _ hk => .inl (List.mem_filter.mp hk).1

end Grants

end

/-! ### Runs -/

structure Call where
  caller : Caller
  req : Request
  env : Env
  faults : List Bool := []

def Call.after (cfg : Config) (db : Db) (c : Call) : Db :=
  ((serve cfg c.env c.caller c.req).run c.faults db).2

def run (cfg : Config) (db : Db) (calls : List Call) : Db := calls.foldl (Call.after cfg) db

/-- What the handlers leave unchecked: a key is created for a role and a scope within the bounds; a
user is linked only if the user's role is within the bounds and the caller has no scope; and a
caller with a scope gives no linked user another role. -/
def Guarded (held : List String) (scope : Option APIScope) (db : Db) (c : Call) : Prop :=
  match c.req with
  | .createKey (some req) =>
    permissionsOf db req.roleID ⊆ held ∧ scopeIsSubset scope req.scope = true
  | .setSSOSubject userID (some subject) =>
    trimmed subject ≠ "" → scope = none ∧
      ∀ u ∈ db.users.rows, ownUser c.caller.tenantID userID u = true →
        ∀ r, u.roleID = some r → permissionsOf db r ⊆ held
  | .updateUser userID _ =>
    scope = none ∨ ∀ u ∈ db.users.rows,
      ownUser c.caller.tenantID userID u = true → u.ssoSubject = none
  | _ => True

lemma grants_of_step {db a b : Db} {c : Call} (hadmin : c.caller.isAdmin = false)
    (hheld : c.caller.permissions ⊆ held) (hguarded : Guarded held scope db c)
    (h : AccountStep c.caller db c.req a b) : Grants held scope a b := by
  obtain ⟨caller, req, env, faults⟩ := c
  cases h with
  | same => exact .refl a
  | audit h => exact .insertAudit h
  | insertRole htenant hrow h => exact .insertRole h fun _ hp => hheld (hrow hadmin hp)
  | updateRole hrow => exact .updateRole ((hrow hadmin).imp_right fun hsub _ hp => hheld (hsub hp))
  | deleteRole h => exact .deleteRole h
  | insertUser htenant hsso h => exact .insertUser h hsso
  | updateUserRole hrole h =>
    exact .updateUserRole h (fun _ hp => hheld (hrole hadmin hp)) hguarded
  | deactivateUser userID =>
    exact .of_updateUser (fun u => { u with roleID := none }) (fun _ => rfl) fun u _ _ hl => by
      cases hl.2
  | setUserSSOSubject hgiven => exact .setUserSSOSubject fun hsome => hguarded (hgiven hsome)
  | insertAPIKey htenant howner hrole hscope hflag h =>
    refine .insertAPIKey h ⟨fun r hr => ?_, hflag hadmin, hscope ▸ hguarded.2⟩
    obtain rfl := some.inj (hrole.symm.trans hr)
    exact hguarded.1
  | deleteAPIKey keyID => exact .deleteAPIKey _ _

lemma grants_after {cfg : Config} {db : Db} {c : Call} (hadmin : c.caller.isAdmin = false)
    (hheld : c.caller.permissions ⊆ held) (hguarded : Guarded held scope db c) :
    Grants held scope db (c.after cfg db) :=
  wp_rel .refl .trans (wp_mono (fun _ _ => grants_of_step hadmin hheld hguarded) (fun _ _ h => h)
    (AccountStep.wp_serve c.env cfg c.req db)) c.faults

/-- **No escalation, as far as it goes.** Along every run of `Guarded` requests of a caller without
the admin flag, who holds at most `held` and whose key has the scope `scope`: every credential that
comes out has no permission beyond `held`, no admin flag and a scope within `scope`. -/
theorem no_escalation (cfg : Config) (db : Db) (held : List String) (scope : Option APIScope)
    (calls : List Call)
    (hcaller : ∀ c ∈ calls, c.caller.isAdmin = false ∧ c.caller.permissions ⊆ held ∧
      c.caller.scope = scope) (hguarded : Along (Call.after cfg) (Guarded held scope) calls db) :
    Grants held scope db (run cfg db calls) := by
  have hboth : Along (Call.after cfg) (fun db c => c.caller.isAdmin = false ∧
      c.caller.permissions ⊆ held ∧ Guarded held scope db c) calls db :=
    hguarded.imp fun db c hc hg => ⟨(hcaller c hc).1, (hcaller c hc).2.1, hg⟩
  exact hboth.rel Grants.refl Grants.trans fun db c hc => grants_after hc.1 hc.2.1 hc.2.2

namespace Sample

def tenant : TenantRow := { id := "t" }

def db : Db where
  tenants := ⟨[tenant], by decide⟩
  users := ⟨[{ id := "u", tenantID := "t", roleID := some "keys" }], by decide⟩
  roles := ⟨[{ id := "keys", permissions := ⟨["api_keys:write"], true⟩ },
    { id := "operator", permissions := ⟨["devices:revoke"], true⟩ }], by decide⟩

def cfg : Config := { hashAPIKey := id, quota := none }

def caller : Caller :=
  { tenantID := "t", userID := "u", isAdmin := false, scope := some { groupIDs := ["g"] }
    roleID := "keys", permissions := ["api_keys:write"] }

def env : Env := .plain 0 "x"

def createKey (roleID : String) (scope : Option APIScope) : Call :=
  { caller, env, req := .createKey (some { name := "k", roleID, scope }) }

end Sample

open Sample in
theorem no_escalation_sample : Grants caller.permissions caller.scope db
      (run cfg db [createKey "keys" (some { groupIDs := ["g"] })]) := by
  refine no_escalation _ _ _ _ _ (fun c hc => ?_) ⟨⟨fun _ h => h, by decide⟩, trivial⟩
  cases List.mem_singleton.mp hc
  exact ⟨rfl, fun _ h => h, rfl⟩

open Sample in
/-- A caller who may only create keys, restricted to one group, creates a key that may revoke
devices and has no scope. -/
theorem createKey_escalates : (∃ key ∈ (run cfg db [createKey "operator" none]).apiKeys.rows,
      key ∉ db.apiKeys.rows ∧ key.roleID = some "operator" ∧ key.scope = none) ∧
    "devices:revoke" ∈
      permissionsOf (run cfg db [createKey "operator" none]) "operator" ∧
    "devices:revoke" ∉ caller.permissions ∧
    ¬ Grants caller.permissions caller.scope db
      (run cfg db [createKey "operator" none]) := by
  have hkey : ((newKey env caller { name := "k", roleID := "operator" }).row
      "sk_x") ∈ (run cfg db [createKey "operator" none]).apiKeys.rows := by
    decide
  have hrole : "devices:revoke" ∈
      permissionsOf (run cfg db [createKey "operator" none]) "operator" := by
    decide
  have hnot : "devices:revoke" ∉ caller.permissions := by decide
  refine ⟨⟨_, hkey, (by simp [db, Table.empty]), rfl, rfl⟩, hrole, hnot, fun h => ?_⟩
  rcases h.keys _ hkey with hold | hwithin
  · cases hold
  · exact hnot (hwithin.permissions "operator" rfl hrole)

end Moebius.Accounts
