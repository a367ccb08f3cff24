import Moebius.AccountSteps

/-!
What is left of a user's access after the user has been deactivated.

`DeactivateUser` takes the role away. That closes the way through an SSO subject, which asks for a
role, but not the way through an API key: a key carries a role and an admin flag of its own. A user
is out for good only if all keys of the user are spent by then, and then stays out, since a key is
made only for a caller who is in.
-/

namespace Moebius

open Proc ApiAuth Option List Users Db Table

def allPermissions : List String :=
  ["devices:read", "devices:write", "devices:revoke", "jobs:read", "jobs:create", "jobs:retry",
    "packages:deploy", "inventory:read", "inventory:request", "groups:read", "groups:write",
    "tags:read", "tags:write", "sites:read", "sites:write", "users:read", "users:write",
    "roles:read", "roles:write", "api_keys:read", "api_keys:write", "enrollment_tokens:write",
    "files:read", "files:write", "signing_keys:read", "signing_keys:write", "alerts:read",
    "alerts:write", "audit_log:read", "tenant:read", "tenant:write", "scheduled_jobs:read",
    "scheduled_jobs:write", "agent_versions:read", "agent_versions:write", "update_policies:read",
    "update_policies:write", "installers:read", "installers:write"]

namespace Db

/-- `ON CONFLICT (slug) DO UPDATE SET name = EXCLUDED.name`. -/
def upsertTenant (row : TenantRow) (db : Db) : Option Db :=
  if db.tenants.rows.any fun t => t.slug = row.slug then
    some { db with
      tenants := db.tenants.update
        (fun t => if t.slug = row.slug then { t with name := row.name } else t)
        (fun t => by split <;> rfl) }
  else (db.tenants.insert row).map fun t => { db with tenants := t }

/-- `ON CONFLICT DO NOTHING`, as in `insertUserIfNew`. -/
def insertRoleIfNew (row : RoleRow) (db : Db) : Option Db :=
  if (db.roles.get? row.id).isSome then some db else db.insertRole row

def insertUserIfNew (row : UserRow) (db : Db) : Option Db :=
  if (db.users.get? row.id).isSome then some db else db.insertUser row

end Db

namespace Bootstrap

/-- Write a row, then read the one that is there now. -/
def writeAndRead {α : Type} (w : Db → Option Db) (q : Db → Option α) : Proc Db (Option α) := do
  if ← attempt w then
    match ← read q with
    | none => pure none
    | some found => pure found
  else pure none

def defaultTenant (env : Env) (tenantName : String) : Proc Db (Option TenantRow) :=
  writeAndRead (upsertTenant { id := env.newTenantID 0, name := tenantName, slug := "default" })
    fun db => db.tenants.rows.find? fun t => t.slug = "default"

def superAdmin (env : Env) : Proc Db (Option RoleRow) :=
  writeAndRead
    (insertRoleIfNew
      { id := env.newRoleID 0, name := "Super Admin", permissions := ⟨allPermissions, true⟩ })
    fun db => (env.scanRoles.order db.roles.rows).find? fun r =>
      r.name = "Super Admin" ∧ r.isCustom = false

/-- No constraint makes the address unique, so the user found may be an older one. -/
def adminUser (env : Env) (tenantID roleID : String) : Proc Db (Option UserRow) :=
  writeAndRead
    (insertUserIfNew
      { id := env.newUserID 0, tenantID, email := "admin@localhost", roleID := some roleID
        createdAt := env.now })
    fun db => (env.scanUsers.order db.users.rows).find? fun u =>
      u.tenantID = tenantID ∧ u.email = "admin@localhost"

/-- `doCreateAdmin`, once it has its database; the answer is whether it got to the end. -/
def createAdmin (hashAPIKey : String → String) (env : Env) (tenantName : String) :
    Proc Db Bool := do
  match ← defaultTenant env tenantName with
  | none => pure false
  | some tenant =>
    match ← superAdmin env with
    | none => pure false
    | some role =>
      match ← adminUser env tenant.id role.id with
      | none => pure false
      | some user =>
        attempt (insertAPIKey
          { id := env.newAPIKeyID 0, tenantID := tenant.id, userID := some user.id
            name := "bootstrap-admin", keyHash := hashAPIKey (APIKeys.generateAPIKey env)
            roleID := some role.id, isAdmin := true, createdAt := env.now })

end Bootstrap

namespace Deactivation

structure Config where
  auth : ApiAuth.Config
  quota : Option Jobs.Defaults := none
  textBefore : String → String → Bool := fun a b => decide (a < b)

def Config.accounts (cfg : Config) : Accounts.Config :=
  { hashAPIKey := cfg.auth.hashAPIKey, quota := cfg.quota, textBefore := cfg.textBefore }

/-- Requests to other endpoints and what the server does by itself: users and keys are written by
the endpoints on accounts and by the command only. -/
structure Elsewhere where
  write : Db → Db
  users : ∀ db, (write db).users = db.users
  apiKeys : ∀ db, (write db).apiKeys = db.apiKeys

inductive Event
  /-- A request with this header to an endpoint on accounts. -/
  | request (authorization : String) (req : Accounts.Request) (env : Env) (faults : List Bool)
  | createAdmin (tenantName : String) (env : Env) (faults : List Bool)
  | elsewhere (e : Elsewhere)

def Event.after (cfg : Config) (db : Db) : Event → Db
  | request authorization req env faults =>
    ((chain cfg.auth env authorization fun caller =>
      Accounts.serve cfg.accounts env caller req).run faults db).2
  | createAdmin tenantName env faults =>
    ((Bootstrap.createAdmin cfg.auth.hashAPIKey env tenantName).run faults db).2
  | elsewhere e => e.write db

def run (cfg : Config) (db : Db) (events : List Event) : Db := events.foldl (Event.after cfg) db

def HasNoRole (userID : String) (db : Db) : Prop :=
  ∀ u ∈ db.users.rows, u.id = userID → u.roleID = none
  deriving Decidable

/-- The key lets nobody in at `now` or later, whatever happens to the roles: without a role it does
not scan. -/
def Spent (now : Time) (k : APIKeyRow) : Prop := k.roleID = none ∨ expired now k = true
  deriving Decidable

/-- Some bearer value is taken for the key. -/
def Opens (auth : ApiAuth.Config) (db : Db) (k : APIKeyRow) : Prop :=
  ∃ raw ≠ "", TakenForKey auth db raw ∧ auth.hashAPIKey raw = k.keyHash

/-- At `now` or later, as long as the roles are what they are, nothing can be done with the key: it
lets nobody in, or only with a role that stands for nothing and without the admin flag. -/
def Harmless (auth : ApiAuth.Config) (now : Time) (db : Db) (k : APIKeyRow) : Prop :=
  ¬ Opens auth db k ∨ k.tenantID = "" ∨ Spent now k ∨ ∃ r, k.roleID = some r ∧
    ((∃ row, db.roles.get? r = some row ∧ row.permissions.ok = false) ∨
      (k.isAdmin = false ∧ permissionsOf db r = []))

/-- No request at `now` or later, whatever the rate limiter lets through by then, is authenticated
on behalf of the user with a permission or the admin flag. -/
def Shut (auth : ApiAuth.Config) (now : Time) (userID : String) (db : Db) : Prop :=
  ∀ (limit : Option (String → Option ℕ)) (env : Env) (authorization : String) (fs : List Bool)
    (ctx : Caller), now ≤ keyTime env →
    Reaches (fun _ next => chain { auth with limit } env authorization next) fs db ctx →
      ctx.userID = userID → ctx.permissions = [] ∧ ctx.isAdmin = false

def Locked (now : Time) (userID : String) (db : Db) : Prop :=
  ∀ k ∈ db.apiKeys.rows, k.userID = some userID → Spent now k

variable {userID : String} {now : Time}

section

variable {cfg : ApiAuth.Config} {env : Env} {authorization : String} {fs : List Bool} {db : Db}
  {ctx : Caller}

lemma not_bySSO (h : HasNoRole userID db) (hsso : BySSO cfg authorization db ctx) :
    ctx.userID ≠ userID := by
  intro he
  obtain ⟨-, -, verify, subject, -, -, u, hu, -, -, hid, hrole, -⟩ := hsso
  have hnone := h u hu (hid.symm.trans he)
  cases hrole.symm.trans hnone

lemma key_of_reaches (h : HasNoRole userID db)
    (hr : Reaches (fun _ next => chain cfg env authorization next) fs db ctx)
    (hctx : ctx.userID = userID) :
    ctx.tenantID ≠ "" ∧ ByKey cfg env authorization db ctx ∧
      TakenForKey cfg db (extractBearerToken authorization) ∧ Decodes db ctx := by
  obtain ⟨ht, hkey | hsso⟩ := (rules_chain cfg env authorization db fs).prop_of_reaches hr
  · exact ⟨ht, hkey⟩
  · exact absurd hctx (not_bySSO h hsso)

variable {k : APIKeyRow}

lemma not_spent (htime : now ≤ keyTime env) (hdate : ∀ t, k.expiresAt = some t → keyTime env ≤ t)
    (hrole : k.roleID = some ctx.roleID) : ¬ Spent now k := by
  rintro (hnone | hexp)
  · cases hrole.symm.trans hnone
  · rcases ht : k.expiresAt with _ | t
    · simp [expired, ht] at hexp
    · have hlt : t < now := by simpa [expired, ht] using hexp
      exact absurd hlt (Int.not_lt.mpr (Int.le_trans htime (hdate t ht)))

lemma userID_ne_of_locked (h : HasNoRole userID db) (hlocked : Locked now userID db)
    (htime : now ≤ keyTime env)
    (hr : Reaches (fun _ next => chain cfg env authorization next) fs db ctx) :
    ctx.userID ≠ userID := by
  intro he
  obtain ⟨-, ⟨-, k, hk, -, hdate, -, huser, hrole, -⟩, -⟩ := key_of_reaches h hr he
  exact not_spent htime hdate hrole (hlocked k hk (he ▸ huser))

lemma shut_of_harmless (h : HasNoRole userID db)
    (hkeys : ∀ k ∈ db.apiKeys.rows, k.userID = some userID → Harmless cfg now db k) :
    Shut cfg now userID db := by
  intro limit env authorization fs ctx htime hr he
  obtain ⟨ht, ⟨hraw, k, hk, hhash, hdate, htenant, huser, hrole, hperms, hadmin, -⟩, htaken,
    hdecodes⟩ := key_of_reaches h hr he
  rcases hkeys k hk (he ▸ huser) with hclosed | hempty | hspent | ⟨r, hr, hcase⟩
  · exact absurd ⟨_, hraw, htaken, hhash.symm⟩ hclosed
  · exact absurd (htenant.trans hempty) ht
  · exact absurd hspent (not_spent htime hdate hrole)
  · obtain rfl : ctx.roleID = r := some.inj (hrole.symm.trans hr)
    rcases hcase with ⟨row, hrow, hbad⟩ | ⟨hflag, hnone⟩
    · rw [hdecodes row hrow] at hbad
      cases hbad
    · exact ⟨hperms.trans hnone, hadmin.trans hflag⟩

/-- A scan that comes across `k` first. -/
def firstly (k : APIKeyRow) : Scan APIKeyRow where
  order l := l.filter (fun x => x = k) ++ l.filter (fun x => !decide (x = k))
  perm l := filter_append_perm (fun x => decide (x = k)) l

/-- A request at `now` that comes across `k` first. -/
def meets (now : Time) (k : APIKeyRow) : Env := { Env.plain now "" with scanKeys := firstly k }

lemma lookupKey_meets (hk : k ∈ db.apiKeys.rows) :
    lookupKey (meets now k) k.keyHash db = some (k, joinedPermissions k.roleID db) := by
  have hfilter : (db.apiKeys.rows.filter fun x => x = k).find? (fun x => x.keyHash = k.keyHash) =
      some k := by
    rw [filter_eq, find?_replicate]
    simp [count_eq_zero, hk]
  simp only [lookupKey, meets, firstly, find?_append, hfilter, some_or, map_some]

lemma extractBearerToken_append (raw : String) : extractBearerToken ("Bearer " ++ raw) = raw := by
  have hpre : hasPrefix "Bearer " ("Bearer " ++ raw) = true := by
    rw [hasPrefix, String.toList_append, isPrefixOf_iff_prefix]
    exact prefix_append _ _
  rw [extractBearerToken, if_pos hpre, String.toList_append, drop_left, String.ofList_toList]

lemma reaches_of_scanKey {who : Caller} {raw : String} (hraw : raw ≠ "")
    (htaken : TakenForKey cfg db raw) (hhash : cfg.hashAPIKey raw = k.keyHash)
    (hk : k ∈ db.apiKeys.rows) (hscan : scanKey k (joinedPermissions k.roleID db) = some who)
    (hexp : expired now k = false) (htenant : who.tenantID ≠ "") :
    Reaches (fun _ next => chain { cfg with limit := none } (meets now k) ("Bearer " ++ raw) next)
      [] db who := by
  have htime : keyTime (meets now k) = now := rfl
  have hkey (ctx : Caller) (hctx : ctx.tenantID = "") :
      Reaches (fun _ next => apiKeyHandler cfg.hashAPIKey (meets now k) ("Bearer " ++ raw)
        (requireTenant next) ctx) [] db who := by
    refine ⟨[], fun β next => ?_⟩
    simp only [apiKeyHandler, hctx, ne_eq, not_true_eq_false, if_false, extractBearerToken_append,
      hraw, bind_eq, run_read_bind, headD_nil, tail_nil, hhash, lookupKey_meets hk, hscan, htime,
      hexp, Bool.false_eq_true, requireTenant, if_neg htenant]
  rcases hv : cfg.verify with _ | verify
  · simpa only [chain, hv] using hkey anonymous rfl
  · simp only [chain, oidcHandler, extractBearerToken_append]
    by_cases hsk : hasPrefix "sk_" raw = true
    · simpa only [hsk, or_true, if_true] using hkey anonymous rfl
    · have hskip : ¬ (raw = "" ∨ hasPrefix "sk_" raw = true) := not_or.mpr ⟨hraw, hsk⟩
      obtain ⟨subject, u, permissions, haccepted, hlookup, hrole, hempty⟩ :=
        (htaken verify hv).resolve_left hsk
      obtain ⟨r, hr⟩ := ne_none_iff_exists'.mp hrole
      obtain ⟨rest, hreach⟩ := hkey
        { anonymous with
          tenantID := u.tenantID, userID := u.id, roleID := r
          permissions := (permissions.map (·.value)).getD [] } hempty
      refine ⟨rest, fun β next => ?_⟩
      simp only [if_neg hskip, haccepted, bind_eq, run_read_bind, headD_nil, tail_nil,
        Bool.false_eq_true, if_false, hlookup, hr]
      exact hreach β next

lemma harmless_of_shut (h : Shut cfg now userID db) (hk : k ∈ db.apiKeys.rows)
    (huser : k.userID = some userID) : Harmless cfg now db k := by
  by_contra hnot
  simp only [Harmless, Spent, not_or, not_not, Bool.not_eq_true] at hnot
  obtain ⟨⟨raw, hraw, htaken, hhash⟩, htenant, ⟨hrole, hexp⟩, hno⟩ := hnot
  obtain ⟨r, hr⟩ := ne_none_iff_exists'.mp hrole
  have hok : (joinedPermissions k.roleID db).all (·.ok) = true := by
    rcases hrow : db.roles.get? r with _ | row
    · simp [joinedPermissions, hr, hrow]
    · have hrow' : row.permissions.ok = true := by
        by_contra hbad
        exact hno ⟨r, hr, .inl ⟨row, hrow, by simpa using hbad⟩⟩
      simp [joinedPermissions, hr, hrow, hrow']
  have hscan : ∃ who, scanKey k (joinedPermissions k.roleID db) = some who := by
    simp only [scanKey, huser, hok]
    rw [hr]
    exact ⟨_, rfl⟩
  obtain ⟨who, hwho⟩ := hscan
  obtain ⟨hten, hid, hrid, hperms, hadmin, -⟩ := scanKey_eq_some hwho
  have hreach := reaches_of_scanKey hraw htaken hhash hk hwho hexp (hten ▸ htenant)
  have htime : now ≤ keyTime (meets now k) := Int.le_refl now
  obtain ⟨hnone, hflag⟩ := h _ _ _ _ who htime hreach (some.inj (hid.symm.trans huser))
  refine hno ⟨r, hr, .inr ⟨hadmin.symm.trans hflag, ?_⟩⟩
  obtain rfl : who.roleID = r := some.inj (hrid.symm.trans hr)
  exact hperms.symm.trans hnone

end

/-! ### What the events do to keys -/

def NoNewKey (userID : String) (a b : Db) : Prop :=
  ∀ k ∈ b.apiKeys.rows, k.userID = some userID → k ∈ a.apiKeys.rows

lemma apiKeys_of_insertAPIKey {row : APIKeyRow} {a b : Db} (h : a.insertAPIKey row = some b) :
    b.apiKeys.rows = a.apiKeys.rows ++ [row] ∧ b.users = a.users := by
  obtain ⟨-, t, ht, rfl⟩ := eq_some_of_guard h
  exact ⟨rows_of_insert ht, rfl⟩

namespace NoNewKey

variable {a b : Db}

lemma of_eq (h : b.apiKeys = a.apiKeys) : NoNewKey userID a b := fun _ hk _ => h ▸ hk

lemma refl (a : Db) : NoNewKey userID a a := of_eq rfl

lemma trans (a b c : Db) (h : NoNewKey userID a b) (h' : NoNewKey userID b c) :
    NoNewKey userID a c :=
  fun k hk huser => h k (h' k hk huser) huser

lemma of_accountStep {caller : Caller} {req : Accounts.Request} {db : Db}
    (hcaller : caller.userID ≠ userID) (h : AccountStep caller db req a b) :
    NoNewKey userID a b := by
  intro k hk huser
  rcases h.writes.2 k hk with hold | ⟨-, howner⟩
  · exact hold
  · exact absurd (some.inj (howner.symm.trans huser)) hcaller

end NoNewKey

/-- What the command does: users stay, a new one has a role, and a new key is for a user with the
administrator's address. -/
structure Bootstraps (a b : Db) : Prop where
  kept : ∀ u ∈ a.users.rows, u ∈ b.users.rows
  new : ∀ u ∈ b.users.rows, u ∈ a.users.rows ∨ u.roleID ≠ none
  keys : ∀ k ∈ b.apiKeys.rows, k ∈ a.apiKeys.rows ∨ ∃ u ∈ b.users.rows,
    k.userID = some u.id ∧ u.email = "admin@localhost"

namespace Bootstraps

variable {a b c : Db}

lemma of_eq (husers : b.users = a.users) (hkeys : b.apiKeys = a.apiKeys) : Bootstraps a b where
  kept _ hu := husers ▸ hu
  new _ hu := .inl (husers ▸ hu)
  keys _ hk := .inl (hkeys ▸ hk)

lemma refl (a : Db) : Bootstraps a a := of_eq rfl rfl

lemma trans (a b c : Db) (h : Bootstraps a b) (h' : Bootstraps b c) : Bootstraps a c where
  kept u hu := h'.kept u (h.kept u hu)
  new u hu := by
    rcases h'.new u hu with hb | hrole
    · exact h.new u hb
    · exact .inr hrole
  keys k hk := by
    rcases h'.keys k hk with hb | hnew
    · rcases h.keys k hb with ha | ⟨u, hu, hid⟩
      · exact .inl ha
      · exact .inr ⟨u, h'.kept u hu, hid⟩
    · exact .inr hnew

lemma upsertTenant {row : TenantRow} (h : a.upsertTenant row = some b) : Bootstraps a b := by
  unfold Db.upsertTenant at h
  split at h
  · cases h
    exact .of_eq rfl rfl
  · obtain ⟨t, -, rfl⟩ := map_eq_some_iff.mp h
    exact .of_eq rfl rfl

lemma insertRoleIfNew {row : RoleRow} (h : a.insertRoleIfNew row = some b) : Bootstraps a b := by
  unfold Db.insertRoleIfNew Db.insertRole at h
  split at h
  · cases h
    exact .refl a
  · obtain ⟨-, t, -, rfl⟩ := eq_some_of_guard h
    exact .of_eq rfl rfl

lemma insertUserIfNew {row : UserRow} (hrole : row.roleID ≠ none)
    (h : a.insertUserIfNew row = some b) : Bootstraps a b := by
  unfold Db.insertUserIfNew Db.insertUser at h
  split at h
  · cases h
    exact .refl a
  · obtain ⟨-, t, ht, rfl⟩ := eq_some_of_guard h
    refine ⟨fun u hu => (mem_insert ht).mpr (.inl hu), fun u hu => ?_, fun k hk => .inl hk⟩
    rcases (mem_insert ht).mp hu with hu | rfl
    · exact .inl hu
    · exact .inr hrole

lemma insertAPIKey {row : APIKeyRow} {u : UserRow} (hu : u ∈ a.users.rows)
    (howner : row.userID = some u.id) (hemail : u.email = "admin@localhost")
    (h : a.insertAPIKey row = some b) : Bootstraps a b := by
  obtain ⟨hrows, husers⟩ := apiKeys_of_insertAPIKey h
  refine ⟨fun u hu => husers ▸ hu, fun u hu => .inl (husers ▸ hu), fun k hk => ?_⟩
  rw [hrows, mem_append, mem_singleton] at hk
  rcases hk with hk | rfl
  · exact .inl hk
  · exact .inr ⟨u, husers ▸ hu, howner, hemail⟩

lemma wp_writeAndRead {α : Type} {w : Db → Option Db} {q : Db → Option α}
    (hw : ∀ a b, w a = some b → Bootstraps a b) {db : Db} :
    (Bootstrap.writeAndRead w q).wp Bootstraps (fun r db' => ∀ x, r = some x → q db' = some x)
      db := by
  have hnone : ∀ db' : Db, ∀ x, (none : Option α) = some x → q db' = some x := by
    intro db' x hx
    cases hx
  simp only [Bootstrap.writeAndRead, bind_eq, wp_bind]
  refine wp_attempt _ _ (.refl db) (hnone db) fun db' h => ⟨hw db db' h, ?_⟩
  simp only [if_true, wp_bind, wp_read]
  exact ⟨⟨.refl db', fun x hx => hx⟩, hnone db'⟩

lemma wp_createAdmin (hashAPIKey : String → String) (env : Env) (tenantName : String) (db : Db) :
    (Bootstrap.createAdmin hashAPIKey env tenantName).wp Bootstraps (fun _ _ => True) db := by
  simp only [Bootstrap.createAdmin, bind_eq, wp_bind]
  refine wp_post (fun tenant db₁ _ => ?_) (wp_writeAndRead (fun _ _ => .upsertTenant))
  rcases tenant with _ | tenant
  · trivial
  refine wp_seq (wp_writeAndRead (fun _ _ => .insertRoleIfNew)) fun role db₂ _ => ?_
  rcases role with _ | role
  · trivial
  refine wp_seq (wp_writeAndRead (fun _ _ => .insertUserIfNew (some_ne_none _)))
    fun user db₃ huser => ?_
  rcases user with _ | user
  · trivial
  have hfind := huser user rfl
  have hmem := (env.scanUsers.mem_order _ _).mp (mem_of_find?_eq_some hfind)
  have hmatch := find?_some hfind
  exact wp_attempt _ _ (.refl db₃) trivial fun db₄ h =>
    ⟨.insertAPIKey hmem rfl (of_decide_eq_true hmatch).2 h, trivial⟩

lemma noNewKey (h : Bootstraps a b) (hrole : HasNoRole userID b)
    (hemail : ∀ u ∈ a.users.rows, u.id = userID → u.email ≠ "admin@localhost") :
    NoNewKey userID a b := by
  intro k hk huser
  rcases h.keys k hk with hold | ⟨u, hu, hid, hadmin⟩
  · exact hold
  have hu' : u.id = userID := some.inj (hid.symm.trans huser)
  rcases h.new u hu with hold | hsome
  · exact absurd hadmin (hemail u hold hu')
  · exact absurd (hrole u hu hu') hsome

end Bootstraps

/-! ### Runs -/

/-- The event comes at `now` or later, and the command is not run for this user. -/
def Later (now : Time) (userID : String) (db : Db) : Event → Prop
  | .request _ _ env _ => now ≤ keyTime env
  | .createAdmin _ _ _ => ∀ u ∈ db.users.rows, u.id = userID → u.email ≠ "admin@localhost"
  | .elsewhere _ => True

instance (now : Time) (userID : String) (db : Db) : DecidablePred (Later now userID db) := by
  intro e
  unfold Later
  split <;> infer_instance

section

variable {cfg : Config} {db : Db}

/-- A user who is out gets no key: keys are made for callers who are in. -/
lemma noNewKey_after {e : Event} (hrole : HasNoRole userID db) (hlocked : Locked now userID db)
    (hafter : HasNoRole userID (e.after cfg db)) (hlater : Later now userID db e) :
    NoNewKey userID db (e.after cfg db) := by
  cases e with
  | request authorization req env faults =>
    have hrules := rules_chain cfg.auth env authorization db faults
    rcases hrules with ⟨n, code, msg, -, h⟩ | ⟨ctx, rest, hctx, h⟩
    · simp only [Event.after, h]
      exact .refl db
    · have hne : ctx.userID ≠ userID := userID_ne_of_locked hrole hlocked hlater ⟨rest, h⟩
      have hwp := wp_mono (fun _ _ => NoNewKey.of_accountStep hne) (fun _ _ h => h)
        (AccountStep.wp_serve env cfg.accounts req db)
      simp only [Event.after, h]
      exact wp_rel .refl .trans hwp rest
  | createAdmin tenantName env faults =>
    have hboot := wp_rel .refl .trans
      (Bootstraps.wp_createAdmin cfg.auth.hashAPIKey env tenantName db) faults
    exact hboot.noNewKey hafter hlater
  | elsewhere e => exact .of_eq (e.apiKeys db)

lemma hasNoRole_of_deactivate {env : Env} {caller : Caller} {fs : List Bool} {db₁ : Db}
    (h : (deactivate env caller userID).run fs db = (.ok 204 (), db₁)) :
    HasNoRole userID db₁ ∧ db₁.apiKeys = db.apiKeys := by
  have hwp : (deactivate env caller userID).wp (fun _ _ => True)
      (fun r db' => r = .ok 204 () → HasNoRole userID db' ∧ db'.apiKeys = db.apiKeys) db := by
    simp only [deactivate, bind_eq, wp_bind]
    refine wp_query trivial (fun hr => by cases hr) fun n db' hq => ⟨trivial, ?_⟩
    obtain ⟨hn, hdb⟩ := Prod.mk.inj (some.inj hq)
    by_cases h0 : n = 0
    · simp only [if_pos h0]
      intro hr
      cases hr
    simp only [if_neg h0, wp_bind]
    -- the row that was counted is the user's only one
    have hown : ∃ u ∈ db.users.rows, ownUser caller.tenantID userID u = true := by
      have hsel : db.users.select (ownUser caller.tenantID userID) ≠ [] :=
        fun hnil => h0 (hn.symm.trans (congrArg length hnil))
      obtain ⟨u, hu⟩ := exists_mem_of_ne_nil _ hsel
      exact ⟨u, mem_filter.mp hu⟩
    have hleft : HasNoRole userID db' := by
      obtain ⟨u₀, hu₀, hown₀⟩ := hown
      have hid₀ : u₀.id = userID := (of_decide_eq_true hown₀).1
      intro u' hu' hid'
      rw [← hdb] at hu'
      obtain ⟨u, hu, rfl⟩ := mem_map.mp hu'
      have hsame : u = u₀ := by
        refine eq_of_key_eq hu hu₀ ?_
        rw [hid₀, ← hid']
        split <;> rfl
      rw [hsame, if_pos hown₀]
    exact wp_logAction fun _ _ => ⟨hleft, hdb ▸ rfl⟩
  have hrun := wp_run hwp fs
  rw [h] at hrun
  exact hrun rfl

end

/-- **A deactivated user is out as far as the user's keys are.** After a deactivation that
succeeded, and any run in which the user is not given a role again: no SSO login is one of the user;
requests are authenticated on the user's behalf without any permission exactly if all keys of the
user are harmless by then; and not at all if the keys were spent at `now`, the run comes later and
does not make the user an administrator. -/
theorem out_without_keys (cfg : Config) (env : Env) (caller : Caller) (userID : String)
    (fs : List Bool) (db db₁ : Db)
    (hdone : (deactivate env caller userID).run fs db = (.ok 204 (), db₁))
    (events : List Event)
    (hrole : Along (Event.after cfg) (fun db e => HasNoRole userID (e.after cfg db)) events db₁) :
    (∀ authorization ctx, BySSO cfg.auth authorization (run cfg db₁ events) ctx →
      ctx.userID ≠ userID) ∧ (∀ now, Shut cfg.auth now userID (run cfg db₁ events) ↔
      ∀ k ∈ (run cfg db₁ events).apiKeys.rows, k.userID = some userID →
        Harmless cfg.auth now (run cfg db₁ events) k) ∧
    ∀ now, (∀ k ∈ db.apiKeys.rows, k.userID = some userID → Spent now k) →
      Along (Event.after cfg) (Later now userID) events db₁ →
      ∀ (env : Env) (authorization : String) (fs : List Bool) (ctx : Caller), now ≤ keyTime env →
        Reaches (fun _ next => chain cfg.auth env authorization next) fs (run cfg db₁ events) ctx →
        ctx.userID ≠ userID := by
  obtain ⟨hstart, hkeys⟩ := hasNoRole_of_deactivate hdone
  have hend : HasNoRole userID (run cfg db₁ events) := hrole.invariant (fun _ _ h _ => h) hstart
  refine ⟨fun _ _ => not_bySSO hend, fun now => ⟨fun h k => harmless_of_shut h,
    shut_of_harmless hend⟩, fun now hspent hlater env authorization fs ctx htime hr => ?_⟩
  -- no role and no key that opens: the one is kept by assumption, the other by each event
  have hout : HasNoRole userID (run cfg db₁ events) ∧ Locked now userID (run cfg db₁ events) :=
    (hrole.and hlater).invariant (I := fun db => HasNoRole userID db ∧ Locked now userID db)
      (fun db e hC hI => ⟨hC.1, fun k hk huser =>
        hI.2 k (noNewKey_after hI.1 hI.2 hC.1 hC.2 k hk huser) huser⟩)
      ⟨hstart, fun k hk => hspent k (hkeys ▸ hk)⟩
  exact userID_ne_of_locked hout.1 hout.2 htime hr

namespace Sample

def tenant : TenantRow := { id := "t" }

def key : APIKeyRow :=
  { id := "k", tenantID := "t", userID := some "u", keyHash := "sk_1", roleID := some "operator" }

def db : Db where
  tenants := ⟨[tenant], by decide⟩
  users := ⟨[{ id := "u", tenantID := "t", roleID := some "operator" }], by decide⟩
  roles := ⟨[{ id := "operator", permissions := ⟨["devices:revoke"], true⟩ }], by decide⟩
  apiKeys := ⟨[key], by decide⟩

def cfg : Config := { auth := { hashAPIKey := id } }

def env : Env := .plain 5 "x"

def admin : Caller := { tenantID := "t", userID := "a", isAdmin := true, scope := none }

def deactivated : Db := ((deactivate env admin "u").run [] db).2

def expiredDb : Db := { db with apiKeys := ⟨[{ key with expiresAt := some 3 }], by decide⟩ }

def events : List Event := [.request "Bearer sk_1" .listKeys env [], .createAdmin "T" env []]

end Sample

theorem out_with_expired_key :
    (∃ k ∈ (run Sample.cfg ((deactivate Sample.env Sample.admin "u").run []
      Sample.expiredDb).2 Sample.events).apiKeys.rows, k.isAdmin = true) ∧
    ∀ (env : Env) (authorization : String) (fs : List Bool) (ctx : Caller), 4 ≤ keyTime env →
      Reaches (fun _ next => chain Sample.cfg.auth env authorization next) fs
        (run Sample.cfg ((deactivate Sample.env Sample.admin "u").run []
          Sample.expiredDb).2 Sample.events) ctx → ctx.userID ≠ "u" := by
  refine ⟨by decide, ?_⟩
  have hout := out_without_keys Sample.cfg Sample.env Sample.admin "u" [] Sample.expiredDb _ rfl
    Sample.events (by decide)
  exact hout.2.2 4 (by decide) (by decide)

open Sample in
/-- The key of a user who has been deactivated still may revoke devices. -/
theorem key_outlives_deactivation : (deactivate env admin "u").run [] db =
      (.ok 204 (), deactivated) ∧ HasNoRole "u" deactivated ∧
    ∃ ctx, Reaches (fun _ next => chain cfg.auth env "Bearer sk_1" next) []
        deactivated ctx ∧ ctx.userID = "u" ∧ ctx.permissions = ["devices:revoke"] := by
  exact ⟨rfl, by decide, _, ⟨[], fun β next => rfl⟩, rfl, rfl⟩

end Deactivation

end Moebius
