import Moebius.Handler

/-!
The authentication chain in front of the `/v1` endpoints: OIDC tokens, where a provider is
configured, then API keys, then the check that a tenant was found.

A middleware answers the request itself or hands it on with the identity in its context. For the
chain as a whole, `Rules` says which of the two happens, whatever handler is behind it.
-/

namespace Moebius.ApiAuth

open Proc Option

abbrev Handler (β : Type) := Caller → Proc Db (Reply β)

/-- The context before any middleware has run. -/
def anonymous : Caller := { tenantID := "", userID := "", isAdmin := false, scope := none }

def hasPrefix (pfx s : String) : Bool := pfx.toList.isPrefixOf s.toList

/-- The header, `""` when there is none, without `Bearer ` in front. -/
def extractBearerToken (authorization : String) : String :=
  if hasPrefix "Bearer " authorization then
    String.ofList (authorization.toList.drop "Bearer ".toList.length)
  else ""

inductive IDToken
  | rejected
  /-- Accepted, but its claims do not decode. -/
  | noClaims
  | accepted (subject : String)

/-- The `permissions` column of `LEFT JOIN roles r ON r.id = role_id`. -/
def joinedPermissions (roleID : Option String) (db : Db) : Option (Decoded (List String)) :=
  (roleID.bind db.roles.get?).map (·.permissions)

def lookupSSO (subject : String) (db : Db) : Option (UserRow × Option (Decoded (List String))) :=
  (db.users.rows.find? fun u => u.ssoSubject = some subject).map fun u =>
    (u, joinedPermissions u.roleID db)

def oidcHandler {β : Type} (verify : String → IDToken) (authorization : String)
    (next : Handler β) : Handler β := fun ctx =>
  let token := extractBearerToken authorization
  if token = "" ∨ hasPrefix "sk_" token then next ctx
  else
    match verify token with
    | .rejected => pure (.error 401 "invalid_token" "The provided OIDC token is not valid")
    | .noClaims => pure (.error 500 "internal_error" "Failed to process token claims")
    | .accepted subject => do
      match ← read (lookupSSO subject) with
      | none => pure (.error 500 "internal_error" "Internal server error")
      | some none => pure (.error 401 "unknown_sso_user" "No user mapped to this SSO identity")
      | some (some (u, permissions)) =>
        match u.roleID with
        -- a deactivated user: `NULL` does not scan into a string
        | none => pure (.error 500 "internal_error" "Internal server error")
        | some roleID =>
          next { ctx with
            tenantID := u.tenantID, userID := u.id, roleID
            permissions := (permissions.map (·.value)).getD [] }

variable (g : Gate) (env : Env) (fs : List Bool) (db : Db)

def keyTime : Time := env.clock 7

/-- The first key with the hash, which no constraint makes the only one, with the permissions of
its role. -/
def lookupKey (hash : String) (db : Db) : Option (APIKeyRow × Option (Decoded (List String))) :=
  ((env.scanKeys.order db.apiKeys.rows).find? fun k => k.keyHash = hash).map fun k =>
    (k, joinedPermissions k.roleID db)

/-- What `Scan` and the decoding of the scope make of the row: `NULL` in a string column and
permissions that do not decode are errors, a scope that does not decode is only logged. -/
def scanKey (key : APIKeyRow) (permissions : Option (Decoded (List String))) : Option Caller := do
  let userID ← key.userID
  let roleID ← key.roleID
  if permissions.all (·.ok) then
    some {
      tenantID := key.tenantID, userID, isAdmin := key.isAdmin
      scope := key.scope.map (·.value), roleID
      permissions := (permissions.map (·.value)).getD [] }
  else none

def expired (now : Time) (key : APIKeyRow) : Bool := key.expiresAt.any (· < now)

/-- `APIKeyMiddleware.Handler`; the update of `last_used_at` in the background is left out. -/
def apiKeyHandler {β : Type} (hashAPIKey : String → String) (env : Env) (authorization : String)
    (next : Handler β) : Handler β := fun ctx =>
  if ctx.tenantID ≠ "" then next ctx
  else
    let raw := extractBearerToken authorization
    if raw = "" then
      pure (.error 401 "authentication_required"
        "Authorization: Bearer <api_key> header is required")
    else do
      match ← read (lookupKey env (hashAPIKey raw)) with
      | none => pure (.error 500 "internal_error" "Internal server error")
      | some none => pure (.error 401 "invalid_api_key" "The provided API key is not valid")
      | some (some (key, permissions)) =>
        match scanKey key permissions with
        | none => pure (.error 500 "internal_error" "Internal server error")
        | some who =>
          if expired (keyTime env) key then
            pure (.error 401 "api_key_expired" "The API key has expired")
          else next who

def requireTenant {β : Type} (next : Handler β) : Handler β := fun ctx =>
  if ctx.tenantID = "" then
    pure (.error 401 "tenant_required" "Request must be associated with a tenant")
  else next ctx

/-- `PerTenantMiddleware`; `limit` is how many seconds the tenant has to wait, if it has to. -/
def perTenant {β : Type} (limit : String → Option ℕ) (next : Handler β) : Handler β := fun ctx =>
  if ctx.tenantID = "" then next ctx
  else
    match limit ctx.tenantID with
    | none => next ctx
    | some secs =>
      pure (.error 429 "rate_limited"
        ("Too many requests. Try again in " ++ toString (max secs 1) ++ " seconds."))

structure Config where
  /-- SHA-256, in hexadecimal digits. -/
  hashAPIKey : String → String
  /-- The verifier, where OIDC is configured. -/
  verify : Option (String → IDToken) := none
  limit : Option (String → Option ℕ) := none

/-- The chain `NewRouter` puts in front of every handler under `/v1`. -/
def chain {β : Type} (cfg : Config) (env : Env) (authorization : String) (next : Handler β) :
    Proc Db (Reply β) :=
  let limited := match cfg.limit with
    | none => next
    | some limit => perTenant limit next
  let keyed := apiKeyHandler cfg.hashAPIKey env authorization (requireTenant limited)
  match cfg.verify with
  | none => keyed anonymous
  | some verify => oidcHandler verify authorization keyed anonymous

/-- `rbac.Require`. -/
def require {β : Type} (permission : String) (next : Handler β) : Handler β := fun ctx =>
  if ctx.isAdmin then next ctx
  else if permission ∈ ctx.permissions then next ctx
  else pure (.error 403 "forbidden" "You do not have permission to perform this action")

/-! ### What a middleware decides -/

abbrev Gate := (β : Type) → Handler β → Proc Db (Reply β)

/-- The gate answers the request itself and leaves the database alone. -/
def Refuses : Prop :=
  ∃ n code msg, 400 ≤ n ∧ ∀ β next, (g β next).run fs db = (.error n code msg, db)

/-- The handler behind the gate runs with `ctx`, on the database as it is. -/
def Reaches (ctx : Caller) : Prop :=
  ∃ rest, ∀ β next, (g β next).run fs db = (next ctx).run rest db

/-- The gate refuses the request or hands it on with a context in `P`. -/
inductive Rules (P : Caller → Prop) (g : Gate) (fs : List Bool) (db : Db) : Prop
  | refuses (h : Refuses g fs db)
  | hands (ctx : Caller) (rest : List Bool) (hctx : P ctx)
      (h : ∀ β next, (g β next).run fs db = (next ctx).run rest db)

section

variable {g : Gate} {P Q : Caller → Prop} {fs : List Bool} {db : Db}

lemma Rules.pass {ctx : Caller} (hctx : P ctx) : Rules P (fun _ next => next ctx) fs db :=
  .hands ctx fs hctx fun _ _ => rfl

lemma Rules.error {n : ℕ} {code msg : String} (hn : 400 ≤ n) :
    Rules P (fun _ _ => pure (.error n code msg)) fs db :=
  .refuses ⟨n, code, msg, hn, fun _ _ => run_done _ _ _⟩

lemma Rules.comp {m : (β : Type) → Handler β → Handler β} (hg : Rules P g fs db)
    (hm : ∀ ctx rest, P ctx → Rules Q (fun β next => m β next ctx) rest db) :
    Rules Q (fun β next => g β (m β next)) fs db := by
  rcases hg with ⟨n, code, msg, hn, h⟩ | ⟨ctx, rest, hctx, h⟩
  · exact .refuses ⟨n, code, msg, hn, fun β next => h β _⟩
  · rcases hm ctx rest hctx with ⟨n, code, msg, hn, h'⟩ | ⟨ctx', rest', hctx', h'⟩
    · exact .refuses ⟨n, code, msg, hn, fun β next => (h β _).trans (h' β next)⟩
    · exact .hands ctx' rest' hctx' fun β next => (h β _).trans (h' β next)

lemma Rules.read {α : Type} {q : Db → α} {k : (β : Type) → Handler β → Option α → Proc Db (Reply β)}
    (hnone : ∀ rest, Rules P (fun β next => k β next none) rest db)
    (hsome : ∀ rest, Rules P (fun β next => k β next (some (q db))) rest db) :
    Rules P (fun β next => (Proc.read q).bind (k β next)) fs db := by
  by_cases hf : fs.headD false = true
  · rcases hnone fs.tail with ⟨n, code, msg, hn, h⟩ | ⟨ctx, rest, hctx, h⟩
    · exact .refuses ⟨n, code, msg, hn, fun β next => by rw [run_read_bind, if_pos hf, h]⟩
    · exact .hands ctx rest hctx fun β next => by rw [run_read_bind, if_pos hf, h]
  · rcases hsome fs.tail with ⟨n, code, msg, hn, h⟩ | ⟨ctx, rest, hctx, h⟩
    · exact .refuses ⟨n, code, msg, hn, fun β next => by rw [run_read_bind, if_neg hf, h]⟩
    · exact .hands ctx rest hctx fun β next => by rw [run_read_bind, if_neg hf, h]

lemma Reaches.unique {ctx ctx' : Caller} (h : Reaches g fs db ctx) (h' : Reaches g fs db ctx') :
    ctx = ctx' := by
  obtain ⟨rest, h⟩ := h
  obtain ⟨rest', h'⟩ := h'
  have he := (h Caller fun c => done (.ok 200 c)).symm.trans (h' Caller fun c => done (.ok 200 c))
  simpa using he

lemma Refuses.not_reaches {ctx : Caller} (h : Refuses g fs db) : ¬ Reaches g fs db ctx := by
  intro hr
  obtain ⟨n, code, msg, -, h⟩ := h
  obtain ⟨rest, hr⟩ := hr
  have he := (h Caller fun c => done (.ok 200 c)).symm.trans (hr Caller fun c => done (.ok 200 c))
  simp at he

lemma Rules.prop_of_reaches (h : Rules P g fs db) {ctx : Caller} (hr : Reaches g fs db ctx) :
    P ctx := by
  rcases h with h | ⟨ctx', rest, hctx', h⟩
  · exact absurd hr h.not_reaches
  · exact hr.unique ⟨rest, h⟩ ▸ hctx'

lemma Rules.refuses_of_empty (h : Rules P g fs db) (hP : ∀ ctx, ¬ P ctx) : Refuses g fs db := by
  rcases h with h | ⟨ctx, rest, hctx, -⟩
  · exact h
  · exact absurd hctx (hP ctx)

end

/-! ### The credentials -/

/-- The permissions a role stands for; a role that is not there stands for none. -/
def permissionsOf (db : Db) (roleID : String) : List String :=
  ((db.roles.get? roleID).map (·.permissions.value)).getD []

section

variable (cfg : Config) (env : Env) (authorization : String) (db : Db)

/-- The context is that of an API key: the key's hash is that of the bearer value and the key has
not expired. The context is without a scope only if the column is `NULL`; from a scope that does
not decode, what was decoded stays. -/
def ByKey (ctx : Caller) : Prop :=
  extractBearerToken authorization ≠ "" ∧
  ∃ key ∈ db.apiKeys.rows,
    key.keyHash = cfg.hashAPIKey (extractBearerToken authorization) ∧
    (∀ t, key.expiresAt = some t → keyTime env ≤ t) ∧
    ctx.tenantID = key.tenantID ∧ key.userID = some ctx.userID ∧ key.roleID = some ctx.roleID ∧
    ctx.permissions = permissionsOf db ctx.roleID ∧ ctx.isAdmin = key.isAdmin ∧
    (key.scope = none → ctx.scope = none) ∧
    ∀ scope, key.scope = some scope → ctx.scope = some scope.value

/-- The context is that of the user linked to the subject of a token the verifier accepted. -/
def BySSO (ctx : Caller) : Prop :=
  extractBearerToken authorization ≠ "" ∧
  hasPrefix "sk_" (extractBearerToken authorization) = false ∧
  ∃ verify subject, cfg.verify = some verify ∧
    verify (extractBearerToken authorization) = .accepted subject ∧
    ∃ u ∈ db.users.rows, u.ssoSubject = some subject ∧
      ctx.tenantID = u.tenantID ∧ ctx.userID = u.id ∧ u.roleID = some ctx.roleID ∧
      ctx.permissions = permissionsOf db ctx.roleID ∧ ctx.isAdmin = false ∧ ctx.scope = none

/-- The bearer value is looked up among the API keys: there is no OIDC middleware, it lets the value
through, or it takes it for a user without a tenant. -/
def TakenForKey (raw : String) : Prop :=
  ∀ verify, cfg.verify = some verify → hasPrefix "sk_" raw = true ∨
    ∃ subject u permissions, verify raw = .accepted subject ∧
      lookupSSO subject db = some (u, permissions) ∧ u.roleID ≠ none ∧ u.tenantID = ""

def Decodes (db : Db) (ctx : Caller) : Prop :=
  ∀ role, db.roles.get? ctx.roleID = some role → role.permissions.ok = true

variable {cfg env authorization db}

lemma joinedPermissions_some (roleID : String) :
    ((joinedPermissions (some roleID) db).map (·.value)).getD [] = permissionsOf db roleID := by
  simp only [joinedPermissions, permissionsOf, bind_some, map_map]
  rfl

lemma scanKey_eq_some {key : APIKeyRow} {ctx : Caller}
    (h : scanKey key (joinedPermissions key.roleID db) = some ctx) :
    ctx.tenantID = key.tenantID ∧ key.userID = some ctx.userID ∧ key.roleID = some ctx.roleID ∧
      ctx.permissions = permissionsOf db ctx.roleID ∧ ctx.isAdmin = key.isAdmin ∧
      ctx.scope = key.scope.map (·.value) ∧ Decodes db ctx := by
  unfold scanKey at h
  obtain ⟨userID, huser, h⟩ := bind_eq_some_iff.mp h
  obtain ⟨roleID, hrole, h⟩ := bind_eq_some_iff.mp h
  split at h
  · rename_i hok
    cases h
    refine ⟨rfl, huser, hrole, ?_, rfl, rfl, fun role hget => ?_⟩
    · rw [hrole]
      exact joinedPermissions_some roleID
    · simpa [joinedPermissions, hrole, hget] using hok
  · cases h

variable (cfg env authorization db)

/-- The context was taken from a stored credential. -/
def Credited (c : Caller) : Prop :=
  (ByKey cfg env authorization db c ∧ TakenForKey cfg db (extractBearerToken authorization) ∧
    Decodes db c) ∨ BySSO cfg authorization db c

/-- What the OIDC middleware leaves to the one for API keys. -/
def Prepared (c : Caller) : Prop :=
  (c.tenantID ≠ "" → BySSO cfg authorization db c) ∧
    (c.tenantID = "" → extractBearerToken authorization ≠ "" →
      TakenForKey cfg db (extractBearerToken authorization))

lemma rules_apiKeyHandler (ctx : Caller) (fs : List Bool)
    (hctx : Prepared cfg authorization db ctx) :
    Rules (Credited cfg env authorization db)
      (fun _ next => apiKeyHandler cfg.hashAPIKey env authorization next ctx) fs db := by
  unfold apiKeyHandler
  by_cases ht : ctx.tenantID ≠ ""
  · simp only [if_pos ht]
    exact .pass (.inr (hctx.1 ht))
  simp only [if_neg ht]
  by_cases hraw : extractBearerToken authorization = ""
  · simp only [if_pos hraw]
    exact .error (by decide)
  simp only [if_neg hraw, bind_eq]
  refine .read (fun rest => .error (by decide)) fun rest => ?_
  rcases hl : lookupKey env (cfg.hashAPIKey (extractBearerToken authorization)) db with
    _ | ⟨key, permissions⟩
  · exact .error (by decide)
  obtain ⟨key', hfind, he⟩ := map_eq_some_iff.mp hl
  cases he
  rcases hs : scanKey key (joinedPermissions key.roleID db) with _ | who
  · simp only [hs]
    exact .error (by decide)
  simp only [hs]
  by_cases hexp : expired (keyTime env) key = true
  · simp only [if_pos hexp]
    exact .error (by decide)
  simp only [if_neg hexp]
  obtain ⟨htenant, huser, hrole, hperms, hadmin, hscope, hdecodes⟩ := scanKey_eq_some hs
  have hmem : key ∈ db.apiKeys.rows :=
    (env.scanKeys.mem_order _ _).mp (List.mem_of_find?_eq_some hfind)
  have hhash := List.find?_some hfind
  have hdate : ∀ t, key.expiresAt = some t → keyTime env ≤ t := by
    intro t hkt
    simpa [expired, hkt] using hexp
  refine .pass (.inl ⟨⟨hraw, key, hmem, of_decide_eq_true hhash, hdate, htenant, huser, hrole,
    hperms, hadmin, fun hnone => ?_, fun scope hsome => ?_⟩, hctx.2 (not_not.mp ht) hraw, hdecodes⟩)
  · rw [hscope, hnone]; rfl
  · rw [hscope, hsome]; rfl

variable {cfg} in
lemma rules_oidcHandler {verify : String → IDToken} (hverify : cfg.verify = some verify)
    (fs : List Bool) : Rules (Prepared cfg authorization db)
      (fun _ next => oidcHandler verify authorization next anonymous) fs db := by
  unfold oidcHandler
  by_cases hskip : extractBearerToken authorization = "" ∨
      hasPrefix "sk_" (extractBearerToken authorization) = true
  · simp only [if_pos hskip]
    exact .pass ⟨fun h => absurd rfl h, fun _ hraw _ _ => .inl (hskip.resolve_left hraw)⟩
  simp only [if_neg hskip]
  push Not at hskip
  obtain ⟨hraw, hsk⟩ := hskip
  rcases hv : verify (extractBearerToken authorization) with _ | _ | subject
  · exact .error (by decide)
  · exact .error (by decide)
  simp only [bind_eq]
  refine .read (fun rest => .error (by decide)) fun rest => ?_
  rcases hl : lookupSSO subject db with _ | ⟨u, permissions⟩
  · exact .error (by decide)
  obtain ⟨u', hfind, he⟩ := map_eq_some_iff.mp hl
  cases he
  rcases hrole : u.roleID with _ | roleID
  · simp only [hrole]
    exact .error (by decide)
  simp only [hrole]
  have hsub := List.find?_some hfind
  refine .pass ⟨fun _ => ⟨hraw, by simpa using hsk, verify, subject, hverify, hv, u,
    List.mem_of_find?_eq_some hfind, of_decide_eq_true hsub, rfl, rfl, hrole, ?_, rfl, rfl⟩,
    fun ht _ verify' hverify' => ?_⟩
  · exact joinedPermissions_some roleID
  · cases hverify.symm.trans hverify'
    exact .inr ⟨subject, u, _, hv, hl, by simp [hrole], ht⟩

/-- A handler of the chain runs with a tenant and the context of one stored credential. -/
lemma rules_chain (fs : List Bool) :
    Rules (fun c => c.tenantID ≠ "" ∧ Credited cfg env authorization db c)
      (fun _ next => chain cfg env authorization next) fs db := by
  have hlimited : ∀ ctx rest, Credited cfg env authorization db ctx →
      Rules (fun c => c.tenantID ≠ "" ∧ Credited cfg env authorization db c)
        (fun β next => requireTenant (match cfg.limit with
        | none => next
        | some limit => perTenant limit next : Handler β) ctx) rest db := by
    intro ctx rest hctx
    unfold requireTenant
    by_cases ht : ctx.tenantID = ""
    · simp only [if_pos ht]
      exact .error (by decide)
    simp only [if_neg ht]
    rcases cfg.limit with _ | limit
    · exact .pass ⟨ht, hctx⟩
    simp only [perTenant, if_neg ht]
    rcases limit ctx.tenantID with _ | secs
    · exact .pass ⟨ht, hctx⟩
    · exact .error (by decide)
  unfold chain
  rcases hv : cfg.verify with _ | verify
  · have hprepared : Prepared cfg authorization db anonymous :=
      ⟨fun h => absurd rfl h, fun _ _ verify hverify => by cases hv.symm.trans hverify⟩
    exact (rules_apiKeyHandler cfg env authorization db anonymous fs hprepared).comp hlimited
  · have hkey := (rules_oidcHandler authorization db hv fs).comp fun ctx rest hctx =>
      rules_apiKeyHandler cfg env authorization db ctx rest hctx
    exact hkey.comp hlimited

variable {cfg env authorization db}

lemma refuses_of_not_accepted {verify : String → IDToken} (hverify : cfg.verify = some verify)
    (hraw : extractBearerToken authorization ≠ "")
    (hsk : hasPrefix "sk_" (extractBearerToken authorization) = false)
    (hrejected : ∀ subject, verify (extractBearerToken authorization) ≠ .accepted subject)
    (fs : List Bool) : Refuses (fun _ next => chain cfg env authorization next) fs db := by
  have hskip : ¬ (extractBearerToken authorization = "" ∨
      hasPrefix "sk_" (extractBearerToken authorization) = true) := by simp [hraw, hsk]
  have hrules : Rules (fun _ => False) (fun _ next => chain cfg env authorization next) fs db := by
    simp only [chain, hverify, oidcHandler, if_neg hskip]
    rcases hv : verify (extractBearerToken authorization) with _ | _ | subject
    · exact .error (by decide)
    · exact .error (by decide)
    · exact absurd hv (hrejected subject)
  exact hrules.refuses_of_empty fun _ h => h

end

/-- **The chain is sound.** Whatever the configuration, the database, the header and the failing
statements: the request is refused, or the handler runs with a tenant and the context of one stored
credential. A missing, unknown, expired or unverified credential is refused; and for a value that
starts with `sk_` it makes no difference whether OIDC is configured. -/
theorem chain_sound (cfg : Config) (env : Env) (authorization : String) (fs : List Bool)
    (db : Db) :
    (Refuses (fun _ next => chain cfg env authorization next) fs db ∨
      ∃ ctx, Reaches (fun _ next => chain cfg env authorization next) fs db ctx) ∧
    (∀ ctx, Reaches (fun _ next => chain cfg env authorization next) fs db ctx →
      ctx.tenantID ≠ "" ∧
        (ByKey cfg env authorization db ctx ∨ BySSO cfg authorization db ctx)) ∧
    (extractBearerToken authorization = "" →
      Refuses (fun _ next => chain cfg env authorization next) fs db) ∧
    ((cfg.verify = none ∨ hasPrefix "sk_" (extractBearerToken authorization) = true) →
      (∀ key ∈ db.apiKeys.rows, key.keyHash = cfg.hashAPIKey (extractBearerToken authorization) →
        expired (keyTime env) key = true) →
      Refuses (fun _ next => chain cfg env authorization next) fs db) ∧
    (∀ verify, cfg.verify = some verify →
      hasPrefix "sk_" (extractBearerToken authorization) = false →
      (∀ subject, verify (extractBearerToken authorization) ≠ .accepted subject) →
      Refuses (fun _ next => chain cfg env authorization next) fs db) ∧
    (hasPrefix "sk_" (extractBearerToken authorization) = true →
      ∀ (β : Type) (next : Handler β), chain cfg env authorization next =
        chain { cfg with verify := none } env authorization next) := by
  have hrules := rules_chain cfg env authorization db fs
  have hmissing : extractBearerToken authorization = "" →
      Refuses (fun _ next => chain cfg env authorization next) fs db := by
    intro hraw
    refine hrules.refuses_of_empty fun ctx hctx => ?_
    rcases hctx.2 with hkey | hsso
    · exact hkey.1.1 hraw
    · exact hsso.1 hraw
  have hcredential : ∀ ctx, Reaches (fun _ next => chain cfg env authorization next) fs db ctx →
      ctx.tenantID ≠ "" ∧
        (ByKey cfg env authorization db ctx ∨ BySSO cfg authorization db ctx) :=
    fun ctx hr => (hrules.prop_of_reaches hr).imp_right (Or.imp_left And.left)
  refine ⟨?_, hcredential, hmissing, fun hkeys hall => ?_,
    fun verify hverify hsk hrejected => ?_, fun hsk β next => ?_⟩
  · rcases hrules with h | ⟨ctx, rest, -, h⟩
    · exact .inl h
    · exact .inr ⟨ctx, rest, h⟩
  · refine hrules.refuses_of_empty fun ctx hctx => ?_
    rcases hctx.2 with ⟨⟨-, key, hmem, hhash, hdate, -⟩, -⟩ | ⟨-, hsk, verify, subject, hverify, -⟩
    · have hexp := hall key hmem hhash
      rcases ht : key.expiresAt with _ | t
      · simp [expired, ht] at hexp
      · have hlt : t < keyTime env := by simpa [expired, ht] using hexp
        exact absurd hlt (Int.not_lt.mpr (hdate t ht))
    · rcases hkeys with hnone | hpre
      · cases hnone.symm.trans hverify
      · cases hsk.symm.trans hpre
  · by_cases hraw : extractBearerToken authorization = ""
    · exact hmissing hraw
    · exact refuses_of_not_accepted hverify hraw hsk hrejected fs
  · rcases hv : cfg.verify with _ | verify
    · rw [← hv]
    · simp only [chain, hv, oidcHandler, if_pos (Or.inr hsk)]

end Moebius.ApiAuth
