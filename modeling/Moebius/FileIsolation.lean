import Moebius.Files
import Moebius.TwoRuns

/-!
Whether tenants can tell each other's files apart.

Two states of the server that agree on everything of a tenant are compared by what the file
endpoints answer to a request with credentials of that tenant, or with none. The answers of the
endpoints that ask the database are the same. The data endpoint asks only the storage, so its answer
is the tenant's business only where the tenant has a file.
-/

namespace Moebius.Files

open Proc ApiAuth Option List Table

/-- The states agree on what belongs to the tenant, as far as the file endpoints look: its files
and their data, its keys, in the order a scan meets them, its users, its devices and their
certificates, and the roles of its keys and users. -/
structure Agree (cfg : Config) (env : Env) (A : String) (db db' : Db) (disk disk' : Disk) :
    Prop where
  files : SameOn (fun f => decide (f.tenantID = A)) db.files db'.files
  data : ∀ f ∈ db.files.rows, f.tenantID = A →
    disk' (path cfg.baseDir f.id) = disk (path cfg.baseDir f.id)
  keys : (env.scanKeys.order db'.apiKeys.rows).filter (fun k => decide (k.tenantID = A)) =
    (env.scanKeys.order db.apiKeys.rows).filter fun k => decide (k.tenantID = A)
  users : SameOn (fun u => decide (u.tenantID = A)) db.users db'.users
  devices : SameOn (fun d => decide (d.tenantID = A)) db.devices db'.devices
  certs : ∀ d ∈ db.devices.rows, d.tenantID = A →
    db'.certs.rows.filter (fun c => decide (c.deviceID = d.id)) =
      db.certs.rows.filter fun c => decide (c.deviceID = d.id)
  keyRoles : ∀ k ∈ db.apiKeys.rows, k.tenantID = A → ∀ id, k.roleID = some id →
    db'.roles.get? id = db.roles.get? id
  userRoles : ∀ u ∈ db.users.rows, u.tenantID = A → ∀ id, u.roleID = some id →
    db'.roles.get? id = db.roles.get? id

/-- Whoever the header stands for, as a key or as a single sign-on, is of the tenant. -/
def HeaderOf (cfg : Config) (A : String) (db : Db) (authorization : String) : Prop :=
  extractBearerToken authorization ≠ "" →
    (∀ k ∈ db.apiKeys.rows,
      k.keyHash = cfg.auth.hashAPIKey (extractBearerToken authorization) →
        k.tenantID = A) ∧
    ∀ verify, cfg.auth.verify = some verify → ∀ subject,
      verify (extractBearerToken authorization) = .accepted subject →
        ∀ u ∈ db.users.rows, u.ssoSubject = some subject → u.tenantID = A

/-- The request carries credentials of the tenant only, or none. -/
def Request.CredentialsOf (cfg : Config) (A : String) (db : Db) : Request → Prop
  | .getFile authorization _ => HeaderOf cfg A db authorization
  | .listFiles authorization _ _ _ => HeaderOf cfg A db authorization
  | .download cert _ => ∀ c, cert = some c → ∀ d ∈ db.devices.rows, d.id = c.commonName →
      d.tenantID = A
  | .fileData _ _ => True

section

variable {cfg : Config} {env : Env} {A : String} {db db' : Db} {disk disk' : Disk} {ρ β : Type}
  {l : List ρ} {p q : ρ → Bool} {authorization agentID : String} {next : Handler β}

lemma find?_filter_of_imp (h : ∀ r ∈ l, p r = true → q r = true) :
    (l.filter q).find? p = l.find? p := by
  rw [find?_filter]
  induction l with
  | nil => rfl
  | cons r l ih =>
    rw [find?_cons, find?_cons, ih fun r' hr' => h r' (mem_cons_of_mem r hr')]
    rcases hp : p r with _ | _
    · simp
    · simp [h r mem_cons_self hp]

lemma find?_eq_of_filter {l' : List ρ} (hl : l'.filter q = l.filter q)
    (h : ∀ r ∈ l, p r = true → q r = true) (h' : ∀ r ∈ l', p r = true → q r = true) :
    l.find? p = l'.find? p := by
  rw [← find?_filter_of_imp h, ← hl, find?_filter_of_imp h']

lemma of_find?_eq_some {p : ρ → Prop} [DecidablePred p] {r : ρ}
    (h : l.find? (fun r => decide (p r)) = some r) : r ∈ l ∧ p r := by
  have hp := find?_some h
  exact ⟨mem_of_find?_eq_some h, of_decide_eq_true hp⟩

lemma Agree.file? (h : Agree cfg env A db db' disk disk') (fileID : String) :
    file? A fileID db = Files.file? A fileID db' := by
  refine find?_eq_of_filter h.files (fun f _ hf => ?_) fun f _ hf => ?_
  · exact decide_eq_true (of_decide_eq_true hf).2
  · exact decide_eq_true (of_decide_eq_true hf).2

lemma Agree.selectFiles (h : Agree cfg env A db db' disk disk') (limit : ℕ)
    (cursor search : String) : selectFiles cfg env A limit cursor search db =
      Files.selectFiles cfg env A limit cursor search db' := by
  have hselect : ∀ p : FileRow → Bool,
      db'.files.rows.filter (fun f => decide (f.tenantID = A) && p f) =
        db.files.rows.filter fun f => decide (f.tenantID = A) && p f := by
    intro p
    have hfiles : db'.files.rows.filter (fun f => decide (f.tenantID = A)) =
        db.files.rows.filter fun f => decide (f.tenantID = A) := h.files
    have hsplit : ∀ l : List FileRow, l.filter (fun f => decide (f.tenantID = A) && p f) =
        (l.filter fun f => decide (f.tenantID = A)).filter p := by
      intro l
      rw [List.filter_filter]
      exact List.filter_congr fun f _ => Bool.and_comm _ _
    rw [hsplit, hsplit, hfiles]
  simp only [Files.selectFiles, select, Bool.and_assoc, hselect]

lemma alike_loadFile (h : Agree cfg env A db db' disk disk') {fileID : String} :
    (loadFile A fileID).Alike db db' :=
  alike_read_bind (h.file? fileID) trivial trivial

lemma alike_getFile (h : Agree cfg env A db db' disk disk') (fileID : String) {ctx : Caller}
    (hctx : ctx.tenantID = A) : (getFile fileID ctx).Alike db db' := by
  subst hctx
  refine alike_bind (alike_loadFile h) fun f => ?_
  split <;> trivial

lemma alike_listFiles (h : Agree cfg env A db db' disk disk') (n : Option ℤ)
    (cursor search : String) {ctx : Caller} (hctx : ctx.tenantID = A) :
    (listFiles cfg env n cursor search ctx).Alike db db' := by
  subst hctx
  refine alike_read_bind (h.selectFiles _ _ _) ?_ trivial
  dsimp only
  split <;> trivial

lemma alike_download (h : Agree cfg env A db db' disk disk') (fileID : String) {ctx : Caller}
    (hctx : ctx.tenantID = A) : (download env fileID ctx).Alike db db' := by
  subst hctx
  refine alike_bind (alike_loadFile h) fun f => ?_
  split
  · trivial
  · split <;> trivial

/-! ### Authentication -/

lemma joinedPermissions_eq {roleID : Option String}
    (h : ∀ id, roleID = some id → db'.roles.get? id = db.roles.get? id) :
    joinedPermissions roleID db = joinedPermissions roleID db' := by
  rcases roleID with _ | id
  · rfl
  · simp only [joinedPermissions, bind_some, h id rfl]

lemma Agree.lookupKey (h : Agree cfg env A db db' disk disk') {hash : String}
    (hk : ∀ k ∈ db.apiKeys.rows, k.keyHash = hash → k.tenantID = A)
    (hk' : ∀ k ∈ db'.apiKeys.rows, k.keyHash = hash → k.tenantID = A) :
    ApiAuth.lookupKey env hash db = ApiAuth.lookupKey env hash db' := by
  have hfind : (env.scanKeys.order db.apiKeys.rows).find? (fun k => decide (k.keyHash = hash)) =
      (env.scanKeys.order db'.apiKeys.rows).find? fun k => decide (k.keyHash = hash) := by
    refine find?_eq_of_filter h.keys (fun k hmem hp => ?_) fun k hmem hp => ?_
    · exact decide_eq_true (hk k ((Scan.mem_order _ _ _).mp hmem) (of_decide_eq_true hp))
    · exact decide_eq_true (hk' k ((Scan.mem_order _ _ _).mp hmem) (of_decide_eq_true hp))
  unfold ApiAuth.lookupKey
  rw [← hfind]
  rcases hkey : (env.scanKeys.order db.apiKeys.rows).find? (fun k => decide (k.keyHash = hash))
    with _ | k
  · rw [hkey]
    rfl
  · obtain ⟨hmem, hhash⟩ := of_find?_eq_some hkey
    rw [Scan.mem_order] at hmem
    rw [hkey, map_some, map_some, joinedPermissions_eq (h.keyRoles k hmem (hk k hmem hhash))]

lemma Agree.lookupSSO (h : Agree cfg env A db db' disk disk') {subject : String}
    (hu : ∀ u ∈ db.users.rows, u.ssoSubject = some subject → u.tenantID = A)
    (hu' : ∀ u ∈ db'.users.rows, u.ssoSubject = some subject → u.tenantID = A) :
    ApiAuth.lookupSSO subject db = ApiAuth.lookupSSO subject db' := by
  have hfind : db.users.rows.find? (fun u => decide (u.ssoSubject = some subject)) =
      db'.users.rows.find? fun u => decide (u.ssoSubject = some subject) := by
    refine find?_eq_of_filter h.users (fun u hmem hp => ?_) fun u hmem hp => ?_
    · exact decide_eq_true (hu u hmem (of_decide_eq_true hp))
    · exact decide_eq_true (hu' u hmem (of_decide_eq_true hp))
  unfold ApiAuth.lookupSSO
  rw [← hfind]
  rcases huser : db.users.rows.find? (fun u => decide (u.ssoSubject = some subject)) with _ | u
  · rw [huser]
    rfl
  · obtain ⟨hmem, hsubject⟩ := of_find?_eq_some huser
    rw [huser, map_some, map_some, joinedPermissions_eq (h.userRoles u hmem (hu u hmem hsubject))]

lemma alike_apiKeyHandler (h : Agree cfg env A db db' disk disk')
    (hheader : HeaderOf cfg A db authorization) (hheader' : HeaderOf cfg A db' authorization)
    (hnext : ∀ ctx, ctx.tenantID = A → (next ctx).Alike db db') (ctx : Caller)
    (hctx : ctx.tenantID ≠ "" → ctx.tenantID = A) :
    (apiKeyHandler cfg.auth.hashAPIKey env authorization next ctx).Alike db db' := by
  unfold apiKeyHandler
  split
  · rename_i hne
    exact hnext ctx (hctx hne)
  dsimp only
  split
  · trivial
  rename_i hraw
  have hk := (hheader hraw).1
  refine alike_read_bind (h.lookupKey hk (hheader' hraw).1) ?_ trivial
  rcases hlookup : lookupKey env
    (cfg.auth.hashAPIKey (extractBearerToken authorization)) db with _ | ⟨k, permissions⟩
  · trivial
  obtain ⟨k', hfind, heq⟩ := map_eq_some_iff.mp hlookup
  cases heq
  obtain ⟨hmem, hhash⟩ := of_find?_eq_some hfind
  dsimp only
  rcases hscan : scanKey k (joinedPermissions k.roleID db) with _ | who
  · trivial
  dsimp only
  split
  · trivial
  · refine hnext who ((scanKey_eq_some hscan).1.trans ?_)
    exact hk k ((Scan.mem_order _ _ _).mp hmem) hhash

lemma alike_oidcHandler (h : Agree cfg env A db db' disk disk')
    (hheader : HeaderOf cfg A db authorization) (hheader' : HeaderOf cfg A db' authorization)
    {verify : String → IDToken} (hverify : cfg.auth.verify = some verify) {ctx : Caller}
    (hpass : (next ctx).Alike db db') (hnext : ∀ ctx, ctx.tenantID = A → (next ctx).Alike db db') :
    (oidcHandler verify authorization next ctx).Alike db db' := by
  unfold oidcHandler
  dsimp only
  split
  · exact hpass
  rename_i htoken
  have hraw : extractBearerToken authorization ≠ "" := fun h => htoken (.inl h)
  rcases haccept : verify (extractBearerToken authorization) with _ | _ | subject
  · trivial
  · trivial
  have hu := (hheader hraw).2 verify hverify subject haccept
  refine alike_read_bind (h.lookupSSO hu ((hheader' hraw).2 verify hverify subject haccept)) ?_
    trivial
  rcases hlookup : lookupSSO subject db with _ | ⟨u, permissions⟩
  · trivial
  dsimp only
  rcases u.roleID with _ | roleID
  · trivial
  refine hnext _ ?_
  obtain ⟨u', hfind, heq⟩ := map_eq_some_iff.mp hlookup
  cases heq
  obtain ⟨hmem, hsubject⟩ := of_find?_eq_some hfind
  exact hu u hmem hsubject

lemma alike_limited {limit : Option (String → Option ℕ)} {ctx : Caller}
    (hnext : (next ctx).Alike db db') :
    Alike db db' ((match limit with
      | none => next
      | some limit => perTenant limit next) ctx) := by
  rcases limit with _ | limit
  · exact hnext
  dsimp only [perTenant]
  split
  · exact hnext
  · split
    · exact hnext
    · trivial

lemma alike_requireTenant {ctx : Caller} (hnext : (next ctx).Alike db db') :
    (requireTenant next ctx).Alike db db' := by
  unfold requireTenant
  split
  · trivial
  · exact hnext

lemma alike_require {permission : String} {ctx : Caller} (hnext : (next ctx).Alike db db') :
    (require permission next ctx).Alike db db' := by
  unfold require
  split
  · exact hnext
  split
  · exact hnext
  · trivial

/-- A handler behind the API authentication, which is alike for callers of the tenant. -/
lemma alike_api (h : Agree cfg env A db db' disk disk') (hheader : HeaderOf cfg A db authorization)
    (hheader' : HeaderOf cfg A db' authorization)
    (hnext : ∀ ctx, ctx.tenantID = A → (next ctx).Alike db db') :
    (api cfg env authorization next).Alike db db' := by
  unfold api chain
  have hbehind : ∀ ctx, ctx.tenantID = A →
      (requireTenant (match cfg.auth.limit with
        | none => require "files:read" next
        | some limit => perTenant limit (require "files:read" next)) ctx).Alike
        db db' :=
    fun ctx hctx => alike_requireTenant (alike_limited (alike_require (hnext ctx hctx)))
  have hanonymous := alike_apiKeyHandler h hheader hheader' hbehind anonymous
    fun hne => absurd rfl hne
  rcases hverify : cfg.auth.verify with _ | verify
  · exact hanonymous
  · exact alike_oidcHandler h hheader hheader' hverify hanonymous fun ctx hctx =>
      alike_apiKeyHandler h hheader hheader' hbehind ctx fun _ => hctx

lemma Agree.lookupCert (h : Agree cfg env A db db' disk disk') (serial : String)
    (hd : ∀ d ∈ db.devices.rows, d.id = agentID → d.tenantID = A)
    (hd' : ∀ d ∈ db'.devices.rows, d.id = agentID → d.tenantID = A) :
    lookupCert agentID serial db = Moebius.lookupCert agentID serial db' := by
  have hdevice : db.devices.get? agentID = db'.devices.get? agentID := by
    refine find?_eq_of_filter h.devices (fun d hmem hp => ?_) fun d hmem hp => ?_
    · exact decide_eq_true (hd d hmem (of_decide_eq_true hp))
    · exact decide_eq_true (hd' d hmem (of_decide_eq_true hp))
  unfold Moebius.lookupCert
  rw [← hdevice]
  rcases hget : db.devices.get? agentID with _ | d
  · rfl
  have hmem : d ∈ db.devices.rows := mem_of_get? hget
  have hcerts := h.certs d hmem (hd d hmem (key_of_get? hget))
  have hfind : db.certs.rows.find? (fun c => decide (c.deviceID = d.id ∧ c.serialNumber = serial)) =
      db'.certs.rows.find? fun c => decide (c.deviceID = d.id ∧ c.serialNumber = serial) := by
    refine find?_eq_of_filter hcerts (fun c _ hp => ?_) fun c _ hp => ?_
    · exact decide_eq_true (of_decide_eq_true hp).1
    · exact decide_eq_true (of_decide_eq_true hp).1
  simp only [bind_some, hfind]

lemma tenant_of_lookupCert {serial tenantID : String} {status : DeviceStatus}
    {revokedAt : Option Time} (hd : ∀ d ∈ db.devices.rows, d.id = agentID → d.tenantID = A)
    (h : lookupCert agentID serial db = some (tenantID, status, revokedAt)) : tenantID = A := by
  obtain ⟨d, hget, h⟩ := bind_eq_some_iff.mp h
  obtain ⟨c, -, heq⟩ := map_eq_some_iff.mp h
  cases heq
  exact hd d (mem_of_get? hget) (key_of_get? hget)

/-- A handler behind the authentication of agents, which is alike for agents of the tenant. -/
lemma alike_agent (h : Agree cfg env A db db' disk disk') {cert : Option ClientCert}
    (hd : ∀ c, cert = some c → ∀ d ∈ db.devices.rows, d.id = c.commonName → d.tenantID = A)
    (hd' : ∀ c, cert = some c → ∀ d ∈ db'.devices.rows, d.id = c.commonName → d.tenantID = A)
    (hnext : ∀ ctx, ctx.tenantID = A → (next ctx).Alike db db') :
    (agent cfg env cert next).Alike db db' := by
  unfold agent authenticate mtlsCheck
  rcases cert with _ | c
  · trivial
  dsimp only
  split
  · trivial
  split
  · trivial
  have hlookup := h.lookupCert c.serialNumber (hd c rfl) (hd' c rfl)
  rw [bind_eq, bind_eq, Proc.bind_assoc]
  refine alike_read_bind hlookup ?_ trivial
  rcases hfound : lookupCert c.commonName c.serialNumber db with _ | ⟨tenantID, status, revokedAt⟩
  · trivial
  dsimp only
  split
  · trivial
  split
  · trivial
  · exact alike_limited (hnext _ (tenant_of_lookupCert (hd c rfl) hfound))

end

/-! ### Answers -/

/-- The disk with something else at the path: no file if there was one, and one if there was
none. -/
def flip (disk : Disk) (p : List String) : Disk := fun q =>
  if q = p then
    match disk q with
    | none => some ⟨"", 0⟩
    | some _ => none
  else disk q

/-- **When the file endpoints tell nothing about other tenants.** All of them, except for the data
endpoint where the tenant has no file. -/
theorem answers_agree_iff (cfg : Config) (env : Env) (faults : List Bool) (A : String) (db : Db)
    (disk : Disk) (req : Request) (hcred : req.CredentialsOf cfg A db) :
    (∀ db' disk', Agree cfg env A db db' disk disk' → req.CredentialsOf cfg A db' →
      respond cfg env faults db' disk' req = respond cfg env faults db disk req) ↔
    ∀ fileID headers, req = .fileData fileID headers →
      ∃ f ∈ db.files.rows, f.tenantID = A ∧ path cfg.baseDir f.id = path cfg.baseDir fileID := by
  constructor
  · rintro hsame fileID headers rfl
    by_contra hnone
    have hagree : Agree cfg env A db db disk (flip disk (path cfg.baseDir fileID)) :=
      ⟨.refl _, fun f hf hA => if_neg fun heq => hnone ⟨f, hf, hA, heq⟩, rfl, .refl _, .refl _,
        fun _ _ _ => rfl, fun _ _ _ _ _ => rfl, fun _ _ _ _ _ => rfl⟩
    have heq := hsame db _ hagree trivial
    simp only [respond, serveFileData, flip, if_true] at heq
    rcases hdisk : disk (path cfg.baseDir fileID) with _ | f
    · rw [hdisk] at heq
      cases heq
    · rw [hdisk] at heq
      cases heq
  · intro hdata db' disk' h hcred'
    cases req with
    | getFile authorization fileID =>
      have halike := alike_api h hcred hcred' fun _ hctx => alike_getFile h fileID hctx
      exact congrArg Response.file (halike.answer_eq faults).symm
    | listFiles authorization limit cursor search =>
      have halike := alike_api h hcred hcred' fun _ hctx =>
        alike_listFiles h limit cursor search hctx
      exact congrArg Response.files (halike.answer_eq faults).symm
    | download cert fileID =>
      have halike := alike_agent h hcred hcred' fun _ hctx => alike_download h fileID hctx
      exact congrArg Response.download (halike.answer_eq faults).symm
    | fileData fileID headers =>
      obtain ⟨f, hf, hA, hpath⟩ := hdata fileID headers rfl
      have hdisk := h.data f hf hA
      rw [hpath] at hdisk
      simp only [respond, serveFileData, hdisk]

namespace Sample

def cfg : Config where
  auth := { hashAPIKey := id }
  ilike a b := a = b
  textBefore _ _ := false
  serveContent _ f := ⟨200, f.content⟩
  baseDir := ["files"]

def env : Env := .plain 0 "x"

def file : FileRow :=
  { id := "f", tenantID := "b", filename := "file", sizeBytes := 3, sha256 := ""
    storageBackend := "local", storagePath := "files/f", createdAt := 0 }

def db : Db := { files := ⟨[file], by decide⟩ }

def disk (content : String) : Disk := fun p =>
  if p = path cfg.baseDir file.id then some ⟨content, 0⟩ else none

def others (content : String) : Disk := fun p => ((disk content p).or (some ⟨"other", 0⟩))

def fetch : Request := .fileData "f" []

lemma agree_others : Agree cfg env "b" db db (disk "data") (others "data") where
  files := .refl _
  data f hf _ := by
    obtain rfl := mem_singleton.mp hf
    simp [others, disk]
  keys := rfl
  users := .refl _
  devices := .refl _
  certs _ _ _ := rfl
  keyRoles _ _ _ _ _ := rfl
  userRoles _ _ _ _ _ := rfl

lemma agree_data : Agree cfg env "a" db db (disk "one") (disk "two") where
  files := .refl _
  data f hf hA := by
    obtain rfl := mem_singleton.mp hf
    exact absurd hA (by decide)
  keys := rfl
  users := .refl _
  devices := .refl _
  certs _ _ _ := rfl
  keyRoles _ _ _ _ _ := rfl
  userRoles _ _ _ _ _ := rfl

end Sample

open Files.Sample in
theorem answers_agree_sample : respond cfg env [] db (others "data") fetch =
      respond cfg env [] db (disk "data") fetch := by
  refine (answers_agree_iff cfg env [] "b" db (disk "data") fetch
    trivial).mpr ?_ db (others "data") agree_others trivial
  rintro fileID headers ⟨⟩
  exact ⟨file, mem_singleton.mpr rfl, rfl, rfl⟩

open Files.Sample in
/-- Two states that differ only in the data of a file of `b` are told apart by a request without
credentials. -/
theorem fileData_tells_apart : Agree cfg env "a" db db (disk "one") (disk "two") ∧
    fetch.CredentialsOf cfg "a" db ∧
    respond cfg env [] db (disk "one") fetch ≠
      respond cfg env [] db (disk "two") fetch := by
  refine ⟨agree_data, trivial, fun h => ?_⟩
  have hone : respond cfg env [] db (disk "one") fetch = .data (.ok 200 "one") := by
    simp [respond, serveFileData, fetch, disk, file, cfg]
  have htwo : respond cfg env [] db (disk "two") fetch = .data (.ok 200 "two") := by
    simp [respond, serveFileData, fetch, disk, file, cfg]
  rw [hone, htwo] at h
  simp at h

end Moebius.Files
