import Moebius.CertLifecycle
import Moebius.TokenRace

/-!
Enrollment is all or nothing, and stays inside the scope of its token.

What an enrollment stores comes from one transaction, so an error leaves no device, certificate or
membership behind. The memberships are those the scope of the token lists; a token keeps the
scope it was created with, which the key of its creator had to cover.
-/

namespace Moebius

open Proc Enrollment Enroll Db Function Table List

namespace Enrollment

lemma mem_of_allInSet {candidates allowed : List String} (h : allInSet candidates allowed = true) :
    ∀ id ∈ candidates, id ∈ allowed := by
  intro id hid
  unfold allInSet at h
  split at h
  · rename_i hnil
    rw [hnil] at hid
    cases hid
  · split at h
    · cases h
    · exact of_decide_eq_true (all_eq_true.mp h id hid)

/-- A scope that passes lists nothing the key does not list. -/
lemma mem_of_scopeIsSubset {outer inner : APIScope}
    (h : scopeIsSubset (some outer) (some inner) = true) (o : Owner) :
    ∀ id ∈ o.idsOf inner, id ∈ o.idsOf outer := by
  simp only [scopeIsSubset, Bool.and_eq_true] at h
  obtain ⟨⟨⟨hgroups, htags⟩, hsites⟩, -⟩ := h
  cases o with
  | group => exact mem_of_allInSet hgroups
  | tag => exact mem_of_allInSet htags
  | site => exact mem_of_allInSet hsites

/-! ### Creating and deleting tokens -/

lemma readOnly_checkScope {table : String} {exists' : String → Db → Bool} {ids : List String} :
    (checkScope table exists' ids).ReadOnly := by
  refine readOnly_loop (fun _ id => ?_) _ _
  refine readOnly_bind (readOnly_read _) fun r => ?_
  rcases r with _ | _ | _ <;> trivial

lemma readOnly_validateScopeTenant (tenantID : String) (scope : Option APIScope) :
    (validateScopeTenant tenantID scope).ReadOnly := by
  rcases scope with _ | s
  · trivial
  refine readOnly_bind readOnly_checkScope fun r => ?_
  rcases r with e | _
  · trivial
  refine readOnly_bind readOnly_checkScope fun r => ?_
  rcases r with e | _
  · trivial
  refine readOnly_bind readOnly_checkScope fun r => ?_
  rcases r with e | _
  · trivial
  · exact readOnly_checkScope

inductive CreateOutcome (caller : Caller) (body : Option CreateTokenRequest) (db : Db) :
    Reply CreateTokenResponse → Db → Prop
  | refused {n : ℕ} {code msg : String} : CreateOutcome caller body db (.error n code msg) db
  | created {req : CreateTokenRequest} {row : EnrollmentTokenRow} {n : ℕ}
      {resp : CreateTokenResponse} {db₁ db' : Db} (hbody : body = some req)
      (hkey : ∀ outer, keyScope caller = some outer → scopeIsSubset (some outer) req.scope = true)
      (hscope : row.scope = req.scope.map some)
      (hexpiry : 0 < req.expiresInSeconds → int64 (req.expiresInSeconds * second) ≠ 0 →
        row.expiresAt = row.createdAt + int64 (req.expiresInSeconds * second))
      (hinsert : db.insertToken row = some db₁) (hid : resp.id = row.id)
      (htokens : db'.enrollmentTokens = db₁.enrollmentTokens) :
      CreateOutcome caller body db (.ok n resp) db'

lemma wp_create (C : Crypto) (env : Env) (caller : Caller) (body : Option CreateTokenRequest)
    (db : Db) : (create C env caller body).wp (fun _ _ => True) (CreateOutcome caller body db)
      db := by
  unfold create
  rcases body with _ | req
  · exact .refused
  dsimp only
  split
  · exact .refused
  rename_i hcovered
  have hkey : ∀ outer, keyScope caller = some outer →
      scopeIsSubset (some outer) req.scope = true := by
    intro outer houter
    by_contra hnot
    rw [houter] at hcovered
    exact hcovered ⟨rfl, hnot⟩
  rw [bind_eq]
  refine wp_bind_of_readOnly (readOnly_validateScopeTenant _ _) trivial fun r => ?_
  rcases r with e | _
  · exact .refused
  unfold createToken
  rcases env.rawToken with _ | raw
  · exact .refused
  simp only [bind_eq, wp_bind]
  refine wp_attempt _ _ trivial .refused fun db₁ hinsert => ⟨trivial, ?_⟩
  simp only [if_true, pure_eq, wp_done, wp_bind]
  refine wp_logAction fun _ => .created rfl hkey rfl (fun hpos hne => ?_) hinsert rfl rfl
  simp only [if_pos hpos, if_neg hne]

lemma each_delete {R : Db → Db → Prop} (env : Env) {caller : Caller} {tokenID : String}
    (hlog : ∀ (db : Db) log, R db { db with auditLog := log })
    (h : ∀ db : Db, R db (db.deleteToken tokenID caller.tenantID).2) :
    (delete env caller tokenID).Each R := by
  refine each_bind ⟨fun db => ⟨h db, trivial⟩, trivial⟩ fun r => ?_
  rcases r with _ | n
  · trivial
  dsimp only
  split
  · trivial
  · exact each_bind (each_logAction hlog) fun _ => trivial

end Enrollment

/-- Every token is one of those before, at most marked as used. -/
def TokensFrom (a b : Db) : Prop :=
  ∀ row' ∈ b.enrollmentTokens.rows, ∃ row ∈ a.enrollmentTokens.rows,
    row.id = row'.id ∧ row.scope = row'.scope

namespace TokensFrom

variable {a db : Db} {env : Env} {faults : List Bool}

lemma of_eq {b : Db} (h : b.enrollmentTokens = a.enrollmentTokens) : TokensFrom a b := by
  intro row hrow
  rw [h] at hrow
  exact ⟨row, hrow, rfl, rfl⟩

lemma trans (a b c : Db) (h : TokensFrom a b) (h' : TokensFrom b c) : TokensFrom a c := by
  intro row'' hrow''
  obtain ⟨row', hrow', hid', hscope'⟩ := h' row'' hrow''
  obtain ⟨row, hrow, hid, hscope⟩ := h row' hrow'
  exact ⟨row, hrow, hid.trans hid', hscope.trans hscope'⟩

lemma of_delete {p : EnrollmentTokenRow → Bool} :
    TokensFrom a { a with enrollmentTokens := a.enrollmentTokens.delete p } :=
  fun row hrow => ⟨row, (mem_filter.mp hrow).1, rfl, rfl⟩

lemma of_consumeToken {now : Time} (hash : String) :
    TokensFrom db (db.consumeToken now hash).2 := by
  intro row' hrow'
  obtain ⟨row, hrow, rfl⟩ := mem_map.mp hrow'
  refine ⟨row, hrow, ?_⟩
  split <;> exact ⟨rfl, rfl⟩

lemma of_enroll {C : Crypto} {quota : Option Jobs.Defaults} {body : Option EnrollRequest} :
    TokensFrom db ((serveHTTP C env quota body).run faults db).2 := by
  have hrefl : ∀ db, TokensFrom db db := fun _ => of_eq rfl
  have heach : (serveHTTP C env quota body).Each TokensFrom := by
    refine each_bind (each_redeem C env fun req _ db => of_consumeToken _) fun r => ?_
    rcases r with e | ⟨req, token⟩
    · trivial
    · exact each_enrollDevice C env req token quota (fun _ _ => of_eq rfl)
        fun _ _ _ h => of_eq (store_tokens_devices h).1
  exact wp_rel hrefl trans (wp_of_each heach db) faults

lemma of_deleteToken {caller : Caller} {tokenID : String} :
    TokensFrom db ((delete env caller tokenID).run faults db).2 := by
  have heach : (delete env caller tokenID).Each TokensFrom :=
    each_delete env (fun _ _ => of_eq rfl) fun _ => of_delete
  exact wp_rel (fun _ => of_eq rfl) trans (wp_of_each heach db) faults

end TokensFrom

/-- Whatever else the server does to its database; it writes no token. -/
structure TokenOutside where
  apply : Db → Db
  same : ∀ db, (apply db).enrollmentTokens = db.enrollmentTokens

inductive TokenOp
  | create (caller : Caller) (body : Option CreateTokenRequest)
  | delete (caller : Caller) (tokenID : String)
  | enroll (body : Option EnrollRequest)
  | reap (now : Time)
  | outside (o : TokenOutside)

structure TokenCall where
  op : TokenOp
  env : Env
  faults : List Bool := []

structure Issuance where
  db : Db
  creator : String → Option Caller := fun _ => none

namespace Issuance

variable (C : Crypto) (quota : Option Jobs.Defaults) (s : Issuance)

def after (c : TokenCall) : Issuance :=
  match c.op with
  | .create caller body =>
    let (reply, db) := (create C c.env caller body).run c.faults s.db
    match reply with
    | .ok _ resp => ⟨db, update s.creator resp.id (some caller)⟩
    | .error _ _ _ => ⟨db, s.creator⟩
  | .delete caller tokenID =>
    { s with db := ((delete c.env caller tokenID).run c.faults s.db).2 }
  | .enroll body => { s with db := ((serveHTTP C c.env quota body).run c.faults s.db).2 }
  | .reap now =>
    { s with db := ((reapExpiredEnrollmentTokens now).run c.faults s.db).2 }
  | .outside o => { s with db := o.apply s.db }

def run (calls : List TokenCall) : Issuance := calls.foldl (after C quota) s

/-- The scope of a token is covered by the scope of the key that created it. -/
def Covered : Prop :=
  ∀ row ∈ s.db.enrollmentTokens.rows, ∀ caller outer, s.creator row.id = some caller →
    keyScope caller = some outer →
    ∃ inner, row.scope = some (some inner) ∧
      scopeIsSubset (some outer) (some inner) = true

variable {C quota} {s : Issuance}

lemma Covered.of_tokensFrom (h : Covered s) {db' : Db} (hfrom : TokensFrom s.db db') :
    Covered { s with db := db' } := by
  intro row' hrow' caller outer hcaller houter
  obtain ⟨row, hrow, hid, hscope⟩ := hfrom row' hrow'
  rw [← hscope]
  exact h row hrow caller outer (hid ▸ hcaller) houter

lemma Covered.created (h : Covered s) {caller : Caller} {n : ℕ}
    {resp : CreateTokenResponse} {db' : Db}
    {body : Option CreateTokenRequest}
    (hout : CreateOutcome caller body s.db (.ok n resp) db') :
    Covered ⟨db', update s.creator resp.id (some caller)⟩ := by
  cases hout with
  | @created req row _ _ db₁ _ _ hkey hscope _ hinsert hid htokens =>
  obtain ⟨-, t, ht, rfl⟩ := eq_some_of_guard hinsert
  intro row' hrow' caller' outer hcaller houter
  dsimp only at hrow' hcaller
  rw [htokens] at hrow'
  rw [hid] at hcaller
  rcases (mem_insert ht).mp hrow' with hold | rfl
  · -- the identifier of the new token is new
    have hne : row'.id ≠ row.id := by
      intro heq
      have hnone := fresh_of_insert ht
      rw [← heq, get?_of_mem hold] at hnone
      cases hnone
    rw [update_of_ne hne] at hcaller
    exact h row' hold caller' outer hcaller houter
  · rw [update_self] at hcaller
    cases hcaller
    have hsub := hkey outer houter
    rcases hinner : req.scope with _ | inner
    · rw [hinner] at hsub
      cases hsub
    · rw [hinner] at hscope hsub
      exact ⟨inner, hscope, hsub⟩

lemma Covered.after (h : Covered s) (c : TokenCall) : Covered (s.after C quota c) := by
  rcases c with ⟨op, env, faults⟩
  cases op with
  | create caller body =>
    have hout := wp_run (Enrollment.wp_create C env caller body s.db) faults
    simp only [Issuance.after]
    rcases hrun : (create C env caller body).run faults s.db with ⟨reply, db'⟩
    rw [hrun] at hout
    cases reply with
    | ok n resp => exact h.created hout
    | error n code msg =>
      cases hout
      exact h
  | delete caller tokenID => exact h.of_tokensFrom (.of_deleteToken)
  | enroll body => exact h.of_tokensFrom (.of_enroll)
  | reap now =>
    refine h.of_tokensFrom ?_
    have heach : (reapExpiredEnrollmentTokens now).Each TokensFrom :=
      each_exec fun db => TokensFrom.of_delete
    exact wp_rel (fun _ => .of_eq rfl) TokensFrom.trans (wp_of_each heach s.db) faults
  | outside o => exact h.of_tokensFrom (.of_eq (o.same s.db))

lemma Covered.run (h : Covered s) (calls : List TokenCall) : Covered (s.run C quota calls) := by
  induction calls generalizing s with
  | nil => exact h
  | cons c calls ih => exact ih (h.after c)

end Issuance

/-! ### One enrollment -/

/-- The foreign keys of the schema: certificates and memberships are of devices that are there. -/
structure Db.ForeignKeys (db : Db) : Prop where
  certs : ∀ c ∈ db.certs.rows, (db.devices.get? c.deviceID).isSome
  members : ∀ o, ∀ m ∈ (Owner.members o db).rows, (db.devices.get? m.deviceID).isSome

structure NothingAdded (a b : Db) : Prop where
  devices : b.devices = a.devices
  certs : b.certs = a.certs
  members : ∀ o, Owner.members o b = o.members a

/-- A device was added, with one certificate that is not revoked and with the memberships the token
lists, all of them of the tenant of the token. -/
structure DeviceAdded (token : EnrollmentToken) (resp : EnrollResponse) (a b : Db) :
    Prop where
  device : ∃ row, b.devices.rows = a.devices.rows ++ [row] ∧ row.id = resp.agentID ∧
    row.tenantID = token.tenantID
  cert : ∃ c, b.certs.rows = a.certs.rows ++ [c] ∧ b.certsOf resp.agentID = [c] ∧
    c.serialNumber = resp.certificate.serialHex ∧ c.revokedAt = none
  members : ∀ o id, (⟨resp.agentID, id⟩ : Membership) ∈ (Owner.members o b).rows ↔
    id ∈ token.ids o
  others : ∀ o m, m.deviceID ≠ resp.agentID →
    (m ∈ (Owner.members o b).rows ↔ m ∈ (o.members a).rows)
  owned : ∀ o, ∀ id ∈ token.ids o, a.ownerExists o id token.tenantID

lemma row_of_consumeToken {now : Time} {hash : String} {db db' : Db} {row : EnrollmentTokenRow}
    (h : db.consumeToken now hash = (some row, db')) :
    ∃ row₀ ∈ db.enrollmentTokens.rows, row₀.id = row.id ∧ row₀.scope = row.scope := by
  obtain ⟨row₀, hpeek, rfl⟩ := Option.map_eq_some_iff.mp (congrArg Prod.fst h)
  exact ⟨row₀, mem_of_find?_eq_some hpeek, rfl, rfl⟩

lemma fields_of_decode {row : EnrollmentTokenRow} {token : EnrollmentToken}
    (h : row.decode = some token) : token.id = row.id ∧ row.scope = token.scope.map some := by
  unfold EnrollmentTokenRow.decode at h
  rcases hscope : row.scope with _ | _ | scope
  · rw [hscope] at h
    cases h
    exact ⟨rfl, rfl⟩
  · rw [hscope] at h
    cases h
  · rw [hscope] at h
    cases h
    exact ⟨rfl, rfl⟩

namespace Enroll

variable {C : Crypto} {env : Env} {req : EnrollRequest} {token : EnrollmentToken}
  {x : Certificate} {db db₀ db₁ db₂ db₃ db' : Db}

lemma deviceAdded (hkeys : db.ForeignKeys) (hsame : SameFleet db db₀)
    (hdevice : db₀.insertDevice (deviceRow env token.tenantID req) = some db₁)
    (hscope : Scoped (env.newDeviceID 0) token db₁ db₂)
    (hcert : db₂.insertCert (certRow C env x) = some db₃) (hafter : SameFleet db₃ db') :
    DeviceAdded token
      { agentID := env.newDeviceID 0, certificate := x, caChain := C.caChainPEM
        pollIntervalSeconds := 30 } db db' := by
  have hfresh := fresh_device hsame hdevice
  obtain ⟨t, ht, rfl⟩ := insertDevice_eq_some hdevice
  have hcerts₂ : db₂.certs = db.certs := hscope.rest.certs.trans hsame.certs
  have hnone : ∀ c ∈ db₂.certs.rows, c.deviceID ≠ (certRow C env x).deviceID := by
    intro c hc hid
    rw [hcerts₂] at hc
    have hsome := hkeys.certs c hc
    rw [hid] at hsome
    exact absurd hsome (by simpa [certRow] using hfresh)
  have hcertsOf := certsOf_insertCert hnone hcert
  obtain ⟨⟨t', ht', rfl⟩, -⟩ := insertCert_eq_some hcert
  have hmembers : ∀ o, Owner.members o db' = o.members db₂ := by
    intro o
    rw [hafter.members o]
    cases o <;> rfl
  have hmembers₀ : ∀ o, Owner.members o { db₀ with devices := t } = o.members db := by
    intro o
    rw [← hsame.members o]
    cases o <;> rfl
  refine ⟨⟨deviceRow env token.tenantID req, ?_, rfl, rfl⟩, ⟨certRow C env x, ?_, ?_, rfl, rfl⟩,
    fun o id => ?_, fun o m hm => ?_, fun o id hid => ?_⟩
  · have hdevices : db'.devices = t := hafter.devices.trans hscope.rest.devices
    rw [hdevices, rows_of_insert ht, hsame.devices]
  · have hcerts : db'.certs = t' := hafter.certs
    rw [hcerts, rows_of_insert ht', hcerts₂]
  · rw [certsOf, hafter.certs]
    exact hcertsOf
  · rw [hmembers, hscope.members, hmembers₀]
    constructor
    · rintro (hold | ⟨-, hid⟩)
      · -- the device is new, so it had no memberships
        have hsome := hkeys.members o _ hold
        rw [hfresh] at hsome
        cases hsome
      · exact hid
    · exact fun hid => .inr ⟨rfl, hid⟩
  · rw [hmembers, hscope.members, hmembers₀]
    constructor
    · rintro (hold | ⟨hid, -⟩)
      · exact hold
      · exact absurd hid hm
    · exact .inl
  · have howned := hscope.owned o id hid
    rw [← hsame.ownerExists]
    cases o <;> exact howned

end Enroll

/-- **Enrollment.** An error has added nothing, and a success one device, with one certificate and
the memberships the token lists. If the token was created with a scoped key, that key lists them as
well. -/
theorem enrollment_all_or_nothing (C : Crypto) (quota : Option Jobs.Defaults) (db : Db)
    (calls : List TokenCall) (env : Env) (body : Option EnrollRequest) (faults : List Bool)
    (hkeys : (Issuance.run C quota { db := db } calls).db.ForeignKeys) :
    let s := Issuance.run C quota { db := db } calls
    let out := (serveHTTP C env quota body).run faults s.db
    (∀ n code msg, out.1 = .error n code msg → NothingAdded s.db out.2) ∧
    ∀ n resp, out.1 = .ok n resp → ∃ req token, body = some req ∧
      ((validateAndConsume C env req.enrollmentToken).run [] s.db).1 = some token ∧
      DeviceAdded token resp s.db out.2 ∧
      ∀ caller outer, s.creator token.id = some caller → keyScope caller = some outer →
        ∀ o, ∀ id ∈ token.ids o, id ∈ Owner.idsOf o outer := by
  intro s out
  have hcovered : s.Covered := by
    refine Issuance.Covered.run (fun row _ caller outer hcaller => ?_) calls
    cases hcaller
  have hout := wp_run (wp_serveHTTP C env quota body s.db) faults
  change Outcome C env body s.db out.1 out.2 at hout
  generalize out = out at hout
  obtain ⟨reply, db'⟩ := out
  cases hout with
  | refused hsame =>
    refine ⟨fun n code msg _ => ⟨hsame.devices, hsame.certs, hsame.members⟩, fun n resp h => ?_⟩
    cases h
  | @enrolled req row token x db₀ _ _ _ _ hbody hconsume hdecode hsign hdevice hscope hcert
      hafter =>
    refine ⟨nofun, fun n resp h => ?_⟩
    cases h
    have hsame := sameFleet_consumeToken hconsume
    refine ⟨req, token, hbody, ?_, deviceAdded hkeys hsame hdevice hscope hcert hafter,
      fun caller outer hcaller houter o => ?_⟩
    · simp only [validateAndConsume, bind_eq, query, bind_stmt, bind_done, run_stmt,
        headD_nil, Bool.false_eq_true, if_false, Option.map_some, hconsume]
      exact hdecode
    · obtain ⟨row₀, hrow₀, hid, hscope₀⟩ := row_of_consumeToken hconsume
      obtain ⟨hid', hscope'⟩ := fields_of_decode hdecode
      obtain ⟨inner, hinner, hsub⟩ := hcovered row₀ hrow₀ caller outer (by rwa [hid, ← hid']) houter
      have hids : token.ids o = o.idsOf inner := by
        rw [← hscope₀, hinner] at hscope'
        rcases htoken : token.scope with _ | scope
        · rw [htoken] at hscope'
          cases hscope'
        · rw [htoken] at hscope'
          cases hscope'
          rw [EnrollmentToken.ids, htoken]
          rfl
      rw [hids]
      exact mem_of_scopeIsSubset hsub o

namespace Sample

def grouped : Db where
  tenants := db.tenants
  users := db.users
  groups := ⟨[{ id := "g", tenantID := "t" }], by decide⟩

def groupScope : APIScope := { groupIDs := ["g"] }

def groupKey : Caller :=
  { tenantID := "t", userID := "u", isAdmin := false, scope := some groupScope }

def createGroupToken : TokenCall where
  op := .create groupKey (some { scope := some groupScope })
  env := { env second "k" with rawToken := some "raw" }

def enrollInGroup : Reply EnrollResponse × Db :=
  (serveHTTP crypto { env second "a" with serial := some 5 } none
    (some { enrollmentToken := "raw", csr := "key", hostname := "host" })).run []
    (Issuance.run crypto none { db := grouped } [createGroupToken]).db

end Sample

open Sample in
theorem enrolled_in_group : ∃ token resp, DeviceAdded token resp
        (Issuance.run crypto none { db := grouped } [createGroupToken]).db enrollInGroup.2 ∧
      ∀ o, ∀ id ∈ token.ids o, id ∈ Owner.idsOf o groupScope := by
  have hkeys : (Issuance.run crypto none { db := grouped } [createGroupToken]).db.ForeignKeys := by
    refine ⟨nofun, fun o m hm => ?_⟩
    cases o <;> cases hm
  have hok : enrollInGroup.1 = .ok 200
      { agentID := "dev_a", certificate := issued 5, caChain := "", pollIntervalSeconds := 30 } :=
    rfl
  obtain ⟨req, token, hbody, htoken, hadded, hscope⟩ :=
    (enrollment_all_or_nothing crypto none grouped [createGroupToken]
      { env second "a" with serial := some 5 }
      (some { enrollmentToken := "raw", csr := "key", hostname := "host" }) [] hkeys).2 _ _ hok
  refine ⟨token, _, hadded, hscope groupKey groupScope ?_ rfl⟩
  cases hbody
  cases htoken
  rfl

end Moebius
