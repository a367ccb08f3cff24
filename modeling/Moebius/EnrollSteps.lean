import Moebius.Enroll
import Moebius.Identity

/-!
What enrollments, renewals and revocations do to the database, call by call.

A call either answers with an error and has touched nothing but tokens and the audit log, or it
answers with success and its one transaction is in the database.
-/

namespace Moebius

open Proc Db Table List Enrollment EnrollmentToken Option Jobs

/-! ### Tokens and the audit log -/

/-- The databases differ at most in tokens and in the audit log. -/
def SameFleet (a b : Db) : Prop :=
  b = { a with enrollmentTokens := b.enrollmentTokens, auditLog := b.auditLog }

namespace SameFleet

variable {a b : Db}

lemma refl (a : Db) : SameFleet a a := rfl

lemma devices (h : SameFleet a b) : b.devices = a.devices := by rw [h]

lemma certs (h : SameFleet a b) : b.certs = a.certs := by rw [h]

lemma members (h : SameFleet a b) (o : Owner) : o.members b = o.members a := by
  rw [h]
  cases o <;> rfl

lemma ownerExists (h : SameFleet a b) (o : Owner) (id tenantID : String) :
    b.ownerExists o id tenantID = a.ownerExists o id tenantID := by
  rw [h]
  cases o <;> rfl

lemma insertAudit {row : AuditRow} (h : a.insertAudit row = some b) : SameFleet a b := by
  obtain ⟨-, t, -, rfl⟩ := eq_some_of_guard h
  rfl

end SameFleet

namespace Renew

variable (C : Crypto) (env : Env)

/-- How a renewal ends. -/
inductive Outcome (body : Option RenewRequest) (agentID : String) (db : Db) :
    Reply RenewResponse → Db → Prop
  | refused {n : ℕ} {code msg : String} : Outcome body agentID db (.error n code msg) db
  | renewed {req : RenewRequest} {x : Certificate} {n : ℕ} {db₁ db' : Db}
      (hbody : body = some req) (hsign : sign C env agentID req = some x)
      (hstore : (store C env x).run env.txFaults db = (.ok n, db₁)) (hafter : SameFleet db₁ db') :
      Outcome body agentID db (.ok 200 { certificate := x, caChain := C.caChainPEM }) db'

lemma wp_serveHTTP (who : AgentIdentity) (body : Option RenewRequest) (db : Db) :
    (serveHTTP C env who body).wp (fun _ _ => True) (Outcome C env body who.agentID db) db := by
  unfold serveHTTP
  split
  · exact .refused
  rcases body with _ | req
  · exact .refused
  dsimp only
  split
  · exact .refused
  rcases hx : sign C env who.agentID req with _ | x
  · exact .refused
  simp only [bind_eq, wp_bind]
  refine wp_transaction trivial .refused (fun e s' h => ?_) fun n db₁ h => ⟨trivial, ?_⟩
  · rcases store_cases C env x env.txFaults db with ⟨m, code, msg, db', he⟩ | ⟨m, db₁, -, he⟩
    · cases he.symm.trans h
      exact .refused
    · cases he.symm.trans h
  · simp only [wp_bind]
    exact wp_logAction fun _ => .renewed rfl hx h rfl

end Renew

inductive RevokeOutcome (env : Env) (caller : Caller) (deviceID : String) (db : Db) :
    Reply Unit → Db → Prop
  | refused {n : ℕ} {code msg : String} : RevokeOutcome env caller deviceID db
      (.error n code msg) db
  | revoked {reason : String} {db₁ db' : Db}
      (hrevoke : db.revokeDevice env.now caller.tenantID deviceID reason = some db₁)
      (hafter : SameFleet db₁ db') : RevokeOutcome env caller deviceID db (.ok 204 ()) db'

lemma wp_revoke_outcome (env : Env) (caller : Caller) (deviceID : String) (body : Option String)
    (db : Db) : (revoke env caller deviceID body).wp (fun _ _ => True)
      (RevokeOutcome env caller deviceID db) db := by
  unfold revoke
  rw [bind_eq]
  refine wp_bind_of_readOnly (readOnly_outOfScope env _ _) trivial fun out => ?_
  cases out
  · rcases body with _ | reason
    · exact .refused
    simp only [Bool.false_eq_true, if_false, bind_eq, wp_bind]
    refine wp_attempt _ _ trivial .refused fun db₁ h => ⟨trivial, ?_⟩
    simp only [if_true, wp_bind]
    exact wp_logAction fun _ => .revoked h rfl
  · exact .refused

def EnrollmentToken.ids (token : EnrollmentToken) (o : Owner) : List String :=
  (token.scope.map o.idsOf).getD []

namespace Enroll

/-- The databases differ at most in memberships. -/
def SameButMembers (a b : Db) : Prop :=
  b = { a with
    deviceGroups := b.deviceGroups, deviceTags := b.deviceTags, deviceSites := b.deviceSites }

/-- The device has become a member of the owners listed for the kind `o`, and nothing else has
changed. -/
structure Joined (o : Owner) (deviceID : String) (ids : List String) (a b : Db) : Prop where
  rest : SameButMembers a b
  others : ∀ o', o' ≠ o → o'.members b = o'.members a
  members : ∀ m, m ∈ (o.members b).rows ↔
    m ∈ (o.members a).rows ∨ m.deviceID = deviceID ∧ m.ownerID ∈ ids

variable {a b c : Db} {o : Owner} {deviceID id tenantID : String} {n : ℕ}

lemma SameButMembers.trans (h : SameButMembers a b) (h' : SameButMembers b c) :
    SameButMembers a c := by
  unfold SameButMembers at *
  rw [h'] at *
  rw [h]

lemma SameButMembers.devices (h : SameButMembers a b) : b.devices = a.devices := by
  rw [h]

lemma SameButMembers.certs (h : SameButMembers a b) : b.certs = a.certs := by rw [h]

lemma SameButMembers.ownerExists (h : SameButMembers a b) (o : Owner) (id tenantID : String) :
    b.ownerExists o id tenantID = a.ownerExists o id tenantID := by
  rw [h]
  cases o <;> rfl

lemma Joined.refl (o : Owner) (deviceID : String) (a : Db) : Joined o deviceID [] a a :=
  ⟨rfl, fun _ _ => rfl, by simp⟩

lemma Joined.trans {ids ids' : List String} (h : Joined o deviceID ids a b)
    (h' : Joined o deviceID ids' b c) : Joined o deviceID (ids ++ ids') a c where
  rest := h.rest.trans h'.rest
  others o' ho := (h'.others o' ho).trans (h.others o' ho)
  members m := by
    rw [h'.members, h.members, mem_append]
    tauto

lemma joined_addMember (h : a.addMember o deviceID id tenantID = some (n, b))
    (hexists : a.ownerExists o id tenantID) : Joined o deviceID [id] a b := by
  unfold addMember at h
  rw [if_pos hexists] at h
  have hmember : ∀ m : Membership,
      m.deviceID = deviceID ∧ m.ownerID ∈ [id] ↔ m = ⟨deviceID, id⟩ := by
    intro m
    rcases m with ⟨d, i⟩
    simp
  split at h
  · -- the membership was there already
    rename_i hinsert
    cases h
    refine ⟨rfl, fun _ _ => rfl, fun m => ?_⟩
    obtain ⟨r, hr⟩ := isSome_iff_exists.mp (insert_eq_none.mp hinsert)
    have hkey : r.key = Membership.key ⟨deviceID, id⟩ := key_of_get? hr
    have hrow : r = ⟨deviceID, id⟩ := by
      rcases r with ⟨d, i⟩
      cases hkey
      rfl
    subst hrow
    rw [hmember]
    constructor
    · exact .inl
    · rintro (hm | rfl)
      · exact hm
      · exact mem_of_get? hr
  · rename_i t hinsert
    split at h
    · cases h
      have hrows : t.rows = (o.members a).rows ++ [⟨deviceID, id⟩] := rows_of_insert hinsert
      have hset : o.members (o.setMembers t a) = t := by cases o <;> rfl
      refine ⟨by cases o <;> rfl, fun o' ho => ?_, fun m => ?_⟩
      · cases o <;> cases o' <;> first | rfl | exact absurd rfl ho
      · rw [hset, hrows, mem_append, mem_singleton, hmember]
    · cases h

lemma addMember_of_not_ownerExists (h : a.addMember o deviceID id tenantID = some (n, b))
    (hnot : ¬ a.ownerExists o id tenantID) : n = 0 ∧ b = a := by
  unfold addMember at h
  rw [if_neg hnot] at h
  cases h
  exact ⟨rfl, rfl⟩

variable {db : Db}

lemma wp_insertMember :
    (insertMember o deviceID tenantID id).wp (fun _ _ => True) (fun r db' => r = .ok () →
      Joined o deviceID [id] db db' ∧ db.ownerExists o id tenantID) db := by
  unfold insertMember
  rw [bind_eq, wp_bind]
  have herr : ∀ db', (.error () : Except Unit Unit) = .ok () →
      Joined o deviceID [id] db db' ∧ db.ownerExists o id tenantID := fun _ h => by cases h
  refine wp_query trivial (herr db) fun n db' hadd => ⟨trivial, ?_⟩
  dsimp only
  by_cases hexists : db.ownerExists o id tenantID
  · have hjoin := joined_addMember hadd hexists
    split
    · -- no row was inserted: the handler looks whether the owner is there
      simp only [bind_eq, wp_bind, wp_read]
      refine ⟨⟨trivial, ?_⟩, herr db'⟩
      rw [hjoin.rest.ownerExists, hexists]
      exact fun _ => ⟨hjoin, rfl⟩
    · exact fun _ => ⟨hjoin, hexists⟩
  · obtain ⟨rfl, rfl⟩ := addMember_of_not_ownerExists hadd hexists
    rw [if_pos rfl]
    simp only [bind_eq, wp_bind, wp_read]
    refine ⟨⟨trivial, ?_⟩, herr _⟩
    rw [Bool.not_eq_true] at hexists
    rw [hexists]
    exact fun h => by cases h

lemma wp_insertMembers {ids : List String} :
    (insertMembers o deviceID tenantID ids).wp (fun _ _ => True) (fun r db' => r = .ok () →
      Joined o deviceID ids db db' ∧ ∀ id ∈ ids, db.ownerExists o id tenantID) db := by
  refine wp_loop (fun rest _ db' => ∃ pre, ids = pre ++ rest ∧ Joined o deviceID pre db db' ∧
      ∀ id ∈ pre, db.ownerExists o id tenantID) (fun _ _ => True) ?_ ?_ ?_
    ⟨[], rfl, .refl o deviceID db, fun id hid => absurd hid not_mem_nil⟩
  · rintro id rest _ db₁ ⟨pre, hids, hjoined, howned⟩
    refine wp_post (fun r db₂ hr => ?_) wp_insertMember
    rcases r with e | _
    · trivial
    obtain ⟨hjoin, hexists⟩ := hr rfl
    refine ⟨pre ++ [id], by simp [hids], hjoined.trans hjoin, fun i hi => ?_⟩
    rcases mem_append.mp hi with hi | hi
    · exact howned i hi
    · cases mem_singleton.mp hi
      rwa [hjoined.rest.ownerExists] at hexists
  · rintro _ db' ⟨pre, hids, hjoined, howned⟩ _
    rw [append_nil] at hids
    subst hids
    exact ⟨hjoined, howned⟩
  · intro e db' _ h
    cases h

/-- The device has become a member of all owners in the scope of the token, which are all there,
in the tenant of the token. -/
structure Scoped (deviceID : String) (token : EnrollmentToken) (a b : Db) : Prop where
  rest : SameButMembers a b
  members : ∀ o m, m ∈ (Owner.members o b).rows ↔
    m ∈ (o.members a).rows ∨ m.deviceID = deviceID ∧ m.ownerID ∈ token.ids o
  owned : ∀ o, ∀ id ∈ token.ids o, a.ownerExists o id token.tenantID

lemma wp_applyTokenScope {token : EnrollmentToken} :
    (applyTokenScope deviceID token).wp (fun _ _ => True)
      (fun r db' => r = .ok () → Scoped deviceID token db db') db := by
  unfold applyTokenScope
  rcases hscope : token.scope with _ | scope
  · intro _
    have hids : ∀ o, token.ids o = [] := fun o => by simp [ids, hscope]
    exact ⟨rfl, by simp [hids], by simp [hids]⟩
  have hids : ∀ o, token.ids o = o.idsOf scope := fun o => by simp [ids, hscope]
  simp only [applyScope, bind_eq, wp_bind]
  refine wp_post (fun r₁ db₁ h₁ => ?_) wp_insertMembers
  rcases r₁ with e | _
  · intro he
    cases he
  obtain ⟨hgroups, hgroupsOwned⟩ := h₁ rfl
  simp only [wp_bind]
  refine wp_post (fun r₂ db₂ h₂ => ?_) wp_insertMembers
  rcases r₂ with e | _
  · intro he
    cases he
  obtain ⟨htags, htagsOwned⟩ := h₂ rfl
  refine wp_post (fun r₃ db₃ h₃ hok => ?_) wp_insertMembers
  obtain ⟨hsites, hsitesOwned⟩ := h₃ hok
  -- each loop has changed the memberships of its own kind only
  refine ⟨(hgroups.rest.trans htags.rest).trans hsites.rest, fun o m => ?_, fun o => ?_⟩
  · rw [hids]
    cases o with
    | group =>
      rw [hsites.others _ (by decide), htags.others _ (by decide), hgroups.members]
      rfl
    | tag =>
      rw [hsites.others _ (by decide), htags.members, hgroups.others _ (by decide)]
      rfl
    | site =>
      rw [hsites.members, htags.others _ (by decide), hgroups.others _ (by decide)]
      rfl
  · rw [hids]
    cases o with
    | group => exact hgroupsOwned
    | tag =>
      intro id hid
      rw [← hgroups.rest.ownerExists]
      exact htagsOwned id hid
    | site =>
      intro id hid
      rw [← hgroups.rest.ownerExists, ← htags.rest.ownerExists]
      exact hsitesOwned id hid

section

variable (C : Crypto) (env : Env) (req : EnrollRequest) (token : EnrollmentToken)
  (x : Certificate)

/-- The transaction ends with an error, or the device, its memberships and its certificate are
stored. -/
lemma store_cases (fs : List Bool) (db : Db) :
    (∃ n code msg db', (store C env req token x).run fs db = (.error (.error n code msg), db')) ∨
      ∃ db₁ db₂ db', db.insertDevice (deviceRow env token.tenantID req) = some db₁ ∧
        Scoped (env.newDeviceID 0) token db₁ db₂ ∧ db₂.insertCert (certRow C env x) = some db' ∧
        (store C env req token x).run fs db = (.ok (), db') := by
  have hwp : (store C env req token x).wp (fun _ _ => True) (fun r db' =>
      (∃ n code msg, r = .error (.error n code msg)) ∨
        ∃ db₁ db₂, db.insertDevice (deviceRow env token.tenantID req) = some db₁ ∧
          Scoped (env.newDeviceID 0) token db₁ db₂ ∧ db₂.insertCert (certRow C env x) = some db' ∧
          r = .ok ()) db := by
    simp only [store, bind_eq, wp_bind]
    refine wp_attempt _ _ trivial (.inl ⟨_, _, _, rfl⟩) fun db₁ h₁ => ⟨trivial, ?_⟩
    simp only [if_true, wp_bind]
    refine wp_post (fun r db₂ h₂ => ?_) wp_applyTokenScope
    rcases r with e | _
    · exact .inl ⟨_, _, _, rfl⟩
    have hscoped := h₂ rfl
    simp only [wp_bind]
    refine wp_attempt _ _ trivial (.inl ⟨_, _, _, rfl⟩) fun db₃ h₃ => ⟨trivial, ?_⟩
    simp only [if_true, wp_bind, commit]
    exact ⟨⟨trivial, .inr ⟨db₁, db₂, h₁, hscoped, h₃, rfl⟩⟩, .inl ⟨_, _, _, rfl⟩⟩
  rcases hrun : (store C env req token x).run fs db with ⟨r, db'⟩
  have hout := wp_run hwp fs
  rw [hrun] at hout
  rcases hout with ⟨n, code, msg, hr⟩ | ⟨db₁, db₂, h₁, h₂, h₃, hr⟩
  · exact .inl ⟨n, code, msg, db', by rw [← hr]⟩
  · exact .inr ⟨db₁, db₂, db', h₁, h₂, h₃, by rw [← hr]⟩

end

/-! ### The handler -/

section

variable (C : Crypto) (env : Env)

/-- How an enrollment ends. A refused one may have consumed its token. -/
inductive Outcome (body : Option EnrollRequest) (db : Db) : Reply EnrollResponse → Db → Prop
  | refused {n : ℕ} {code msg : String} {db' : Db} (hsame : SameFleet db db') :
      Outcome body db (.error n code msg) db'
  | enrolled {req : EnrollRequest} {row : EnrollmentTokenRow} {token : EnrollmentToken}
      {x : Certificate} {db₀ db₁ db₂ db₃ db' : Db} (hbody : body = some req)
      (hconsume : db.consumeToken (tokenTime env) (C.hashToken req.enrollmentToken) =
        (some row, db₀))
      (hdecode : row.decode = some token) (hsign : sign C env req = some x)
      (hdevice : db₀.insertDevice (deviceRow env token.tenantID req) = some db₁)
      (hscope : Scoped (env.newDeviceID 0) token db₁ db₂)
      (hcert : db₂.insertCert (certRow C env x) = some db₃) (hafter : SameFleet db₃ db') :
      Outcome body db (.ok 200
        { agentID := env.newDeviceID 0, certificate := x, caChain := C.caChainPEM
          pollIntervalSeconds := 30 }) db'

variable {db₀ : Db}

section

variable {C : Crypto} {env : Env} {req : EnrollRequest} {token : EnrollmentToken} {x : Certificate}
  {db₁ db₂ db₃ db' : Db}

lemma fresh_device (hsame : SameFleet db db₀)
    (hdevice : db₀.insertDevice (deviceRow env token.tenantID req) = some db₁) :
    db.devices.get? (env.newDeviceID 0) = none := by
  obtain ⟨t, ht, -⟩ := insertDevice_eq_some hdevice
  rw [← hsame.devices]
  exact fresh_of_insert ht

lemma get?_device (hsame : SameFleet db db₀)
    (hdevice : db₀.insertDevice (deviceRow env token.tenantID req) = some db₁)
    (hscope : Scoped (env.newDeviceID 0) token db₁ db₂)
    (hcert : db₂.insertCert (certRow C env x) = some db₃) (hafter : SameFleet db₃ db')
    (d : String) : db'.devices.get? d = if env.newDeviceID 0 = d then
      some (deviceRow env token.tenantID req) else db.devices.get? d := by
  obtain ⟨t, ht, rfl⟩ := insertDevice_eq_some hdevice
  obtain ⟨⟨t', -, rfl⟩, -⟩ := insertCert_eq_some hcert
  have hdevices : db'.devices = t := hafter.devices.trans hscope.rest.devices
  have hinsert := get?_insert ht d
  rw [← hdevices, hsame.devices] at hinsert
  exact hinsert

end

lemma quotaReply_error {e : QuotaError} :
    ∃ n code msg, (quotaReply "devices" e : Reply EnrollResponse) = .error n code msg := by
  cases e with
  | exceeded limit current attempted | internal => exact ⟨_, _, _, rfl⟩

lemma sameFleet_consumeToken {now : Time} {hash : String} {r : Option EnrollmentTokenRow}
    (h : db.consumeToken now hash = (r, db₀)) : SameFleet db db₀ := by
  have hsame : SameFleet db (db.consumeToken now hash).2 := rfl
  rwa [h] at hsame

variable (quota : Option Defaults)

lemma wp_enrollDevice {body : Option EnrollRequest} {req : EnrollRequest} {row : EnrollmentTokenRow}
    {token : EnrollmentToken} (hbody : body = some req)
    (hconsume : db.consumeToken (tokenTime env) (C.hashToken req.enrollmentToken) =
      (some row, db₀)) (hdecode : row.decode = some token) :
    (enrollDevice C env quota req token).wp (fun _ _ => True) (Outcome C env body db) db₀ := by
  have hsame := sameFleet_consumeToken hconsume
  unfold enrollDevice
  rw [bind_eq]
  refine wp_bind_of_readOnly (readOnly_checkCount _ _ _ _ _ _) trivial fun r => ?_
  rcases r with e | _
  · obtain ⟨n, code, msg, he⟩ := quotaReply_error
    dsimp only
    rw [he]
    exact .refused hsame
  rcases hx : sign C env req with _ | x
  · exact .refused hsame
  simp only [bind_eq, wp_bind]
  refine wp_transaction trivial (.refused hsame) (fun e s' h => ?_) fun _ db₃ h => ⟨trivial, ?_⟩
  · rcases store_cases C env req token x env.txFaults db₀ with
      ⟨n, code, msg, db', he⟩ | ⟨db₁, db₂, db', -, -, -, he⟩
    · cases he.symm.trans h
      exact .refused hsame
    · cases he.symm.trans h
  · rcases store_cases C env req token x env.txFaults db₀ with
      ⟨n, code, msg, db', he⟩ | ⟨db₁, db₂, db', h₁, h₂, h₃, he⟩
    · cases he.symm.trans h
    · cases he.symm.trans h
      simp only [wp_bind]
      exact wp_logAction fun _ => .enrolled hbody hconsume hdecode hx h₁ h₂ h₃ rfl

lemma wp_serveHTTP (body : Option EnrollRequest) (db : Db) :
    (serveHTTP C env quota body).wp (fun _ _ => True) (Outcome C env body db) db := by
  simp only [serveHTTP, redeem, bind_eq, wp_bind]
  rcases body with _ | req
  · exact .refused (.refl db)
  dsimp only
  split
  · exact .refused (.refl db)
  simp only [validateAndConsume, bind_eq, wp_bind]
  refine wp_query trivial (.refused (.refl db)) fun r db₀ hconsume => ⟨trivial, ?_⟩
  have hconsume' := some.inj hconsume
  have hsame := sameFleet_consumeToken hconsume'
  rcases r with _ | row
  · exact .refused hsame
  dsimp only
  rcases hdecode : row.decode with _ | token
  · simp only [pure_eq, wp_done]
    exact .refused hsame
  · simp only [pure_eq, wp_done]
    exact wp_enrollDevice C env quota rfl hconsume' hdecode

end

end Enroll

end Moebius
