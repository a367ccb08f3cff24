import Moebius.EnrollSteps
import Moebius.RevocationRace

/-!
The certificates of a fleet over whole runs.

Enrollments and renewals issue certificates, renewals supersede the ones before and revocations
revoke them. Beside the database stands the certificate each device was last issued, as the
answers of the server tell; a certificate is accepted exactly when it is that one.
-/

namespace Moebius

open Proc List Function Enroll Table Db Jobs DeviceStatus

/-- Whatever else the server does to its database; it writes no device row and no certificate. -/
structure FleetOutside where
  apply : Db → Db
  same : ∀ db, SameIdentity db (apply db)

inductive FleetOp
  | enroll (body : Option EnrollRequest)
  | renew (cert : Option ClientCert) (body : Option Renew.RenewRequest)
  | checkin (cert : Option ClientCert) (body : Option CheckinRequest)
  | revoke (caller : Caller) (deviceID : String) (body : Option String)
  | outside (o : FleetOutside)

structure FleetCall where
  op : FleetOp
  env : Env
  faults : List Bool := []

/-- The database, and the certificate each device was last issued unless it was revoked since. -/
structure Fleet where
  db : Db
  current : String → Option Certificate := fun _ => none

namespace FleetCall

variable (C : Crypto) (quota : Option Defaults) (c : FleetCall) (cert : Option ClientCert)

def enroll (body : Option EnrollRequest) (db : Db) : Reply EnrollResponse × Db :=
  (serveHTTP C c.env quota body).run c.faults db

def renew (body : Option Renew.RenewRequest) (db : Db) : Reply Renew.RenewResponse × Db :=
  (authenticate (Op.authTime c.env) cert fun who =>
    Renew.serveHTTP C c.env who body).run c.faults db

def checkin (body : Option CheckinRequest) (db : Db) : Reply CheckinResponse × Db :=
  (authenticate (Op.authTime c.env) cert fun who =>
    Checkin.serveHTTP c.env who body).run c.faults db

def revoke (caller : Caller) (deviceID : String) (body : Option String) (db : Db) :
    Reply Unit × Db :=
  (Jobs.revoke c.env caller deviceID body).run c.faults db

def after (s : Fleet) (c : FleetCall) : Fleet :=
  match c.op with
  | .enroll body =>
    let (reply, db) := c.enroll C quota body s.db
    match reply with
    | .ok _ resp => ⟨db, update s.current resp.agentID (some resp.certificate)⟩
    | .error _ _ _ => ⟨db, s.current⟩
  | .renew cert body =>
    let (reply, db) := c.renew C cert body s.db
    match reply with
    | .ok _ resp =>
      ⟨db, update s.current resp.certificate.commonName (some resp.certificate)⟩
    | .error _ _ _ => ⟨db, s.current⟩
  | .checkin cert body => ⟨(c.checkin cert body s.db).2, s.current⟩
  | .revoke caller deviceID body =>
    let (reply, db) := c.revoke caller deviceID body s.db
    match reply with
    | .ok _ _ => ⟨db, update s.current deviceID none⟩
    | .error _ _ _ => ⟨db, s.current⟩
  | .outside o => ⟨o.apply s.db, s.current⟩

/-- The certificate the CA signs in the call, when it comes that far. -/
def signed : Option Certificate :=
  match c.op with
  | .enroll (some req) => sign C c.env req
  | .renew (some cert) (some req) => Renew.sign C c.env cert.commonName req
  | _ => none

def Revokes (d : String) (db : Db) : Prop :=
  ∃ caller body, c.op = .revoke caller d body ∧ ∃ n, (c.revoke caller d body db).1 = .ok n ()

end FleetCall

def Fleet.run (C : Crypto) (quota : Option Defaults) (s : Fleet) (calls : List FleetCall) : Fleet :=
  calls.foldl (FleetCall.after C quota) s

lemma Fleet.run_append (C : Crypto) (quota : Option Defaults) (s : Fleet)
    (calls calls' : List FleetCall) :
    s.run C quota (calls ++ calls') = (s.run C quota calls).run C quota calls' :=
  foldl_append

def Db.certsOf (db : Db) (d : String) : List CertRow := db.certs.select fun c => c.deviceID = d

def Db.unrevoked (db : Db) (d : String) : List CertRow :=
  db.certs.select fun c => c.deviceID = d ∧ c.revokedAt = none

variable {d : String} {P : String → Prop} {a b : Db}

lemma Db.unrevoked_eq {db : Db} :
    db.unrevoked d = (db.certsOf d).filter fun c => c.revokedAt = none := by
  simp only [unrevoked, certsOf, select, filter_filter]
  congr 1
  funext c
  simp [Bool.and_comm]

/-! ### The invariant -/

/-- What the database holds of the device, and the certificate it was last issued. -/
structure DeviceOk (xs : Set Certificate) (db : Db) (d : String) (current : Option Certificate) :
    Prop where
  unrevoked : (db.unrevoked d).map (·.serialNumber) = current.toList.map (·.serialHex)
  last : ∀ c ∈ db.unrevoked d, (db.certsOf d).getLast? = some c
  signed : ∀ x, current = some x → x ∈ xs ∧ x.commonName = d ∧ d ≠ "" ∧
    ∃ row, db.devices.get? d = some row ∧ row.status ≠ .revoked

/-- The signed certificates `xs`, the database and what the devices were last issued agree. -/
structure Lifecycle (xs : Set Certificate) (s : Fleet) : Prop where
  serials : (s.db.certs.rows.map (·.serialNumber)).Nodup
  devices : ∀ d, DeviceOk xs s.db d (s.current d)
  owned : ∀ c ∈ s.db.certs.rows, (s.db.devices.get? c.deviceID).isSome

/-- Devices stay, and none of those named becomes revoked. -/
def DevicesStay (P : String → Prop) (a b : Db) : Prop :=
  ∀ d row, a.devices.get? d = some row →
    ∃ row', b.devices.get? d = some row' ∧ (P d → row.status ≠ .revoked → row'.status ≠ .revoked)

lemma DevicesStay.refl (P : String → Prop) (db : Db) : DevicesStay P db db :=
  fun _ row h => ⟨row, h, fun _ hs => hs⟩

lemma DevicesStay.trans {c : Db} (h : DevicesStay P a b) (h' : DevicesStay P b c) :
    DevicesStay P a c := by
  intro d row hrow
  obtain ⟨row₁, hrow₁, hstatus₁⟩ := h d row hrow
  obtain ⟨row₂, hrow₂, hstatus₂⟩ := h' d row₁ hrow₁
  exact ⟨row₂, hrow₂, fun hP hs => hstatus₂ hP (hstatus₁ hP hs)⟩

lemma DevicesStay.isSome (h : DevicesStay P a b) (hd : (a.devices.get? d).isSome) :
    (b.devices.get? d).isSome := by
  obtain ⟨row, hrow⟩ := Option.isSome_iff_exists.mp hd
  obtain ⟨row', hrow', -⟩ := h d row hrow
  rw [hrow']
  rfl

lemma devicesStay_of_eq (h : b.devices = a.devices) : DevicesStay P a b := by
  intro d row hrow
  rw [← h] at hrow
  exact ⟨row, hrow, fun _ hs => hs⟩

variable {xs : Set Certificate} {s : Fleet} {db' : Db}

lemma DeviceOk.frame {current : Option Certificate} (h : DeviceOk xs a d current)
    (hcerts : b.certsOf d = a.certsOf d) (hdevices : DevicesStay P a b) (hd : P d) :
    DeviceOk xs b d current := by
  have hunrevoked : b.unrevoked d = a.unrevoked d := by
    rw [unrevoked_eq, unrevoked_eq, hcerts]
  refine ⟨hunrevoked ▸ h.unrevoked, fun c hc => ?_, fun x hx => ?_⟩
  · rw [hcerts]
    exact h.last c (hunrevoked ▸ hc)
  · obtain ⟨hmem, hname, hempty, row, hrow, hstatus⟩ := h.signed x hx
    obtain ⟨row', hrow', hstays⟩ := hdevices d row hrow
    exact ⟨hmem, hname, hempty, row', hrow', hstays hd hstatus⟩

namespace Lifecycle

lemma of_certs_eq (h : Lifecycle xs s) (hcerts : db'.certs = s.db.certs)
    (hdevices : DevicesStay (fun _ => True) s.db db') : Lifecycle xs ⟨db', s.current⟩ := by
  refine ⟨?_, fun d => (h.devices d).frame ?_ hdevices trivial, fun c hc => ?_⟩
  · simpa only [hcerts] using h.serials
  · simp only [Db.certsOf, hcerts]
  · rw [hcerts] at hc
    exact hdevices.isSome (h.owned c hc)

lemma reissue (h : Lifecycle xs s) {new : Option Certificate}
    (hothers : SameOn (fun c => c.deviceID ≠ d) s.db.certs db'.certs)
    (hserials : (db'.certs.rows.map (·.serialNumber)).Nodup)
    (hdevices : DevicesStay (· ≠ d) s.db db') (hd : (db'.devices.get? d).isSome)
    (hnew : DeviceOk xs db' d new) : Lifecycle xs ⟨db', update s.current d new⟩ := by
  have hcertsOf : ∀ d', d' ≠ d → db'.certsOf d' = s.db.certsOf d' := by
    intro d' hne
    have hsplit : ∀ t : Table CertRow.id, (t.select fun c => c.deviceID = d') =
        (t.rows.filter fun c => c.deviceID ≠ d).filter fun c => c.deviceID = d' := by
      intro t
      rw [select, filter_filter]
      congr 1
      funext c
      by_cases hc : c.deviceID = d'
      · simp [hc, hne]
      · simp [hc]
    rw [certsOf, certsOf, hsplit, hsplit]
    exact congrArg _ hothers
  refine ⟨hserials, fun d' => ?_, fun c hc => ?_⟩
  · dsimp only
    by_cases hne : d' = d
    · subst hne
      rw [update_self]
      exact hnew
    · rw [update_of_ne hne]
      exact (h.devices d').frame (hcertsOf d' hne) hdevices hne
  · by_cases hne : c.deviceID = d
    · rw [hne]
      exact hd
    · have hc' : c ∈ s.db.certs.rows := (hothers.mem_iff (by simpa using hne)).mp hc
      exact hdevices.isSome (h.owned c hc')

end Lifecycle

variable {db₁ : Db}

section

variable {db : Db} {row : CertRow}

lemma nodup_serials_insertCert (hserials : (db.certs.rows.map (·.serialNumber)).Nodup)
    (h : db.insertCert row = some db') : (db'.certs.rows.map (·.serialNumber)).Nodup := by
  obtain ⟨⟨t, ht, rfl⟩, -, hfresh⟩ := insertCert_eq_some h
  simp only [rows_of_insert ht, map_append, map_cons, map_nil]
  refine nodup_append.mpr ⟨hserials, nodup_singleton _, ?_⟩
  intro a ha b hb
  cases mem_singleton.mp hb
  obtain ⟨c, hc, rfl⟩ := mem_map.mp ha
  exact hfresh c hc

lemma certsOf_insertCert (hnone : ∀ c ∈ db.certs.rows, c.deviceID ≠ row.deviceID)
    (h : db.insertCert row = some db') : db'.certsOf row.deviceID = [row] := by
  obtain ⟨⟨t, ht, rfl⟩, -⟩ := insertCert_eq_some h
  have hbefore : (db.certs.rows.filter fun c => c.deviceID = row.deviceID) = [] :=
    filter_eq_nil_iff.mpr fun c hc => by simpa using hnone c hc
  simp only [certsOf, select, rows_of_insert ht, filter_append, hbefore]
  simp

def supersede (now : Time) (agentID certID : String) (c : CertRow) : CertRow :=
  if superseded agentID certID c then
    { c with revokedAt := some now, revocationReason := some "superseded_by_renewal" }
  else c

variable {now : Time} {agentID certID : String} {c : CertRow}

lemma supersede_serialNumber : (supersede now agentID certID c).serialNumber = c.serialNumber := by
  unfold supersede
  split <;> rfl

lemma supersede_deviceID : (supersede now agentID certID c).deviceID = c.deviceID := by
  unfold supersede
  split <;> rfl

lemma supersede_revoked (hdevice : c.deviceID = agentID) (hid : c.id ≠ certID) :
    (supersede now agentID certID c).revokedAt ≠ none := by
  by_cases hrev : c.revokedAt = none
  · simp [supersede, superseded, hdevice, hid, hrev]
  · simp [supersede, superseded, hrev]

lemma rows_supersedeCerts : (db.supersedeCerts now agentID certID).2.certs.rows =
      db.certs.rows.map (supersede now agentID certID) := rfl

lemma serials_supersedeCerts :
    (db.supersedeCerts now agentID certID).2.certs.rows.map (·.serialNumber) =
      db.certs.rows.map (·.serialNumber) := by
  rw [rows_supersedeCerts, map_map]
  exact map_congr_left fun c _ => supersede_serialNumber

lemma sameOn_renew (h : db.insertCert row = some db₁) :
    SameOn (fun c => c.deviceID ≠ row.deviceID) db.certs
      (db₁.supersedeCerts now row.deviceID row.id).2.certs := by
  obtain ⟨⟨t, ht, rfl⟩, -⟩ := insertCert_eq_some h
  refine (sameOn_insert ht (by simp)).trans ?_
  refine sameOn_of_map rows_supersedeCerts (fun c _ => ?_) fun c _ hc => ?_
  · simp only [supersede_deviceID]
  · simp [supersede, superseded, of_decide_eq_true hc]

lemma rows_renew (h : db.insertCert row = some db₁) :
    (db₁.supersedeCerts now row.deviceID row.id).2.certs.rows =
      db.certs.rows.map (supersede now row.deviceID row.id) ++ [row] := by
  obtain ⟨⟨t, ht, rfl⟩, -⟩ := insertCert_eq_some h
  rw [rows_supersedeCerts, rows_of_insert ht, map_append, map_cons, map_nil]
  simp [supersede, superseded]

lemma certsOf_renew (h : db.insertCert row = some db₁) :
    (db₁.supersedeCerts now row.deviceID row.id).2.certsOf row.deviceID =
      (db.certsOf row.deviceID).map (supersede now row.deviceID row.id) ++ [row] := by
  have hsame : ((fun c : CertRow => decide (c.deviceID = row.deviceID)) ∘
      supersede now row.deviceID row.id) = fun c => decide (c.deviceID = row.deviceID) := by
    funext c
    simp [supersede_deviceID]
  rw [certsOf, select, rows_renew h, filter_append, filter_map, hsame]
  simp [certsOf, select]

lemma unrevoked_renew (h : db.insertCert row = some db₁) (hrow : row.revokedAt = none) :
    (db₁.supersedeCerts now row.deviceID row.id).2.unrevoked row.deviceID = [row] := by
  have hfresh : ∀ c ∈ db.certs.rows, c.id ≠ row.id := by
    obtain ⟨⟨t, ht, -⟩, -⟩ := insertCert_eq_some h
    intro c hc hid
    have hnone := fresh_of_insert ht
    rw [← hid, get?_of_mem hc] at hnone
    cases hnone
  have hold : ((db.certsOf row.deviceID).map (supersede now row.deviceID row.id)).filter
      (fun c => c.revokedAt = none) = [] := by
    refine filter_eq_nil_iff.mpr fun c hc => ?_
    obtain ⟨c', hc', rfl⟩ := mem_map.mp hc
    obtain ⟨hmem, hdevice⟩ := mem_filter.mp hc'
    simpa using supersede_revoked (of_decide_eq_true hdevice) (hfresh c' hmem)
  rw [unrevoked_eq, certsOf_renew h, filter_append, hold]
  simp [hrow]

end

/-! ### One call -/

variable {tenantID reason : String}

lemma unrevoked_of_certsRevoked {db : Db} (h : CertsRevoked d db) : db.unrevoked d = [] := by
  refine filter_eq_nil_iff.mpr fun c hc hmatch => ?_
  obtain ⟨hdevice, hrevoked⟩ := of_decide_eq_true hmatch
  exact h c hc hdevice hrevoked

lemma known_of_revokeDevice {db : Db} {now : Time}
    (h : db.revokeDevice now tenantID d reason = some db') : (db.devices.get? d).isSome := by
  obtain ⟨⟨r, hr, -⟩, -⟩ := revokeDevice_eq_some h
  exact Option.isSome_of_eq_some hr

lemma devicesStay_revokeDevice {db : Db} {now : Time}
    (h : db.revokeDevice now tenantID d reason = some db₁) (hafter : SameFleet db₁ db') :
    DevicesStay (· ≠ d) db db' := by
  intro d' row hrow
  obtain ⟨-, rfl⟩ := revokeDevice_eq_some h
  have hget : db'.devices.get? d' = (db.devices.get? d').map fun r =>
      if r.id = d ∧ r.tenantID = tenantID then { r with status := .revoked } else r := by
    rw [hafter.devices]
    exact get?_update _ _ (fun r => by split <;> rfl) d'
  refine ⟨_, by rw [hget, hrow, Option.map_some], fun hne hs => ?_⟩
  have hid : row.id = d' := key_of_get? hrow
  rwa [if_neg fun hc => hne (hid.symm.trans hc.1)]

lemma newDeviceID_ne_empty {env : Env} {i : ℕ} : env.newDeviceID i ≠ "" := by
  intro h
  simp [Env.newDeviceID, Env.newID] at h

/-- A check-in writes no certificate, and sets no status to revoked. -/
def CheckinStep (a b : Db) : Prop := b.certs = a.certs ∧ DevicesStay (fun _ => True) a b

lemma checkinStep_updateDevice {db : Db} {now : Time} {req : CheckinRequest} {agentID : String} :
    CheckinStep db (db.updateDevice now req agentID tenantID) := by
  refine ⟨rfl, fun d row hrow => ?_⟩
  simp only [updateDevice, get?_update, hrow, Option.map_some]
  refine ⟨_, rfl, fun _ hs => ?_⟩
  split
  · exact noConfusion
  · exact hs

lemma checkinStep_checkin (c : FleetCall) (cert : Option ClientCert)
    (body : Option CheckinRequest) (db : Db) : CheckinStep db (c.checkin cert body db).2 := by
  have hsame : ∀ a b, SameIdentity a b → CheckinStep a b :=
    fun a b h => ⟨h.certs, devicesStay_of_eq h.devices⟩
  have heach : (authenticate (Op.authTime c.env) cert fun who =>
      Checkin.serveHTTP c.env who body).Each CheckinStep := by
    refine each_bind (each_of_readOnly (readOnly_mtlsCheck _ _) fun a => hsame a a ⟨rfl, rfl⟩)
      fun x => ?_
    rcases x with r | who
    · trivial
    · exact each_of_opens
        (FleetRequest.opens_checkin c.env who body fun db now req =>
          checkinStep_updateDevice)
        (SameBeside.afterFirst_checkin (fun a b h => hsame a b h.identity) c.env who body)
  exact wp_rel (fun a => hsame a a ⟨rfl, rfl⟩)
    (fun _ _ _ h h' => ⟨h'.1.trans h.1, h.2.trans h'.2⟩) (wp_of_each heach db) c.faults

inductive FleetStep (C : Crypto) (c : FleetCall) (s : Fleet) : Fleet → Prop
  | same {db' : Db} (hcerts : db'.certs = s.db.certs)
      (hdevices : DevicesStay (fun _ => True) s.db db') : FleetStep C c s ⟨db', s.current⟩
  | enrolled {req : EnrollRequest} {token : EnrollmentToken} {x : Certificate}
      {db₀ db₁ db₂ db₃ db' : Db} (hx : c.signed C = some x) (hsame : SameFleet s.db db₀)
      (hsign : sign C c.env req = some x)
      (hdevice : db₀.insertDevice (deviceRow c.env token.tenantID req) = some db₁)
      (hscope : Scoped (c.env.newDeviceID 0) token db₁ db₂)
      (hcert : db₂.insertCert (certRow C c.env x) = some db₃)
      (hafter : SameFleet db₃ db') :
      FleetStep C c s ⟨db', update s.current (c.env.newDeviceID 0) (some x)⟩
  | renewed {cert : ClientCert} {who : AgentIdentity} {req : Renew.RenewRequest}
      {x : Certificate} {n : ℕ} {db₁ db' : Db}
      (hop : ∃ body, c.op = .renew (some cert) body) (hx : c.signed C = some x)
      (hadm : admitted (Op.authTime c.env) cert s.db = some who)
      (hsign : Renew.sign C c.env who.agentID req = some x)
      (hstore : (Renew.store C c.env x).run c.env.txFaults s.db = (.ok n, db₁))
      (hafter : SameFleet db₁ db') :
      FleetStep C c s ⟨db', update s.current x.commonName (some x)⟩
  | revoked {now : Time} {tenantID d reason : String} {db₁ db' : Db} (hd : c.Revokes d s.db)
      (hrevoke : s.db.revokeDevice now tenantID d reason = some db₁)
      (hafter : SameFleet db₁ db') : FleetStep C c s ⟨db', update s.current d none⟩

lemma wp_renew_outcome (C : Crypto) (env : Env) (cert : Option ClientCert)
    (body : Option Renew.RenewRequest) (db : Db) :
    (authenticate (Op.authTime env) cert fun who => Renew.serveHTTP C env who body).wp
      (fun _ _ => True) (fun reply db' =>
        (∃ n code msg, reply = .error n code msg ∧ db' = db) ∨ ∃ c who, cert = some c ∧
          admitted (Op.authTime env) c db = some who ∧
          Renew.Outcome C env body who.agentID db reply db') db := by
  refine (wp_bind _ _ _).mpr (wp_mtlsCheck trivial
    (fun n code msg _ => .inl ⟨n, code, msg, rfl, rfl⟩) fun c who hc hadm => ?_)
  exact wp_post (fun reply db' hout => .inr ⟨c, who, hc, hadm, hout⟩)
    (Renew.wp_serveHTTP C env who body db)

lemma fleetStep_after (C : Crypto) (quota : Option Jobs.Defaults) (c : FleetCall) (s : Fleet) :
    FleetStep C c s (c.after C quota s) := by
  rcases c with ⟨op, env, faults⟩
  have hrefl : ∀ op, FleetStep C ⟨op, env, faults⟩ s s := fun _ => .same rfl (.refl _ s.db)
  cases op with
  | enroll body =>
    have hout := wp_run (wp_serveHTTP C env quota body s.db) faults
    simp only [FleetCall.after, FleetCall.enroll]
    rcases hrun : (serveHTTP C env quota body).run faults s.db with ⟨reply, db'⟩
    rw [hrun] at hout
    cases hout with
    | refused hsame => exact .same hsame.certs (devicesStay_of_eq hsame.devices)
    | @enrolled req _ _ _ _ _ _ _ _ hbody hconsume hdecode hsign hdevice hscope hcert hafter =>
      subst hbody
      have hsame := sameFleet_consumeToken hconsume
      exact .enrolled hsign hsame hsign hdevice hscope hcert hafter
  | renew cert body =>
    have hout := wp_run (wp_renew_outcome C env cert body s.db) faults
    simp only [FleetCall.after, FleetCall.renew]
    rcases hrun : (authenticate (Op.authTime env) cert fun who =>
      Renew.serveHTTP C env who body).run faults s.db with ⟨reply, db'⟩
    rw [hrun] at hout
    obtain ⟨n, code, msg, rfl, rfl⟩ | ⟨c, who, rfl, hadm, hout⟩ := hout
    · exact hrefl _
    cases hout with
    | refused => exact hrefl _
    | renewed hbody hsign hstore hafter =>
      subst hbody
      have hx := hsign
      rw [agentID_of_admitted hadm] at hx
      exact .renewed ⟨_, rfl⟩ hx hadm hsign hstore hafter
  | checkin cert body =>
    have hstep := checkinStep_checkin ⟨.checkin cert body, env, faults⟩ cert body s.db
    exact .same hstep.1 hstep.2
  | revoke caller deviceID body =>
    have hout := wp_run (wp_revoke_outcome env caller deviceID body s.db) faults
    simp only [FleetCall.after, FleetCall.revoke]
    rcases hrun : (Jobs.revoke env caller deviceID body).run faults s.db with ⟨reply, db'⟩
    rw [hrun] at hout
    cases hout with
    | refused => exact hrefl _
    | revoked hrevoke hafter =>
      exact .revoked ⟨caller, body, rfl, 204, by rw [FleetCall.revoke, hrun]⟩ hrevoke hafter
  | outside o => exact .same (o.same s.db).certs (devicesStay_of_eq (o.same s.db).devices)

namespace Lifecycle

variable {at' : Time} {x : Certificate}

lemma current_of_admitted (h : Lifecycle xs s) {cert : ClientCert} {who : AgentIdentity}
    (hadm : admitted at' cert s.db = some who) : ∃ y, s.current who.agentID = some y := by
  have hrows := admits_of_admitted hadm
  obtain ⟨c, hc, hdevice, -, hrevoked⟩ := hrows.cert
  have hmem : c ∈ s.db.unrevoked who.agentID := by
    rw [hrows.agentID]
    exact mem_filter.mpr ⟨hc, decide_eq_true ⟨hdevice, hrevoked⟩⟩
  have hserial := mem_map_of_mem (f := (·.serialNumber)) hmem
  rw [(h.devices _).unrevoked] at hserial
  rcases hcur : s.current who.agentID with _ | y
  · rw [hcur] at hserial
    cases hserial
  · exact ⟨y, rfl⟩

lemma renewed (h : Lifecycle xs s) {C : Crypto} {env : Env} {cert : ClientCert}
    {who : AgentIdentity} {req : Renew.RenewRequest} {n : ℕ}
    (hadm : admitted at' cert s.db = some who)
    (hsign : Renew.sign C env who.agentID req = some x) (hx : x ∈ xs)
    (hstore : (Renew.store C env x).run env.txFaults s.db = (.ok n, db₁))
    (hafter : SameFleet db₁ db') :
    Lifecycle xs ⟨db', update s.current x.commonName (some x)⟩ := by
  obtain ⟨db₂, hinsert, rfl⟩ := Renew.run_store hstore
  have hname : x.commonName = who.agentID := (Crypto.signed_of_signCSR hsign).1
  obtain ⟨y, hy⟩ := h.current_of_admitted hadm
  rw [← hname] at hy
  obtain ⟨-, -, hempty, device, hdevice, hstatus⟩ := (h.devices _).signed y hy
  have hdevices : db'.devices = s.db.devices := by
    obtain ⟨⟨t, -, rfl⟩, -⟩ := Db.insertCert_eq_some hinsert
    exact hafter.devices
  have hcerts := hafter.certs
  have hcertsOf : db'.certsOf x.commonName = (s.db.certsOf x.commonName).map
      (supersede env.now x.commonName (env.newCertificateID 0)) ++ [Renew.certRow C env x] := by
    rw [Db.certsOf, hcerts]
    exact certsOf_renew hinsert
  have hunrevoked : db'.unrevoked x.commonName = [Renew.certRow C env x] := by
    rw [Db.unrevoked, hcerts]
    exact unrevoked_renew hinsert rfl
  have hdevice' : db'.devices.get? x.commonName = some device := hdevices ▸ hdevice
  refine h.reissue ?_ ?_ (devicesStay_of_eq hdevices) (Option.isSome_of_eq_some hdevice')
    ⟨by rw [hunrevoked]; rfl, fun c hc => ?_, fun x' hx' => ?_⟩
  · rw [hcerts]
    exact sameOn_renew hinsert
  · rw [hcerts, serials_supersedeCerts]
    exact nodup_serials_insertCert h.serials hinsert
  · rw [hunrevoked] at hc
    cases mem_singleton.mp hc
    rw [hcertsOf]
    exact getLast?_concat
  · cases hx'
    exact ⟨hx, rfl, hempty, device, hdevice', hstatus⟩

lemma revoked (h : Lifecycle xs s) {now : Time}
    (hrevoke : s.db.revokeDevice now tenantID d reason = some db₁) (hafter : SameFleet db₁ db') :
    Lifecycle xs ⟨db', update s.current d none⟩ := by
  have hdevices := devicesStay_revokeDevice hrevoke hafter
  have hknown := known_of_revokeDevice hrevoke
  have hrevoked : CertsRevoked d db₁ := (certsRevoked_revokeDevice hrevoke).1 rfl
  have hunrevoked : db'.unrevoked d = [] := unrevoked_of_certsRevoked (hrevoked.congr hafter.certs)
  obtain ⟨-, rfl⟩ := revokeDevice_eq_some hrevoke
  have hrows := congrArg Table.rows hafter.certs
  simp only [revokeRows, updateJobs, Table.update] at hrows
  refine h.reissue ?_ ?_ hdevices (hdevices.isSome hknown)
    ⟨by rw [hunrevoked]; rfl, by rw [hunrevoked]; exact forall_mem_nil _, fun x hx => by cases hx⟩
  · refine Table.sameOn_of_map hrows (fun c _ => ?_) fun c _ hc => ?_
    · split <;> rfl
    · rw [if_neg]
      rintro ⟨hdevice, -⟩
      simp [hdevice] at hc
  · have hserials : db'.certs.rows.map (·.serialNumber) =
        s.db.certs.rows.map (·.serialNumber) := by
      rw [hrows, map_map]
      refine map_congr_left fun c _ => ?_
      simp only [comp]
      split <;> rfl
    rw [hserials]
    exact h.serials

lemma enrolled (h : Lifecycle xs s) {C : Crypto} {env : Env} {req : EnrollRequest}
    {token : EnrollmentToken} {db₀ db₂ db₃ : Db}
    (hsame : SameFleet s.db db₀) (hsign : sign C env req = some x) (hx : x ∈ xs)
    (hdevice : db₀.insertDevice (deviceRow env token.tenantID req) = some db₁)
    (hscope : Scoped (env.newDeviceID 0) token db₁ db₂)
    (hcert : db₂.insertCert (certRow C env x) = some db₃) (hafter : SameFleet db₃ db') :
    Lifecycle xs ⟨db', update s.current (env.newDeviceID 0) (some x)⟩ := by
  have hnone := fresh_device hsame hdevice
  have hget := get?_device hsame hdevice hscope hcert hafter
  have hcerts₂ : db₂.certs = s.db.certs := by
    obtain ⟨t, -, rfl⟩ := insertDevice_eq_some hdevice
    exact hscope.rest.certs.trans hsame.certs
  have hserials₂ : (db₂.certs.rows.map (·.serialNumber)).Nodup := by
    rw [hcerts₂]
    exact h.serials
  -- the identifier is new, so no certificate is of the device
  have hfresh : ∀ c ∈ db₂.certs.rows, c.deviceID ≠ env.newDeviceID 0 := by
    intro c hc hid
    rw [hcerts₂] at hc
    have hsome := h.owned c hc
    rw [hid, hnone] at hsome
    cases hsome
  have hcertsOf := certsOf_insertCert hfresh hcert
  have hserials := nodup_serials_insertCert hserials₂ hcert
  obtain ⟨⟨t', ht', rfl⟩, -⟩ := insertCert_eq_some hcert
  have hcerts : db'.certs = t' := hafter.certs
  have hnew : db'.devices.get? (env.newDeviceID 0) = some (deviceRow env token.tenantID req) := by
    rw [hget, if_pos rfl]
  have hcertsOf' : db'.certsOf (env.newDeviceID 0) = [certRow C env x] := by
    rw [certsOf, hcerts]
    exact hcertsOf
  have hunrevoked : db'.unrevoked (env.newDeviceID 0) = [certRow C env x] := by
    rw [unrevoked_eq, hcertsOf']
    rfl
  refine h.reissue ?_ ?_ ?_ (Option.isSome_of_eq_some hnew)
    ⟨by rw [hunrevoked]; rfl, fun c hc => ?_, fun x' hx' => ?_⟩
  · rw [hcerts, ← hcerts₂]
    exact sameOn_insert ht' (by simp [certRow])
  · rw [hcerts]
    exact hserials
  · intro d row hrow
    refine ⟨row, ?_, fun _ hs => hs⟩
    rw [hget, if_neg]
    · exact hrow
    · rintro rfl
      cases hnone.symm.trans hrow
  · rw [hunrevoked] at hc
    cases mem_singleton.mp hc
    rw [hcertsOf']
    rfl
  · cases hx'
    exact ⟨hx, (Crypto.signed_of_signCSR hsign).1, newDeviceID_ne_empty, _, hnew,
      noConfusion⟩

lemma step {c : FleetCall} {C : Crypto} {s' : Fleet} (h : Lifecycle xs s)
    (hstep : FleetStep C c s s') (hsigned : ∀ x, c.signed C = some x → x ∈ xs) :
    Lifecycle xs s' := by
  cases hstep with
  | same hcerts hdevices => exact h.of_certs_eq hcerts hdevices
  | enrolled hx hsame hsign hdevice hscope hcert hafter =>
    exact h.enrolled hsame hsign (hsigned _ hx) hdevice hscope hcert hafter
  | renewed hop hx hadm hsign hstore hafter =>
    exact h.renewed hadm hsign (hsigned _ hx) hstore hafter
  | revoked hd hrevoke hafter => exact h.revoked hrevoke hafter

lemma run (C : Crypto) (quota : Option Defaults) (calls : List FleetCall)
    (h : Lifecycle xs s) (hsigned : ∀ c ∈ calls, ∀ x, c.signed C = some x → x ∈ xs) :
    Lifecycle xs (s.run C quota calls) :=
  foldlRecOn calls _ h fun s hs c hc => hs.step (fleetStep_after C quota c s) (hsigned c hc)

lemma empty {db : Db} (hcerts : db.certs = .empty) : Lifecycle xs ⟨db, fun _ => none⟩ := by
  have hunrevoked : ∀ d, db.unrevoked d = [] := fun d => by rw [Db.unrevoked, hcerts]; rfl
  refine ⟨?_, fun d => ⟨?_, fun c hc => ?_, fun x hx => by cases hx⟩, fun c hc => ?_⟩
  · rw [hcerts]
    exact nodup_nil
  · rw [hunrevoked]
    rfl
  · rw [hunrevoked] at hc
    cases hc
  · rw [hcerts] at hc
    cases hc

lemma admitted_of_current (h : Lifecycle xs s) (hcurrent : s.current x.commonName = some x)
    (hfrom : x.notBefore ≤ at') (hto : at' ≤ x.notAfter) : (admitted at' x.client s.db).isSome := by
  obtain ⟨-, -, hempty, row, hrow, hstatus⟩ := (h.devices _).signed x hcurrent
  have hmap : x.serialHex ∈ (s.db.unrevoked x.commonName).map (·.serialNumber) := by
    rw [(h.devices _).unrevoked, hcurrent]
    exact mem_singleton.mpr rfl
  obtain ⟨c, hc, hserial⟩ := mem_map.mp hmap
  obtain ⟨hmem, hmatch⟩ := mem_filter.mp hc
  obtain ⟨hdevice, hrevoked⟩ := of_decide_eq_true hmatch
  rw [admitted_of_rows h.serials hempty hfrom hto hrow hstatus hmem hdevice hserial hrevoked]
  rfl

/-- The middleware accepts a signed certificate exactly when the device was issued it last. -/
lemma admitted_iff (h : Lifecycle xs s) (hserials : xs.InjOn (·.serialNumber)) (hx : x ∈ xs) :
    (admitted at' x.client s.db).isSome ↔
      s.current x.commonName = some x ∧ x.notBefore ≤ at' ∧ at' ≤ x.notAfter := by
  constructor
  · intro hadm
    obtain ⟨who, hwho⟩ := Option.isSome_iff_exists.mp hadm
    have hrows := admits_of_admitted hwho
    obtain ⟨c, hc, hdevice, hserial, hrevoked⟩ := hrows.cert
    have hmem : c ∈ s.db.unrevoked x.commonName :=
      mem_filter.mpr ⟨hc, decide_eq_true ⟨hdevice, hrevoked⟩⟩
    have hmap := mem_map_of_mem (f := (·.serialNumber)) hmem
    rw [(h.devices _).unrevoked] at hmap
    obtain ⟨y, hy, hyserial⟩ := mem_map.mp hmap
    have hcurrent : s.current x.commonName = some y := Option.mem_toList.mp hy
    -- the serial numbers are those of two signed certificates
    have hxy : y = x := hserials ((h.devices _).signed y hcurrent).1 hx
      (Hex.encode_bytes_injective (hyserial.trans hserial))
    subst hxy
    exact ⟨hcurrent, hrows.notBefore, hrows.notAfter⟩
  · rintro ⟨hcurrent, hfrom, hto⟩
    exact h.admitted_of_current hcurrent hfrom hto

end Lifecycle

/-- The device is known and has no certificate it could use. -/
structure Retired (d : String) (s : Fleet) : Prop where
  known : (s.db.devices.get? d).isSome
  current : s.current d = none

namespace Retired

variable {s' : Fleet} {C : Crypto} {c : FleetCall}

lemma step (h : Retired d s) (hs : Lifecycle xs s) (hstep : FleetStep C c s s') : Retired d s' := by
  cases hstep with
  | same hcerts hdevices => exact ⟨hdevices.isSome h.known, h.current⟩
  | enrolled hx hsame hsign hdevice hscope hcert hafter =>
    have hne : d ≠ c.env.newDeviceID 0 := by
      rintro rfl
      have hknown := h.known
      rw [fresh_device hsame hdevice] at hknown
      cases hknown
    refine ⟨?_, ?_⟩
    · dsimp only
      rw [get?_device hsame hdevice hscope hcert hafter, if_neg (Ne.symm hne)]
      exact h.known
    · dsimp only
      rw [update_of_ne hne]
      exact h.current
  | renewed hop hx hadm hsign hstore hafter =>
    obtain ⟨db₂, hinsert, rfl⟩ := Renew.run_store hstore
    obtain ⟨⟨t, -, rfl⟩, -⟩ := insertCert_eq_some hinsert
    obtain ⟨y, hy⟩ := hs.current_of_admitted hadm
    rw [← (Crypto.signed_of_signCSR hsign).1] at hy
    refine ⟨?_, ?_⟩
    · rw [show _ = s.db.devices from hafter.devices]
      exact h.known
    · dsimp only
      rw [update_of_ne]
      · exact h.current
      · rintro rfl
        cases h.current.symm.trans hy
  | @revoked _ _ d' _ _ _ hd' hrevoke hafter =>
    refine ⟨(devicesStay_revokeDevice hrevoke hafter).isSome h.known, ?_⟩
    dsimp only
    by_cases hd : d = d'
    · rw [hd, update_self]
    · rw [update_of_ne hd]
      exact h.current

lemma run (C : Crypto) (quota : Option Defaults) (calls : List FleetCall) (h : Retired d s)
    (hs : Lifecycle xs s) (hsigned : ∀ c ∈ calls, ∀ x, c.signed C = some x → x ∈ xs) :
    Retired d (s.run C quota calls) := by
  refine (foldlRecOn calls _ (motive := fun s => Retired d s ∧ Lifecycle xs s) ⟨h, hs⟩
    fun s hs c hc => ?_).1
  have hstep := fleetStep_after C quota c s
  exact ⟨hs.1.step hs.2 hstep, hs.2.step hstep (hsigned c hc)⟩

lemma of_revokes {quota : Option Jobs.Defaults} (h : c.Revokes d s.db) :
    Retired d (c.after C quota s) := by
  obtain ⟨caller, body, hop, n, hreply⟩ := h
  have hout := wp_run (wp_revoke_outcome c.env caller d body s.db) c.faults
  unfold FleetCall.revoke at hreply
  rcases hrun : (Jobs.revoke c.env caller d body).run c.faults s.db with ⟨reply, db'⟩
  rw [hrun] at hout hreply
  simp only [FleetCall.after, hop, FleetCall.revoke, hrun]
  cases hout with
  | refused => cases hreply
  | revoked hrevoke hafter =>
    exact ⟨(devicesStay_revokeDevice hrevoke hafter).isSome (known_of_revokeDevice hrevoke),
      update_self ..⟩

end Retired

/-! ### Runs from the start -/

/-- In every run that starts without certificates and draws each serial number once: a device has
no unrevoked certificate but the one it was issued last, it has none once it was revoked, and a
certificate the CA signed is accepted exactly when it is that one, within its period. -/
theorem certificate_lifecycle (C : Crypto) (quota : Option Defaults) (db : Db)
    (calls : List FleetCall) (hcerts : db.certs = .empty)
    (hserials : ((calls.filterMap (·.signed C)).map (·.serialNumber)).Nodup) :
    let start : Fleet := { db := db }
    let s := start.run C quota calls
    (∀ d, (s.db.unrevoked d).map (·.serialNumber) = (s.current d).toList.map (·.serialHex) ∧
      ∀ c ∈ s.db.unrevoked d, (s.db.certsOf d).getLast? = some c) ∧
    (∀ pre c post d, calls = pre ++ c :: post → c.Revokes d (start.run C quota pre).db →
      s.db.unrevoked d = []) ∧
    ∀ x ∈ calls.filterMap (·.signed C), ∀ now, (admitted now x.client s.db).isSome ↔
      s.current x.commonName = some x ∧ x.notBefore ≤ now ∧ now ≤ x.notAfter := by
  intro start s
  let xs : Set Certificate := { x | x ∈ calls.filterMap (·.signed C) }
  have hstart : Lifecycle xs start := .empty hcerts
  have hsigned : ∀ c ∈ calls, ∀ x, c.signed C = some x → x ∈ xs :=
    fun c hc x hx => mem_filterMap.mpr ⟨c, hc, hx⟩
  have hs : Lifecycle xs s := hstart.run C quota calls hsigned
  refine ⟨fun d => ⟨(hs.devices d).unrevoked, (hs.devices d).last⟩, ?_, fun x hx now =>
    hs.admitted_iff (fun x hx y hy => inj_on_of_nodup_map hserials hx hy) hx⟩
  intro pre c post d hcalls hrevokes
  have hpre := hstart.run C quota pre fun c' hc' => hsigned c' (by simp [hcalls, hc'])
  have hc := hpre.step (fleetStep_after C quota c _) (hsigned c (by simp [hcalls]))
  have hretired : Retired d s := by
    have hrun : s = ((start.run C quota pre).run C quota (c :: post)) := by
      rw [← Fleet.run_append, ← hcalls]
    rw [hrun]
    exact Retired.run C quota post (.of_revokes hrevokes) hc
      fun c' hc' => hsigned c' (by simp [hcalls, hc'])
  have hnone := (hs.devices d).unrevoked
  rw [hretired.current] at hnone
  exact map_eq_nil_iff.mp hnone

namespace Sample

def unenrolled : Db where
  tenants := db.tenants
  users := db.users
  enrollmentTokens :=
    ⟨[{ id := "enr", tenantID := "t", tokenHash := "token", createdBy := "u"
        expiresAt := 60 * second, createdAt := 0 }], by decide⟩

def issued (serial : ℕ) : Certificate :=
  { serialNumber := serial, commonName := "dev_a", notBefore := second
    notAfter := second + defaultCertValidity, publicKey := "key" }

def enrollAndRenew : List FleetCall :=
  [{ op := .enroll (some { enrollmentToken := "token", csr := "key", hostname := "host" })
     env := { env second "a" with serial := some 5 } },
   { op := .renew (some (issued 5).client) (some { csr := "key" })
     env := { env second "b" with serial := some 6 } }]

def afterRenewal : Fleet := Fleet.run crypto none { db := unenrolled } enrollAndRenew

end Sample

open Sample in
theorem renewed_certificate_accepted :
    (admitted (2 * second) (issued 6).client afterRenewal.db).isSome ∧
      ¬ (admitted (2 * second) (issued 5).client afterRenewal.db).isSome := by
  obtain ⟨-, -, haccepted⟩ :=
    certificate_lifecycle crypto none unenrolled enrollAndRenew rfl (by decide)
  have hcurrent : afterRenewal.current "dev_a" = some (issued 6) := by decide
  constructor
  · exact (haccepted (issued 6) (by decide) _).mpr ⟨hcurrent, by decide, by decide⟩
  · intro h
    have hold := ((haccepted (issued 5) (by decide) _).mp h).1
    exact absurd (hcurrent.symm.trans hold) (by decide)

end Moebius
