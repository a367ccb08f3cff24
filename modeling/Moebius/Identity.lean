import Moebius.Concurrent
import Moebius.Guard
import Moebius.Renew
import Moebius.Reports

/-!
Who an agent is: what the requests of an agent do to its device row and its certificates.

Between the mTLS check and the end of a request, a check-in writes the device row once, with its
first statement, and a renewal writes certificates once, in its transaction.
-/

namespace Moebius

open Proc AgentJobs Option List Renew

/-! ### The mTLS check -/

variable {at' : Time} {cert : ClientCert}

lemma admitted_of_rows {db : Db} {row : DeviceRow} {c : CertRow}
    (hserials : (db.certs.rows.map (·.serialNumber)).Nodup) (hname : cert.commonName ≠ "")
    (hfrom : cert.notBefore ≤ at') (hto : at' ≤ cert.notAfter)
    (hrow : db.devices.get? cert.commonName = some row) (hstatus : row.status ≠ .revoked)
    (hc : c ∈ db.certs.rows) (hdevice : c.deviceID = cert.commonName)
    (hserial : c.serialNumber = cert.serialNumber) (hrevoked : c.revokedAt = none) :
    admitted at' cert db = some ⟨cert.commonName, row.tenantID⟩ := by
  have hid : row.id = cert.commonName := Table.key_of_get? hrow
  have hfind : (db.certs.rows.find? fun c =>
      decide (c.deviceID = row.id ∧ c.serialNumber = cert.serialNumber)) = some c := by
    rcases hf : db.certs.rows.find? fun c =>
        decide (c.deviceID = row.id ∧ c.serialNumber = cert.serialNumber) with _ | c'
    · have hnone := find?_eq_none.mp hf c hc
      simp [hdevice, hid, hserial] at hnone
    · have hpred := find?_some hf
      obtain ⟨-, hserial'⟩ := of_decide_eq_true hpred
      have hmem : c' ∈ db.certs.rows := mem_of_find?_eq_some hf
      rw [hf, inj_on_of_nodup_map hserials hmem hc (hserial'.trans hserial.symm)]
  have hlookup : lookupCert cert.commonName cert.serialNumber db =
      some (row.tenantID, row.status, none) := by
    rw [lookupCert, hrow, bind_some, hfind, map_some, hrevoked]
  have hdate : ¬ (cert.commonName = "" ∨ at' < cert.notBefore ∨ cert.notAfter < at') := by
    rintro (h | h | h)
    · exact hname h
    · exact absurd h (not_lt.mpr hfrom)
    · exact absurd h (not_lt.mpr hto)
  rw [admitted, if_neg hdate, hlookup]
  exact if_neg hstatus

section

variable {β : Type} (at' : Time) (cert : Option ClientCert)

lemma mtlsCheck_ne_ok (who : AgentIdentity) : mtlsCheck (β := β) at' cert ≠ done (.ok who) := by
  intro h
  rcases mtlsCheck_cases (β := β) at' cert with ⟨x, heq, hx, -⟩ | ⟨c, k, e, -, heq, -⟩
  · cases heq.symm.trans h
    cases hx
  · cases heq.symm.trans h

lemma answers_mtlsCheck {I : Db → Prop} {P : AgentIdentity → Prop}
    (h : ∀ c db who, cert = some c → I db → admitted at' c db = some who → P who) :
    (mtlsCheck (β := β) at' cert).Answers I fun x => ∀ who, x = .ok who → P who := by
  rcases mtlsCheck_cases (β := β) at' cert with ⟨x, heq, -⟩ | ⟨c, k, e, hc, heq, he, hk⟩
  · rw [heq]
    trivial
  rw [heq]
  refine ⟨fun db => ?_, fun x hx who hwho => ?_, trivial⟩
  · obtain ⟨x, hx, hv⟩ := hk db
    rw [hx]
    refine ⟨fun hI y hy who hwho => ?_, trivial⟩
    cases hy
    subst hwho
    exact h c db who hc hI hv
  · cases hx
    subst hwho
    cases he

end

lemma afterFirst_renew {R : Db → Db → Prop}
    (hlog : ∀ (db : Db) log, R db { db with auditLog := log }) (C : Crypto) (env : Env)
    (who : AgentIdentity) (body : Option RenewRequest) :
    (serveHTTP C env who body).AfterFirst R := by
  unfold serveHTTP
  split
  · trivial
  rcases body with _ | req
  · trivial
  dsimp only
  split
  · trivial
  rcases sign C env who.agentID req with _ | x
  · trivial
  refine afterFirst_bind ⟨fun _ => trivial, trivial⟩ fun r => ?_
  rcases r with r | n
  · trivial
  · exact each_bind (each_logAction hlog) fun _ => trivial

structure SameIdentity (a b : Db) : Prop where
  devices : b.devices = a.devices
  certs : b.certs = a.certs

/-- The databases differ at most in jobs, results, inventory and the audit log. -/
def SameBeside (a b : Db) : Prop :=
  b = { a with
    jobs := b.jobs, jobResults := b.jobResults, inventoryHardware := b.inventoryHardware
    inventoryPackages := b.inventoryPackages, auditLog := b.auditLog }

namespace SameBeside

variable {a b : Db}

lemma identity (h : SameBeside a b) : SameIdentity a b := by
  rw [h]
  exact ⟨rfl, rfl⟩

lemma inventory {D : String} (h : InventoryStep D a b) : SameBeside a b := by
  rw [h.eq]
  rfl

lemma insertResult {row : JobResultRow} (h : a.insertResult row = some b) : SameBeside a b := by
  obtain ⟨-, t, -, rfl⟩ := eq_some_of_guard h
  rfl

lemma insertJob {row : JobRow} (h : a.insertJob row = some b) : SameBeside a b := by
  obtain ⟨⟨jobs, -, rfl⟩, -⟩ := Db.insertJob_eq_some h
  rfl

variable {R : Db → Db → Prop} (hsame : ∀ a b : Db, SameBeside a b → R a b) (env : Env)

include hsame

lemma log (db : Db) (t : Table AuditRow.id) : R db { db with auditLog := t } := hsame db _ rfl

variable (who : AgentIdentity) (jobID : String)

lemma afterFirst_checkin (body : Option CheckinRequest) :
    (Checkin.serveHTTP env who body).AfterFirst R := by
  refine afterFirst_bind ?_ fun r => ?_
  · unfold Checkin.fetch
    split
    · trivial
    rcases body with _ | req
    · trivial
    refine afterFirst_bind ⟨fun _ => trivial, trivial⟩ fun ok => ?_
    cases ok
    · trivial
    · exact each_bind (each_reportFailedUpdate (log hsame) fun u _ _ db => hsame db _ rfl) fun _ =>
        each_afterReport (log hsame) (fun u _ _ db => hsame db _ rfl)
          (each_mono (fun _ _ h => hsame _ _ (inventory h)) each_processDelta)
  · rcases r with r | jobs
    · trivial
    · exact each_respond fun _ _ db => hsame db _ rfl

lemma each_submitResult (body : Option JobResultSubmission) :
    (submitResult env who jobID body).Each R := by
  have hrefl : ∀ db, R db db := fun db => hsame db db rfl
  rcases body with _ | req
  · trivial
  unfold submitResult
  dsimp only
  rcases targetStatus req.status with _ | target
  · trivial
  refine each_bind (each_of_readOnly (readOnly_read _) hrefl) fun r => ?_
  rcases r with _ | _ | j
  · trivial
  · trivial
  dsimp only
  split
  · trivial
  refine each_bind (each_attempt hrefl fun db db' h => hsame _ _ (insertResult h)) fun ok => ?_
  cases ok
  · trivial
  refine each_bind (each_exec fun db => hsame db _ rfl) fun ok => ?_
  cases ok
  · trivial
  refine each_bind (each_mono (fun _ _ h => hsame _ _ (inventory h)) each_storeInventory)
    fun _ => ?_
  refine each_bind (each_logAction (log hsame)) fun _ => ?_
  exact each_bind (each_retryIfAllowed hrefl fun _ _ _ h => hsame _ _ (insertJob h))
    fun _ => trivial

end SameBeside

/-! ### What a renewal stores -/

lemma Db.insertDevice_eq_some {row : DeviceRow} {db db' : Db} (h : db.insertDevice row = some db') :
    ∃ t, db.devices.insert row = some t ∧ db' = { db with devices := t } := by
  obtain ⟨-, t, ht, hdb⟩ := eq_some_of_guard h
  exact ⟨t, ht, hdb.symm⟩

lemma Db.insertCert_eq_some {row : CertRow} {db db' : Db} (h : db.insertCert row = some db') :
    (∃ t, db.certs.insert row = some t ∧ db' = { db with certs := t }) ∧
      (db.devices.get? row.deviceID).isSome ∧
      ∀ c ∈ db.certs.rows, c.serialNumber ≠ row.serialNumber := by
  obtain ⟨hc, t, ht, hdb⟩ := eq_some_of_guard h
  exact ⟨⟨t, ht, hdb.symm⟩, hc.1, fun c hmem => (hc.2 c hmem).1⟩

namespace Renew

variable (C : Crypto) (env : Env) (x : Certificate)

/-- The transaction ends with an error, or the new certificate is stored and the ones before it
are superseded. -/
lemma store_cases (fs : List Bool) (db : Db) :
    (∃ n code msg db', (store C env x).run fs db = (.error (.error n code msg), db')) ∨
      ∃ n db₁, db.insertCert (certRow C env x) = some db₁ ∧ (store C env x).run fs db =
        (.ok n, (db₁.supersedeCerts env.now x.commonName (env.newCertificateID 0)).2) := by
  have hwp : (store C env x).wp (fun _ _ => True) (fun r db' =>
      (∃ n code msg, r = .error (.error n code msg)) ∨
        ∃ n db₁, db.insertCert (certRow C env x) = some db₁ ∧ r = .ok n ∧
          db' = (db₁.supersedeCerts env.now x.commonName (env.newCertificateID 0)).2) db := by
    simp only [store, bind_eq, wp_bind]
    refine wp_attempt _ _ trivial (.inl ⟨_, _, _, rfl⟩) fun db₁ h₁ => ⟨trivial, ?_⟩
    simp only [if_true, wp_bind]
    refine wp_query trivial (.inl ⟨_, _, _, rfl⟩) fun k db₂ h₂ => ⟨trivial, ?_⟩
    simp only [wp_bind, commit]
    refine ⟨⟨trivial, ?_⟩, .inl ⟨_, _, _, rfl⟩⟩
    have hdb₂ : (db₁.supersedeCerts env.now x.commonName (certRow C env x).id).2 = db₂ :=
      congrArg Prod.snd (some.inj h₂)
    exact .inr ⟨k, db₁, h₁, rfl, hdb₂.symm⟩
  rcases hrun : (store C env x).run fs db with ⟨r, db'⟩
  have hout := wp_run hwp fs
  rw [hrun] at hout
  rcases hout with ⟨n, code, msg, hr⟩ | ⟨n, db₁, h₁, hr, hdb⟩
  · exact .inl ⟨n, code, msg, db', by rw [← hr]⟩
  · exact .inr ⟨n, db₁, h₁, by rw [← hr, ← hdb]⟩

variable {C env x}

lemma run_store {fs : List Bool} {db db' : Db} {n : ℕ}
    (h : (store C env x).run fs db = (.ok n, db')) :
    ∃ db₁, db.insertCert (certRow C env x) = some db₁ ∧
      db' = (db₁.supersedeCerts env.now x.commonName (env.newCertificateID 0)).2 := by
  rcases store_cases C env x fs db with ⟨m, code, msg, db'', he⟩ | ⟨m, db₁, hinsert, he⟩
  · cases he.symm.trans h
  · cases he.symm.trans h
    exact ⟨db₁, hinsert, rfl⟩

end Renew

end Moebius
