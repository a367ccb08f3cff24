import Moebius.OperatorRequests
import Moebius.Server

/-!
Every statement of every operation is a `JobStep`, and the rules that follow for calls and for
whole runs of the server.
-/

namespace Moebius

open Proc AgentJobs Call Checkin AgentStep

/-! ### The mTLS middleware -/

/-- The certificate names the agent, and its device row names its tenant. -/
structure Authenticated (db : Db) (cert : Option ClientCert) (who : AgentIdentity) : Prop where
  commonName : ∃ c, cert = some c ∧ c.commonName = who.agentID
  tenant : ∃ d, db.devices.get? who.agentID = some d ∧ d.tenantID = who.tenantID

lemma rows_of_lookupCert {agentID serial tenantID : String} {status : DeviceStatus}
    {revokedAt : Option Time} {db : Db}
    (h : lookupCert agentID serial db = some (tenantID, status, revokedAt)) :
    (∃ row, db.devices.get? agentID = some row ∧ row.tenantID = tenantID ∧ row.status = status) ∧
      ∃ c ∈ db.certs.rows, c.deviceID = agentID ∧ c.serialNumber = serial ∧
        c.revokedAt = revokedAt := by
  unfold lookupCert at h
  obtain ⟨row, hrow, hc⟩ := Option.bind_eq_some_iff.mp h
  obtain ⟨c, hfind, he⟩ := Option.map_eq_some_iff.mp hc
  simp only [Prod.mk.injEq] at he
  obtain ⟨htenant, hstatus, hrevoked⟩ := he
  have hpred := List.find?_some hfind
  obtain ⟨hdevice, hserial⟩ := of_decide_eq_true hpred
  have hid : row.id = agentID := Table.key_of_get? hrow
  exact ⟨⟨row, hrow, htenant, hstatus⟩,
    c, List.mem_of_find?_eq_some hfind, hdevice.trans hid, hserial, hrevoked⟩

/-- The agent the mTLS middleware passes on once it has looked the certificate up. -/
def admitted (at' : Time) (cert : ClientCert) (db : Db) : Option AgentIdentity :=
  if cert.commonName = "" ∨ at' < cert.notBefore ∨ cert.notAfter < at' then none
  else match lookupCert cert.commonName cert.serialNumber db with
    | some (tenantID, status, none) =>
      if status = .revoked then none else some ⟨cert.commonName, tenantID⟩
    | _ => none

section

variable {β : Type} {at' : Time} {cert : ClientCert} {db : Db} {who : AgentIdentity}

/-- What the rows and the clock say of a certificate that is admitted. -/
structure Admits (at' : Time) (cert : ClientCert) (db : Db) (who : AgentIdentity) : Prop where
  name : cert.commonName ≠ ""
  notBefore : cert.notBefore ≤ at'
  notAfter : at' ≤ cert.notAfter
  agentID : who.agentID = cert.commonName
  device : ∃ row, db.devices.get? cert.commonName = some row ∧ row.tenantID = who.tenantID ∧
    row.status ≠ .revoked
  cert : ∃ c ∈ db.certs.rows, c.deviceID = cert.commonName ∧ c.serialNumber = cert.serialNumber ∧
    c.revokedAt = none

lemma admits_of_admitted (h : admitted at' cert db = some who) :
    Admits at' cert db who := by
  unfold admitted at h
  split at h
  · cases h
  rename_i hc
  push Not at hc
  obtain ⟨hname, hfrom, hto⟩ := hc
  split at h
  · rename_i tenantID status hl
    obtain ⟨⟨row, hrow, htenant, hstatus⟩, hcert⟩ := rows_of_lookupCert hl
    split at h
    · cases h
    · rename_i hs
      cases h
      exact ⟨hname, hfrom, hto, rfl, ⟨row, hrow, htenant, hstatus ▸ hs⟩, hcert⟩
  · cases h

lemma agentID_of_admitted (h : admitted at' cert db = some who) : who.agentID = cert.commonName :=
  (admits_of_admitted h).agentID

lemma authenticated_of_admitted (h : admitted at' cert db = some who) :
    Authenticated db (some cert) who := by
  obtain ⟨-, -, -, hname, ⟨row, hrow, htenant, -⟩, -⟩ := admits_of_admitted h
  exact ⟨⟨cert, rfl, hname.symm⟩, row, hname ▸ hrow, htenant⟩

/-- The answer of the check where `admitted` says `a`. -/
def Verdict (a : Option AgentIdentity) : Except (Reply β) AgentIdentity → Prop
  | .ok who => a = some who
  | .error r => a = none ∧ ∃ n code msg, r = .error n code msg ∧ 400 ≤ n

lemma verdict_error {n : ℕ} {code msg : String} (hn : 400 ≤ n) :
    Verdict none (.error (.error n code msg) : Except (Reply β) AgentIdentity) :=
  ⟨rfl, n, code, msg, rfl, hn⟩

/-- **The check** refuses at once, or it is one look at the database. -/
lemma mtlsCheck_cases (at' : Time) (cert : Option ClientCert) :
    (∃ x, mtlsCheck (β := β) at' cert = done x ∧ Verdict none x ∧
      ∀ c db, cert = some c → admitted at' c db = none) ∨
    ∃ c k e, cert = some c ∧ mtlsCheck (β := β) at' cert = stmt id k (done e) ∧ Verdict none e ∧
      ∀ db, ∃ x, k db = done x ∧ Verdict (admitted at' c db) x := by
  rcases cert with _ | c
  · exact .inl ⟨_, rfl, verdict_error (by decide), nofun⟩
  unfold mtlsCheck
  dsimp only
  by_cases hname : c.commonName = ""
  · rw [if_pos hname]
    refine .inl ⟨_, rfl, verdict_error (by decide), fun _ _ hc => ?_⟩
    cases hc
    exact if_pos (.inl hname)
  by_cases hdate : at' < c.notBefore ∨ c.notAfter < at'
  · rw [if_neg hname, if_pos hdate]
    refine .inl ⟨_, rfl, verdict_error (by decide), fun _ _ hc => ?_⟩
    cases hc
    exact if_pos (.inr hdate)
  rw [if_neg hname, if_neg hdate]
  refine .inr ⟨c, _, _, rfl, rfl, verdict_error (by decide), fun db => ?_⟩
  rw [admitted, if_neg (not_or.mpr ⟨hname, hdate⟩), bind_done]
  rcases lookupCert c.commonName c.serialNumber db with _ | ⟨tenantID, status, _ | t⟩
  · exact ⟨_, rfl, verdict_error (by decide)⟩
  · by_cases hs : status = .revoked
    · subst hs
      exact ⟨_, rfl, verdict_error (by decide)⟩
    · exact ⟨_, if_neg hs, if_neg hs⟩
  · exact ⟨_, rfl, verdict_error (by decide)⟩

lemma readOnly_mtlsCheck (at' : Time) (cert : Option ClientCert) :
    (mtlsCheck (β := β) at' cert).ReadOnly := by
  rcases mtlsCheck_cases (β := β) at' cert with ⟨x, h, -⟩ | ⟨c, k, e, -, h, -, hk⟩
  · rw [h]
    trivial
  · rw [h]
    refine ⟨⟨rfl, fun db => ?_⟩, trivial⟩
    obtain ⟨x, hx, -⟩ := hk db
    rw [hx]
    trivial

lemma wp_mtlsCheck {R : Db → Db → Prop} {cert : Option ClientCert}
    {Q : Except (Reply β) AgentIdentity → Db → Prop} (hrefl : R db db)
    (herr : ∀ n code msg, 400 ≤ n → Q (.error (.error n code msg)) db)
    (hok : ∀ c who, cert = some c → admitted at' c db = some who → Q (.ok who) db) :
    (mtlsCheck at' cert).wp R Q db := by
  have hQ : ∀ x, Verdict none x → Q x db := by
    rintro (r | who) hx
    · obtain ⟨-, n, code, msg, rfl, hn⟩ := hx
      exact herr n code msg hn
    · cases hx
  rcases mtlsCheck_cases (β := β) at' cert with ⟨x, h, hx, -⟩ | ⟨c, k, e, hc, h, he, hk⟩
  · rw [h]
    exact hQ x hx
  · rw [h]
    refine ⟨⟨hrefl, ?_⟩, hQ e he⟩
    obtain ⟨x, hx, hv⟩ := hk db
    rw [hx]
    rcases x with r | who
    · exact hQ _ ⟨rfl, hv.2⟩
    · exact hok c who hc hv

variable {next : AgentIdentity → Proc Db (Reply β)}

/-- The middleware answers with an error or passes on an authenticated agent. -/
lemma wp_authenticate {R : Db → Db → Prop} {Q : Reply β → Db → Prop} {cert : Option ClientCert}
    (hrefl : R db db) (herr : ∀ n code msg, 400 ≤ n → Q (.error n code msg) db)
    (hnext : ∀ who, Authenticated db cert who → (next who).wp R Q db) :
    (authenticate at' cert next).wp R Q db := by
  refine (wp_bind _ _ _).mpr (wp_mtlsCheck hrefl herr fun c who hc hwho => hnext who ?_)
  exact hc ▸ authenticated_of_admitted hwho

variable {fs : List Bool}

lemma run_authenticate (h : admitted at' cert db = some who) (hf : fs.headD false = false) :
    (authenticate at' (some cert) next).run fs db = (next who).run fs.tail db := by
  rcases mtlsCheck_cases (β := β) at' (some cert) with ⟨-, -, -, hno⟩ | ⟨c, k, e, hc, heq, -, hk⟩
  · cases (hno cert db rfl).symm.trans h
  cases hc
  obtain ⟨x, hx, hv⟩ := hk db
  rw [h] at hv
  rcases x with r | w
  · cases hv.1
  · cases hv
    rw [authenticate, heq, bind_eq, bind_stmt, run_stmt, hf, hx]
    rfl

variable (next fs) in
lemma run_authenticate_refused (h : admitted at' cert db = none ∨ fs.headD false = true) :
    ∃ n code msg, (authenticate at' (some cert) next).run fs db = (.error n code msg, db) := by
  obtain ⟨f, hp, hr⟩ : ∃ f, authenticate at' (some cert) next = (mtlsCheck at' (some cert)).bind f ∧
      ∀ r, f (.error r) = pure r := ⟨_, rfl, fun _ => rfl⟩
  have hend : ∀ x, Verdict none x → ∀ fs, ∃ n code msg,
      ((done x).bind f).run fs db = (.error n code msg, db) := by
    rintro (r | w) hx fs
    · obtain ⟨-, n, code, msg, rfl, -⟩ := hx
      exact ⟨n, code, msg, by simp [Proc.bind, hr]⟩
    · cases hx
  rcases mtlsCheck_cases (β := β) at' (some cert) with ⟨x, heq, hx, -⟩ | ⟨c, k, e, hc, heq, he, hk⟩
  · rw [hp, heq]
    exact hend x hx fs
  cases hc
  rw [hp, heq, bind_stmt, run_stmt]
  split
  · exact hend e he _
  · rename_i hf
    obtain ⟨x, hx, hv⟩ := hk db
    rw [h.resolve_right hf] at hv
    rw [hx]
    exact hend x hv _

end

/-! ### Operations -/

abbrev Op.Step (op : Op) : Db → Db → Prop := JobStep op.reported op.origin

lemma wp_checkin (env : Env) (cert : Option ClientCert) (body : Option CheckinRequest) (db : Db) :
    (authenticate (Op.authTime env) cert fun who => serveHTTP env who body).wp
      (Op.checkin cert body).Step (fun r db' => ∀ n resp, r = .ok n resp →
        ∃ who, Authenticated db cert who ∧ Handed who db' resp.jobs) db := by
  refine wp_authenticate (.refl db) (nofun) fun who hwho => ?_
  have hrep : (Op.checkin cert body).reported = body.bind (·.reported) := by cases body <;> rfl
  refine wp_mono (fun a b h => jobStep (hrep ▸ h)) (fun r db' hr n resp he => ?_)
    (wp_serveHTTP env body db)
  exact ⟨who, hwho, hr n resp he⟩

lemma wp_ack (env : Env) (cert : Option ClientCert) (jobID : String) (db : Db) :
    (authenticate (Op.authTime env) cert fun who => acknowledge env who jobID).wp
      (Op.acknowledge cert jobID).Step (AckPost db jobID) db := by
  refine wp_authenticate (.refl db) (fun n code msg hn h => ?_) fun who _ => ?_
  · have h2 : n < 300 := h.2
    omega
  · exact wp_mono (fun a b h => jobStep h) (fun _ _ h => h)
      (wp_acknowledge env jobID db)

/-- **Every statement of the server is a `JobStep`.** -/
lemma wp_proc (cfg : ServerConfig) (env : Env) (op : Op) (db : Db) :
    (op.proc cfg env).wp op.Step (fun _ _ => True) db := by
  cases op with
  | create caller body => exact (wp_bind _ _ _).mpr (wp_create env cfg.quota caller body db)
  | retry caller jobID => exact (wp_bind _ _ _).mpr (wp_retry env cfg.quota caller jobID db)
  | cancel caller jobID => exact (wp_bind _ _ _).mpr (wp_cancel env caller jobID db)
  | rollback caller deviceID reason payload =>
    exact (wp_bind _ _ _).mpr (wp_rollback env caller deviceID reason payload db)
  | revoke caller deviceID body =>
    exact (wp_bind _ _ _).mpr (wp_revoke env caller deviceID body db)
  | dispatchScheduled sj => exact (wp_bind _ _ _).mpr (wp_dispatchScheduledJob env sj db)
  | checkin cert body =>
    exact (wp_bind _ _ _).mpr (wp_post (fun _ _ _ => trivial) (wp_checkin env cert body db))
  | acknowledge cert jobID =>
    exact (wp_bind _ _ _).mpr (wp_post (fun _ _ _ => trivial) (wp_ack env cert jobID db))
  | submitResult cert jobID body =>
    refine (wp_bind _ _ _).mpr (wp_authenticate (.refl db) (fun _ _ _ _ => trivial) fun who _ => ?_)
    exact wp_mono (fun a b h => jobStep h) (fun _ _ _ => trivial)
      (wp_submitResult env jobID body db)
  | reapDispatched =>
    refine (wp_bind _ _ _).mpr ⟨⟨jobStep_update rfl fun j _ => ?_, trivial⟩, trivial⟩
    exact move_ite fun hc => .requeue hc.1
  | reapInflight =>
    refine (wp_bind _ _ _).mpr ⟨⟨jobStep_update rfl fun j _ => ?_, trivial⟩, trivial⟩
    exact move_ite fun hc => .timeOut _ _ hc.1
  | outside o =>
    exact (wp_bind _ _ _).mpr ⟨⟨jobStep_of_jobs_eq (o.jobs db), trivial⟩, trivial⟩

section

variable {cfg : ServerConfig} {db : Db} {I : Db → Prop} {c : Call} {calls : List Call}
  {cert : Option ClientCert} {env : Env} {faults : List Bool}

lemma after_invariant (hI : ∀ a b, c.op.Step a b → I a → I b) (h : I db) : I (c.after cfg db) :=
  wp_invariant hI (wp_proc cfg c.env c.op db) h c.faults

/-- **The run rule.** What every statement keeps holds at the end of a run. -/
lemma runCalls_invariant (hI : ∀ c ∈ calls, ∀ a b, c.op.Step a b → I a → I b) (h : I db) :
    I (runCalls cfg db calls) := by
  induction calls generalizing db with
  | nil => exact h
  | cons c calls ih =>
    refine ih (fun c' hc' => hI c' (List.mem_cons_of_mem _ hc')) ?_
    exact after_invariant (hI c List.mem_cons_self) h

lemma runCalls_all {P : JobRow → Prop} (hdb : db.jobs = .empty)
    (hP : ∀ c ∈ calls, ∀ j j', Move c.op.reported j j' → P j → P j') (hnew : ∀ j, Fresh j → P j) :
    ∀ id j, (runCalls cfg db calls).job? id = some j → P j := by
  refine runCalls_invariant (I := fun db => ∀ id j, db.job? id = some j → P j)
    (fun c hc a b hs => hs.all (hP c hc) hnew) fun id j hj => ?_
  rw [Db.job?, hdb] at hj
  cases hj

lemma handed_of_answer {body : Option CheckinRequest} {n : ℕ} {resp : CheckinResponse}
    (h : (mk (.checkin cert body) env faults).answer cfg db = .checkin (.ok n resp)) :
    ∃ who, Authenticated db cert who ∧
      Handed who ((mk (.checkin cert body) env faults).after cfg db) resp.jobs := by
  have hw := wp_run (wp_checkin env cert body db) faults
  simp only [answer, after, Op.proc, bind_eq, pure_eq, run_map] at h ⊢
  exact hw n resp (Answer.checkin.inj h)

lemma acknowledged_of_answer {jobID : String} {r : Reply Unit}
    (h : (mk (.acknowledge cert jobID) env faults).answer cfg db = .noBody r) (h2 : r.Is2xx) :
    (∃ j, db.job? jobID = some j ∧ j.status = .dispatched) ∧
      ∃ j, ((mk (.acknowledge cert jobID) env faults).after cfg db).job? jobID = some j ∧
        j.status = .acknowledged := by
  have hw := wp_run (wp_ack env cert jobID db) faults
  simp only [answer, after, Op.proc, bind_eq, pure_eq, run_map] at h ⊢
  exact hw (Answer.noBody.inj h ▸ h2)

end

end Moebius
