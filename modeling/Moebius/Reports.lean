import Moebius.ServerSteps

/-!
The report of a failed update inside a check-in.

Whether the statement that marks the reported job as failed is reached is decided by the
request, by the database the request meets and by the first three statements going through:
the lookup of the certificate, the update of the device row and the report itself. The rest of
a check-in reports nothing.
-/

namespace Moebius

open Proc Checkin

/-- The check-in whose report reaches the job table: the agent and what it sent. -/
def Call.report (db : Db) (c : Call) : Option (AgentIdentity × CheckinRequest) :=
  match c.op with
  | .checkin (some cert) (some req) =>
    match admitted (Op.authTime c.env) cert db with
    | some who =>
      if who.agentID ≠ "" ∧ who.tenantID ≠ "" ∧ req.reported ≠ none ∧
          true ∉ c.faults.take 3 then
        some (who, req)
      else none
    | none => none
  | _ => none

variable {fs : List Bool} {db : Db}

/-! ### The check-in -/

/-- What a check-in does after the report, as one procedure. -/
def Checkin.finishFrom (env : Env) (who : AgentIdentity) (req : CheckinRequest) :
    Proc Db (Reply CheckinResponse) := do
  match ← afterReport env who req with
  | .error r => pure r
  | .ok jobs => respond env jobs

variable {env : Env} {who : AgentIdentity} {req : CheckinRequest}

lemma Checkin.wp_finishFrom :
    (finishFrom env who req).wp (AgentStep who none) (fun _ _ => True) db := by
  simp only [finishFrom, bind_eq, wp_bind]
  refine wp_post (fun r db' hr => ?_) (wp_afterReport env req db)
  rcases r with r | js
  · trivial
  · exact wp_post (fun _ _ _ => trivial) (wp_respond env hr)

lemma Checkin.serveHTTP_eq (h : ¬ (who.agentID = "" ∨ who.tenantID = "")) :
    serveHTTP env who (some req) =
      (exec (Db.updateDevice env.now req who.agentID who.tenantID)).bind fun ok =>
        if ok then (reportFailedUpdate env who req.status).bind fun _ => finishFrom env who req
        else done (.err 500 "failed to update device") := by
  simp only [serveHTTP, fetch, if_neg h, bind_eq, Proc.bind_assoc]
  congr 1
  funext ok
  cases ok
  · rfl
  · rw [if_pos rfl, if_pos rfl, Proc.bind_assoc]
    rfl

lemma not_mem_take_three : true ∉ fs.take 3 ↔
      fs.headD false = false ∧ fs.tail.headD false = false ∧ fs.tail.tail.headD false = false := by
  rcases fs with _ | ⟨a, _ | ⟨b, _ | ⟨c, fs⟩⟩⟩ <;> simp [@eq_comm Bool true]

def Db.reported (env : Env) (who : AgentIdentity) (req : CheckinRequest) (db : Db) : Db :=
  (db.updateDevice env.now req who.agentID who.tenantID).updateJobs
    (.reportFailed req.status.lastUpdateJobID who.tenantID req.status.lastUpdateError env.now)

lemma Checkin.run_reportFailedUpdate {β : Type} {status : AgentStatus} (h : status.reported ≠ none)
    {f : Unit → Proc Db β} : ((reportFailedUpdate env who status).bind f).run fs db =
      if fs.headD false then (f ()).run fs.tail db
      else ((logAction env who.tenantID who.agentID "agent" "agent_update.rollback" "job"
        status.lastUpdateJobID [("error", status.lastUpdateError)]).bind f).run fs.tail
          (db.updateJobs (.reportFailed status.lastUpdateJobID who.tenantID
            status.lastUpdateError env.now)) := by
  rw [reportFailedUpdate, if_pos (AgentStatus.reported_ne_none.mp h), bind_eq, Proc.bind_assoc,
    run_exec_bind]
  rfl

section

variable (cfg : ServerConfig) {c : Call}

lemma Call.report_eq_some (h : c.report db = some (who, req)) :
    ∃ cert, c.op = .checkin (some cert) (some req) ∧
      admitted (Op.authTime c.env) cert db = some who ∧ who.agentID ≠ "" ∧ who.tenantID ≠ "" ∧
      req.reported ≠ none ∧ true ∉ c.faults.take 3 := by
  unfold Call.report at h
  split at h
  · rename_i cert req' hop
    split at h
    · rename_i who' hwho
      split at h
      · rename_i hc
        cases h
        exact ⟨cert, hop, hwho, hc⟩
      · cases h
    · cases h
  · cases h

lemma Op.eq_checkin_of_reported {op : Op} (h : op.reported ≠ none) :
    ∃ cert req, op = .checkin cert (some req) := by
  cases op with
  | checkin cert body =>
    rcases body with _ | req
    · exact absurd rfl h
    · exact ⟨cert, req, rfl⟩
  | _ => exact absurd rfl h

variable {body : Option CheckinRequest}

lemma after_checkin {cert : Option ClientCert} (hop : c.op = .checkin cert body) :
    c.after cfg db = ((authenticate (Op.authTime c.env) cert fun who =>
      serveHTTP c.env who body).run c.faults db).2 := by
  rw [Call.after, hop]
  exact congrArg Prod.snd (run_map _ Answer.checkin _ _)

/-- **A check-in whose report gets through** marks the job and goes on without reporting. -/
lemma after_of_report (h : c.report db = some (who, req)) :
    ∃ (p : Proc Db (Reply CheckinResponse)) (fs : List Bool),
      (∀ db, p.wp (AgentStep who none) (fun _ _ => True) db) ∧
        c.after cfg db = (p.run fs (db.reported c.env who req)).2 := by
  obtain ⟨cert, hop, hwho, hid, htenant, hrep, hfs⟩ := Call.report_eq_some h
  obtain ⟨h1, h2, h3⟩ := not_mem_take_three.mp hfs
  refine ⟨(logAction c.env who.tenantID who.agentID "agent" "agent_update.rollback" "job"
    req.status.lastUpdateJobID [("error", req.status.lastUpdateError)]).bind fun _ =>
      finishFrom c.env who req, c.faults.tail.tail.tail, fun db => ?_, ?_⟩
  · rw [wp_bind]
    exact wp_quiet (quiet_logAction c.env _ _ _ _ _ _) fun _ db' _ =>
      wp_finishFrom
  · rw [after_checkin cfg hop, run_authenticate hwho h1, serveHTTP_eq (by tauto), run_exec_bind, h2]
    simp only [Bool.false_eq_true, if_false, if_true, run_reportFailedUpdate hrep, h3]
    rfl

/-- The agent of that name makes `b` of `a` without reporting anything. -/
def Unreporting (name : String) (a b : Db) : Prop :=
  ∃ (who : AgentIdentity) (p : Proc Db (Reply CheckinResponse)) (fs : List Bool),
    who.agentID = name ∧ p.wp (AgentStep who none) (fun _ _ => True) a ∧ b = (p.run fs a).2

lemma unreporting_self {name : String} : Unreporting name db db :=
  ⟨⟨name, ""⟩, done (.err 401 ""), [], rfl, trivial, by simp⟩

lemma unreporting_serveHTTP (h : body.bind (·.reported) = none) :
    Unreporting who.agentID db ((serveHTTP env who body).run fs db).2 := by
  refine ⟨who, _, fs, rfl, ?_, rfl⟩
  rw [← h]
  exact wp_post (fun _ _ _ => trivial) (wp_serveHTTP env body db)

lemma unreporting_of_fault (hid : ¬ (who.agentID = "" ∨ who.tenantID = ""))
    (hrep : req.reported ≠ none) (h1 : fs.headD false = false) (h2 : fs.tail.headD false = true) :
    Unreporting who.agentID db ((serveHTTP env who (some req)).run fs db).2 := by
  refine ⟨who, (exec (Db.updateDevice env.now req who.agentID who.tenantID)).bind fun _ =>
    finishFrom env who req, false :: fs.tail.tail, rfl, ?_, ?_⟩
  · rw [wp_bind]
    exact ⟨⟨(quiet_updateDevice db _ _ _).step, wp_finishFrom⟩, wp_finishFrom⟩
  · rw [serveHTTP_eq hid, run_exec_bind, h1]
    simp only [Bool.false_eq_true, if_false, if_true, run_reportFailedUpdate hrep, h2,
      run_exec_bind]
    rfl

/-- **A check-in whose report does not get through** does what one that reports nothing does. -/
lemma after_of_report_none {cert : ClientCert} (hop : c.op = .checkin (some cert) body)
    (h : c.report db = none) : Unreporting cert.commonName db (c.after cfg db) := by
  by_cases hno : admitted (Op.authTime c.env) cert db = none ∨ c.faults.headD false = true
  · obtain ⟨n, code, msg, hrun⟩ := run_authenticate_refused _ _ hno
    rw [after_checkin cfg hop, hrun]
    exact unreporting_self
  obtain ⟨hadm, h1⟩ := not_or.mp hno
  rw [Bool.not_eq_true] at h1
  obtain ⟨who, hadm⟩ := Option.ne_none_iff_exists'.mp hadm
  rw [after_checkin cfg hop, run_authenticate hadm h1, ← agentID_of_admitted hadm]
  by_cases hrep : body.bind (·.reported) = none
  · exact unreporting_serveHTTP hrep
  obtain ⟨req, rfl, hrep⟩ : ∃ req, body = some req ∧ req.reported ≠ none := by
    rcases body with _ | req
    · exact absurd rfl hrep
    · exact ⟨req, rfl, hrep⟩
  by_cases hid : who.agentID = "" ∨ who.tenantID = ""
  · rw [serveHTTP, fetch, if_pos hid]
    exact unreporting_self
  rcases h2 : c.faults.tail.headD false with _ | _
  swap
  · rw [serveHTTP_eq hid, run_exec_bind, h2]
    exact unreporting_self
  -- everything else has gone through, so it is the report that fails
  refine unreporting_of_fault hid hrep h2 ?_
  have hfs : ¬ true ∉ c.faults.take 3 := by
    intro hfs
    simp only [Call.report, hop, hadm] at h
    rw [if_pos (by tauto)] at h
    cases h
  rw [not_mem_take_three, h1, h2] at hfs
  simpa only [true_and, Bool.not_eq_false] using hfs

variable {I : Db → Prop}

lemma after_invariant_of_report_none (h : c.report db = none)
    (hI : ∀ a b, JobStep none c.op.origin a b → I a → I b) (hdb : I db) : I (c.after cfg db) := by
  by_cases hrep : c.op.reported = none
  · exact after_invariant (fun a b hs => hI a b (hrep ▸ hs)) hdb
  obtain ⟨cert, req, hop⟩ := Op.eq_checkin_of_reported hrep
  rcases cert with _ | cert
  · rw [after_checkin cfg hop]
    exact hdb
  · obtain ⟨who, p, fs, -, hw, he⟩ := after_of_report_none cfg hop h
    rw [he]
    exact wp_invariant (fun a b hs => hI a b hs.jobStep) hw hdb fs

lemma after_invariant_of_report (h : c.report db = some (who, req))
    (hI : ∀ a b, JobStep none none a b → I a → I b) (hdb : I (db.reported c.env who req)) :
    I (c.after cfg db) := by
  obtain ⟨p, fs, hw, he⟩ := after_of_report cfg h
  rw [he]
  exact wp_invariant (fun a b hs => hI a b hs.jobStep) (hw _) hdb fs

end

end Moebius
