import Moebius.Reports

/-!
What a check-in does when no statement fails.

Up to the fetch of the jobs a check-in is a fixed list of updates of the job table; then it marks
what it has fetched. So every job row ends as a function of itself and of whether it was handed
out.
-/

namespace Moebius

open Proc Checkin List

def Db.updateAll (us : List JobUpdate) (db : Db) : Db := us.foldl (fun db u => db.updateJobs u) db

def JobUpdate.onRowAll (us : List JobUpdate) (j : JobRow) : JobRow :=
  us.foldl (fun j u => u.onRow j) j

namespace Db

lemma updateAll_append (us vs : List JobUpdate) (db : Db) :
    db.updateAll (us ++ vs) = (db.updateAll us).updateAll vs := foldl_append

lemma jobs_updateAll {a b : Db} (h : a.jobs = b.jobs) (us : List JobUpdate) :
    (a.updateAll us).jobs = (b.updateAll us).jobs := by
  induction us generalizing a b with
  | nil => exact h
  | cons u us ih =>
    refine ih ?_
    simp only [updateJobs, h]

lemma job?_updateAll (us : List JobUpdate) (db : Db) (id : String) :
    (db.updateAll us).job? id = (db.job? id).map (JobUpdate.onRowAll us) := by
  induction us generalizing db with
  | nil =>
    have hnil : JobUpdate.onRowAll [] = fun j => j := rfl
    rw [hnil, Option.map_id']
    rfl
  | cons u us ih =>
    have hstep : db.updateAll (u :: us) = (db.updateJobs u).updateAll us := rfl
    rw [hstep, ih, job?_updateJobs, Option.map_map]
    rfl

lemma job?_congr {a b : Db} (h : a.jobs = b.jobs) (id : String) : a.job? id = b.job? id := by
  simp only [job?, h]

end Db

namespace Checkin

variable (env : Env) (who : AgentIdentity) (req : CheckinRequest)

def reportUpdate : List JobUpdate :=
  if req.status.lastUpdateFailed ∧ req.status.lastUpdateJobID ≠ "" then
    [.reportFailed req.status.lastUpdateJobID who.tenantID req.status.lastUpdateError env.now]
  else []

def consentUpdate : List JobUpdate :=
  if req.status.cdmEnabled then
    if req.status.cdmSessionActive then [.releaseHeld who.agentID who.tenantID]
    else [.holdQueued who.agentID who.tenantID]
  else []

def updates : List JobUpdate :=
  reportUpdate env who req ++
    .requeueStale who.agentID who.tenantID (env.now - 60 * second) :: consentUpdate who req

def handsOut (db : Db) : List JobRow :=
  if req.status.cdmEnabled && !req.status.cdmSessionActive then []
  else queuedJobs env who (db.updateAll (updates env who req))

/-- The database once the fetched jobs have been marked, as far as jobs go. -/
def marked (db : Db) : Db :=
  (db.updateAll (updates env who req)).updateAll
    ((handsOut env who req db).map fun j => .markDispatched j.id env.now)

variable {env who req}

lemma jobs_run_of_quiet {α : Type} {D : String} {p : Proc Db α} {db : Db}
    (h : p.Each (Quiet D)) (fs : List Bool) : (p.run fs db).2.jobs = db.jobs :=
  (wp_rel Quiet.refl Quiet.trans (wp_of_each h db) fs).jobs

lemma jobs_run_reportFailedUpdate (db : Db) :
    ((reportFailedUpdate env who req.status).run [] db).2.jobs =
      (db.updateAll (reportUpdate env who req)).jobs := by
  unfold reportFailedUpdate reportUpdate
  split
  · rw [bind_eq, run_nil_bind, run_nil_exec]
    exact jobs_run_of_quiet (quiet_logAction env _ _ _ _ _ _) []
  · rfl

lemma run_fetchDispatchableJobs {db : Db} :
    (fetchDispatchableJobs env who req.status.cdmEnabled req.status.cdmSessionActive).run [] db =
      (some (if req.status.cdmEnabled && !req.status.cdmSessionActive then []
        else queuedJobs env who (db.updateAll (consentUpdate who req))),
        db.updateAll (consentUpdate who req)) := by
  unfold fetchDispatchableJobs consentUpdate
  rcases req.status.cdmEnabled <;> rcases req.status.cdmSessionActive <;> rfl

variable (env who req) in
lemma run_afterReport (db : Db) :
    ∃ db', db'.jobs = (db.updateAll (.requeueStale who.agentID who.tenantID
        (env.now - 60 * second) :: consentUpdate who req)).jobs ∧
      (afterReport env who req).run [] db =
        (.ok (if req.status.cdmEnabled && !req.status.cdmSessionActive then []
          else queuedJobs env who db'), db') := by
  have hdelta : ((processDelta env who req.inventoryDelta).run [] db).2.jobs = db.jobs :=
    jobs_run_of_quiet (quiet_of_inventory each_processDelta) []
  refine ⟨((processDelta env who req.inventoryDelta).run [] db).2.updateAll
    (.requeueStale who.agentID who.tenantID (env.now - 60 * second) :: consentUpdate who req),
    Db.jobs_updateAll hdelta _, ?_⟩
  simp only [afterReport, bind_eq, run_nil_bind, run_nil_exec, run_fetchDispatchableJobs]
  rfl

variable (env req) in
lemma run_fetch (h : ¬ (who.agentID = "" ∨ who.tenantID = "")) (db : Db) :
    ∃ db', db'.jobs = (db.updateAll (updates env who req)).jobs ∧
      (fetch env who (some req)).run [] db = (.ok (handsOut env who req db), db') := by
  simp only [fetch, if_neg h, bind_eq, run_nil_bind, run_nil_exec, if_true]
  obtain ⟨db', hjobs, hrun⟩ := run_afterReport env who req
    ((reportFailedUpdate env who req.status).run []
      (db.updateDevice env.now req who.agentID who.tenantID)).2
  have hall : db'.jobs = (db.updateAll (updates env who req)).jobs := by
    rw [hjobs, updates, Db.updateAll_append]
    refine Db.jobs_updateAll ?_ _
    rw [jobs_run_reportFailedUpdate]
    have hdevice : (db.updateDevice env.now req who.agentID who.tenantID).jobs = db.jobs := rfl
    exact Db.jobs_updateAll hdevice _
  refine ⟨db', hall, ?_⟩
  simp only [hrun, handsOut, queuedJobs, hall]

lemma run_markJobs {js : List JobRow} {db : Db} : (markJobs env js).run [] db =
      (.ok (js.map toDispatch), db.updateAll (js.map fun j => .markDispatched j.id env.now)) := by
  have hloop : (markJobs env js).run [] db =
      (.ok (js.foldl (fun ds j => ds ++ [toDispatch j]) []),
        js.foldl (fun db j => db.updateJobs (.markDispatched j.id env.now)) db) :=
    run_nil_loop (fun _ _ _ => rfl) js [] db
  have hdispatched : js.foldl (fun ds j => ds ++ [toDispatch j]) [] = js.map toDispatch := by
    rw [← flatMap_eq_foldl, ← map_eq_flatMap]
  rw [hloop, hdispatched, Db.updateAll, foldl_map]

variable (env req) in
/-- **A check-in without faults** hands out what it has fetched, and marks it. -/
lemma run_serveHTTP (h : ¬ (who.agentID = "" ∨ who.tenantID = "")) (db : Db) :
    ∃ db', db'.jobs = (marked env who req db).jobs ∧ (serveHTTP env who (some req)).run [] db =
        (.ok 200 ⟨env.now, (handsOut env who req db).map toDispatch⟩, db') := by
  obtain ⟨db', hjobs, hrun⟩ := run_fetch env req h db
  refine ⟨db'.updateAll ((handsOut env who req db).map fun j => .markDispatched j.id env.now),
    Db.jobs_updateAll hjobs _, ?_⟩
  simp only [serveHTTP, bind_eq, run_nil_bind, hrun, respond, run_markJobs]
  rfl

end Checkin

/-! ### The call -/

variable {cert : ClientCert} {db : Db}

lemma jobs_of_served {cfg : ServerConfig} {c : Call} {req : CheckinRequest} {n : ℕ}
    {resp : CheckinResponse} (hop : c.op = .checkin (some cert) (some req))
    (hfaults : true ∉ c.faults) (hanswer : c.answer cfg db = .checkin (.ok n resp)) :
    ∃ who, admitted (Op.authTime c.env) cert db = some who ∧
      (c.after cfg db).jobs = (marked c.env who req db).jobs := by
  have hafter : c.after cfg db = ((authenticate (Op.authTime c.env) (some cert) fun who =>
      serveHTTP c.env who (some req)).run c.faults db).2 := after_checkin cfg hop
  rw [Call.answer, hop] at hanswer
  simp only [Op.proc, bind_eq, pure_eq, run_map, run_of_clean hfaults] at hanswer hafter
  rcases hwho : admitted (Op.authTime c.env) cert db with _ | who
  · obtain ⟨m, code, msg, hrun⟩ := run_authenticate_refused
      (fun who => serveHTTP c.env who (some req)) [] (.inl hwho)
    rw [hrun] at hanswer
    cases hanswer
  · refine ⟨who, rfl, ?_⟩
    rw [run_authenticate hwho rfl, tail_nil] at hanswer hafter
    by_cases hid : who.agentID = "" ∨ who.tenantID = ""
    · have hrefused : serveHTTP c.env who (some req) =
          done (.err 401 "agent identity not found") := by
        simp [serveHTTP, fetch, hid]
      rw [hrefused] at hanswer
      cases hanswer
    · obtain ⟨db', hjobs, hrun⟩ := run_serveHTTP c.env req hid db
      rw [hafter, hrun]
      exact hjobs

end Moebius
