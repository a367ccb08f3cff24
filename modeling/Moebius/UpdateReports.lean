import Moebius.Concurrent
import Moebius.Poller
import Moebius.Terminal
import Moebius.UpdateSafety

/-!
What the server learns about updates.

The agent restarts itself only after the server has accepted the result of the job, and the result
of a swap is one the server knows no status for. The restarted agent checks itself against the
note of the pending update, but its check-ins say nothing about what it has found.
-/

namespace Moebius.Update

open Proc AgentJobs Option Poller

variable {β κ : Type} {C : Crypto β κ} {J : Codec PendingUpdate β} {A : Agent} {jobID : String}
  {d : Disk β}

inductive SwapJob (β : Type)
  | update (io : Io β) (payload : Except String AgentUpdatePayload)
  | rollback (look : Option String) (io : RollbackIo)
      (payload : Except String AgentRollbackPayload)

namespace SwapJob

def execute (C : Crypto β κ) (J : Codec PendingUpdate β) (A : Agent) (jobID : String)
    (d : Disk β) : SwapJob β → JobResultSubmission × Disk β
  | update io payload => executeAgentUpdate C J A io jobID payload d
  | rollback look io payload => executeAgentRollback A look io payload d

/-- The job is granted everything it asks for before it swaps the binary. -/
def Swaps (C : Crypto β κ) (A : Agent) (d : Disk β) : SwapJob β → Prop
  | update io payload => ∃ p old new, payload = .ok p ∧ Installs C A io p d old new
  | rollback look io payload => (∃ p, payload = .ok p) ∧ A.platform ≠ none ∧
      d.previous ≠ none ∧ look = none ∧ io.stat = none ∧ io.rename = none

lemma execute_of_not_swaps {job : SwapJob β} (h : ¬ job.Swaps C A d) :
    (job.execute C J A jobID d).2.binary = d.binary ∧
      (job.execute C J A jobID d).1.status = "failed" := by
  cases job with
  | update io payload =>
    have ho := executeAgentUpdate_outcome C J A io jobID payload d
    rw [execute]
    generalize executeAgentUpdate C J A io jobID payload d = r at ho
    cases ho with
    | refused | dropped | stuck => exact ⟨rfl, rfl⟩
    | installed msg hp hi => exact absurd ⟨_, _, _, hp, hi⟩ h
  | rollback look io payload =>
    rw [execute]
    unfold executeAgentRollback
    split
    · exact ⟨rfl, rfl⟩
    rename_i p
    split
    · exact ⟨rfl, rfl⟩
    rename_i platform hplatform
    split
    · exact ⟨rfl, rfl⟩
    rename_i data hdata
    obtain ⟨hlook, hprevious⟩ := File.access_eq_ok.mp hdata
    rcases rollback_cases platform.binaryPreviousPath io d with
      ⟨b, hb, hstat, hrename, -⟩ | ⟨-, err, hr⟩
    · exact absurd ⟨⟨p, rfl⟩, by simp [hplatform], by simp [hb], hlook, hstat, hrename⟩ h
    · rw [hr]
      exact ⟨rfl, rfl⟩

lemma execute_of_swaps {job : SwapJob β} (h : job.Swaps C A d) :
    (job.execute C J A jobID d).1.status = "restarting" := by
  cases job with
  | update io payload =>
    obtain ⟨p, old, new, rfl, hi⟩ := h
    rw [execute, executeAgentUpdate_of_installs hi]
    rfl
  | rollback look io payload =>
    obtain ⟨⟨p, rfl⟩, hplatform, hprevious, hlook, hstat, hrename⟩ := h
    obtain ⟨platform, hplatform⟩ := ne_none_iff_exists'.mp hplatform
    obtain ⟨b, hb⟩ := ne_none_iff_exists'.mp hprevious
    simp [execute, executeAgentRollback, Update.rollback, hplatform, hb, hlook, hstat, hrename,
      File.access, restarting]

/-- **Swaps are reported.** A job reports `restarting` exactly if it is granted everything;
otherwise it reports a failure and leaves the binary alone. -/
theorem restarting_iff_swaps (C : Crypto β κ) (J : Codec PendingUpdate β) (A : Agent)
    (jobID : String) (d : Disk β) (job : SwapJob β) :
    let r := job.execute C J A jobID d
    (r.1.status = "restarting" ↔ job.Swaps C A d) ∧
      (r.1.status ≠ "restarting" → r.1.status = "failed" ∧ r.2.binary = d.binary) := by
  by_cases h : job.Swaps C A d
  · have hstatus : (job.execute C J A jobID d).1.status = _ := execute_of_swaps h
    exact ⟨iff_of_true hstatus h, fun hnot => absurd hstatus hnot⟩
  · obtain ⟨hbinary, hstatus⟩ : (job.execute C J A jobID d).2.binary = _ ∧ _ :=
      execute_of_not_swaps h
    refine ⟨iff_of_false (fun hr => ?_) h, fun _ => ⟨hstatus, hbinary⟩⟩
    simp [hstatus] at hr

end SwapJob

/-! ### The end of `runJob` -/

def stamped (startedAt completedAt : Time) (result : JobResultSubmission) : JobResultSubmission :=
  { result with startedAt := some startedAt, completedAt := some completedAt }

/-- `submitResult` of the agent takes only `204` and `200` for a success. -/
def submitted (r : Reply Unit) : Bool := r.status = 204 ∨ r.status = 200

/-- The restart function is invoked, if there is one. -/
def restarts (restartFunc : Bool) (result : JobResultSubmission) (r : Reply Unit) : Bool :=
  submitted r && result.status = "restarting" && restartFunc

def resultCall (cert : Option ClientCert) (env : Env) (faults : List Bool) (jobID : String)
    (result : JobResultSubmission) : Call :=
  { op := .submitResult cert jobID (some result), env, faults }

def RestartFollows (cfg : ServerConfig) (db : Db) (cert : Option ClientCert) (env : Env)
    (faults : List Bool) (jobID : String) (result : JobResultSubmission) : Prop :=
  ∃ r, (resultCall cert env faults jobID result).answer cfg db = .noBody r ∧
    submitted r = true ∧ restarts true result r = true

lemma refused_of_targetStatus {cfg : ServerConfig} {db : Db} {cert : Option ClientCert}
    {env : Env} {faults : List Bool} {result : JobResultSubmission} {r : Reply Unit}
    (h : targetStatus result.status = none)
    (hr : (resultCall cert env faults jobID result).answer cfg db = .noBody r) :
    400 ≤ r.status := by
  have hw : (authenticate (Op.authTime env) cert fun who =>
      submitResult env who jobID (some result)).wp (fun _ _ => True)
        (fun r _ => 400 ≤ r.status) db := by
    refine wp_authenticate trivial (fun n code msg hn => hn) fun who _ => ?_
    simp only [submitResult, h]
    exact Nat.le_refl 400
  have hrun := wp_run hw faults
  simp only [resultCall, Call.answer, Op.proc, bind_eq, pure_eq, run_map] at hr
  rwa [Answer.noBody.inj hr] at hrun

/-- Swaps are followed by a restart exactly when there is none: the result of every swap is
refused, so the agent goes on without a restart. -/
theorem swap_restarts_iff (C : Crypto β κ) (J : Codec PendingUpdate β) (A : Agent)
    (job : SwapJob β) (d : Disk β) (cfg : ServerConfig) (db : Db) (cert : Option ClientCert)
    (env : Env) (faults : List Bool) (jobID : String) (startedAt completedAt : Time) :
    (job.Swaps C A d → RestartFollows cfg db cert env faults jobID
      (stamped startedAt completedAt (job.execute C J A jobID d).1)) ↔ ¬ job.Swaps C A d := by
  refine ⟨fun h hswaps => ?_, fun h hswaps => absurd hswaps h⟩
  obtain ⟨r, hr, haccepted, -⟩ := h hswaps
  have hstatus : targetStatus
      (stamped startedAt completedAt (job.execute C J A jobID d).1).status = none := by
    rw [stamped, SwapJob.execute_of_swaps hswaps]
    rfl
  have hrefused := refused_of_targetStatus hstatus hr
  simp only [submitted, decide_eq_true_eq] at haccepted
  omega

namespace Sample

open Moebius.Sample in
def updateJob : List Call :=
  [call (.create caller (some
      { type := "agent_update", target := { deviceIDs := ["d"] }, payload := "update"
        retryPolicy := none })) 1 "j",
    call (checkin "d" {}) 2 "k",
    call (acknowledge "d" "job_j") 3 "l"]

open Moebius.Sample in
def updatedDb : Db := runCalls cfg db updateJob

lemma installs : Installs crypto agent io payload disk [.byte 1, .byte 2]
    [.byte 3, .byte 4, .byte 5] where
  ready := ⟨by decide, by decide, rfl, rfl, by decide, by decide, by decide⟩
  current := rfl
  download := ⟨200, rfl, .inl rfl⟩
  save := rfl
  declared := by decide
  genuine := ⟨by decide, (), [], rfl, rfl, rfl⟩
  hash := rfl
  read := rfl
  chmod := rfl
  backup := rfl
  rename := rfl

end Sample

/-- The job is acknowledged, the binary swapped, and the result refused. -/
theorem sample_swap_without_restart :
    (Sample.updatedDb.job? "job_j").map (fun j => (j.type, j.status)) =
        some (.agentUpdate, .acknowledged) ∧
      (SwapJob.update Sample.io (.ok Sample.payload)).Swaps Sample.crypto Sample.agent Sample.disk ∧
      ¬ RestartFollows Moebius.Sample.cfg Sample.updatedDb (some (Moebius.Sample.cert "d"))
        (Moebius.Sample.env 4 "m") [] "job_j"
        (stamped 3 4 ((SwapJob.update Sample.io (.ok Sample.payload)).execute Sample.crypto
          Sample.codec Sample.agent "job_j" Sample.disk).1) := by
  refine ⟨by decide, ⟨_, _, _, rfl, Sample.installs⟩, ?_⟩
  rintro ⟨r, hr, haccepted, -⟩
  have h400 : 400 ≤ r.status := refused_of_targetStatus (by decide) hr
  simp only [submitted, decide_eq_true_eq] at haccepted
  omega

/-- The note on the disk, if there is one, makes the restarted agent roll back. -/
def NoteRollsBack (J : Codec PendingUpdate β) (version : String) (rio : RestartIo)
    (pending : File β) : Prop :=
  ∃ data q, pending = some data ∧ J.decode data = some q ∧ rio.read = none ∧
    (q.deadline < rio.now ∨ version ≠ q.expectedVersion)

lemma checkPostRestart_needRoll {version : String} {rio : RestartIo} {pending : File β} :
    (∃ result, checkPostRestart J version rio pending = some result ∧ result.success = false ∧
      result.needRoll = true) ↔ NoteRollsBack J version rio pending := by
  unfold checkPostRestart NoteRollsBack readPending
  rcases rio.read with _ | err
  swap
  · simp
  rcases pending with _ | data
  · simp
  rcases hq : J.decode data with _ | q
  · simp [hq]
  · simp only [hq]
    by_cases hlate : q.deadline < rio.now
    · simp [hlate, hq]
    · by_cases hversion : version = q.expectedVersion <;> simp [hlate, hversion, hq]

lemma postRestart_rolledBack {version : String} {platform : Platform} {rio : RestartIo}
    (hprevious : d.previous ≠ none) : (postRestart J version platform rio d).1 = true ↔
      NoteRollsBack J version rio d.pending ∧ rio.rollback.stat = none ∧
        rio.rollback.rename = none := by
  rw [← checkPostRestart_needRoll]
  unfold postRestart
  rcases checkPostRestart J version rio d.pending with _ | ⟨q, success, needRoll, error⟩
  · simp
  rcases success with _ | _
  swap
  · simp
  rcases needRoll with _ | _
  · simp
  rcases rollback_cases platform.binaryPreviousPath rio.rollback d with
    ⟨b, -, hstat, hrename, h⟩ | ⟨hcause, err, h⟩
  · simp [h, hstat, hrename]
  · have hfails : ¬ (rio.rollback.stat = none ∧ rio.rollback.rename = none) := by tauto
    simpa [h] using hfails

def Unsettled (a b : Db) : Prop :=
  ∀ id s, isTerminalStatus s = true → HasStatus id s b → HasStatus id s a

lemma unsettled_of_jobs_eq (a b : Db) (h : b.jobs = a.jobs) : Unsettled a b := by
  rintro id s - ⟨j, hj, hs⟩
  refine ⟨j, ?_, hs⟩
  rw [Db.job?, ← h]
  exact hj

lemma Unsettled.refl (a : Db) : Unsettled a a := unsettled_of_jobs_eq a a rfl

lemma Unsettled.trans {a b c : Db} (h : Unsettled a b) (h' : Unsettled b c) : Unsettled a c :=
  fun id s ht hc => h id s ht (h' id s ht hc)

lemma unsettled_update {u : JobUpdate}
    (h : ∀ j, (u.onRow j).status = j.status ∨ isTerminalStatus (u.onRow j).status = false)
    (a : Db) : Unsettled a (a.updateJobs u) := by
  rintro id s ht ⟨j', hj', hs⟩
  rw [Db.job?_updateJobs] at hj'
  obtain ⟨j, hj, rfl⟩ := map_eq_some_iff.mp hj'
  rcases h j with hsame | hopen
  · exact ⟨j, hj, hsame ▸ hs⟩
  · rw [hs, ht] at hopen
    cases hopen

lemma open_ite {p : Prop} [Decidable p] {j j' : JobRow} (h : isTerminalStatus j'.status = false) :
    (if p then j' else j).status = j.status ∨
      isTerminalStatus (if p then j' else j).status = false := by
  split
  · exact .inr h
  · exact .inl rfl

lemma each_unsettled_serveHTTP (env : Env) (who : AgentIdentity) {req : CheckinRequest}
    (hreq : req.reported = none) : (Checkin.serveHTTP env who (some req)).Each Unsettled := by
  refine each_bind (each_fetch unsettled_of_jobs_eq env who (some req) fun req' he u hu _ => ?_)
    fun r => ?_
  · cases he
    cases hu with
    | reportFailed h => exact absurd hreq h
    | requeueStale | holdQueued | releaseHeld => exact unsettled_update fun j => open_ite rfl
  · rcases r with r | js
    · trivial
    exact each_respond fun k _ => unsettled_update fun j => open_ite rfl

structure CheckedIn (cfg : ServerConfig) (db : Db) (version : String) (c : Call) : Prop where
  request : ∃ cert poller delta, c.op = .checkin (some cert)
    (some (finishCheckin (beginCheckin version poller).1 delta))
  answered : ∃ resp, c.answer cfg db = .checkin (.ok 200 resp)

lemma CheckedIn.hasStatus {cfg : ServerConfig} {db : Db} {version : String} {c : Call}
    (h : CheckedIn cfg db version c) {id : String} {s : JobStatus}
    (hs : isTerminalStatus s = true) : HasStatus id s (c.after cfg db) ↔ HasStatus id s db := by
  obtain ⟨cert, poller, delta, hop⟩ := h.request
  constructor
  · intro hafter
    have heach : (c.op.proc cfg c.env).Each Unsettled := by
      rw [hop]
      refine each_bind (each_authenticate _ .refl (fun who => ?_) _) fun _ => trivial
      exact each_unsettled_serveHTTP c.env who rfl
    exact wp_rel .refl (fun _ _ _ h h' => h.trans h') (wp_of_each heach db) c.faults id s hs hafter
  · intro hbefore
    refine after_hasStatus ?_ hs hbefore
    rintro ⟨who, req, j, hreport, -⟩
    unfold Call.report at hreport
    rw [hop] at hreport
    dsimp only at hreport
    split at hreport
    · rw [if_neg (fun hc => hc.2.2.1 rfl)] at hreport
      cases hreport
    · cases hreport

/-- After the check-in `c` of the agent restarted on the disk `d`: the job is completed if the
expected version runs before the deadline, and failed if the agent has rolled back. -/
def OutcomeReported (cfg : ServerConfig) (db : Db) (c : Call) (J : Codec PendingUpdate β)
    (jobID version : String) (expected : PendingUpdate) (platform : Platform) (rio : RestartIo)
    (d : Disk β) : Prop :=
  (version = expected.expectedVersion ∧ rio.now ≤ expected.deadline →
    HasStatus jobID .completed (c.after cfg db)) ∧
  ((postRestart J version platform rio d).1 = true → HasStatus jobID .failed (c.after cfg db))

/-- The outcome of an update is at the server after the next check-in exactly when it was there
before it. -/
theorem outcome_reported_iff {io : Io β} {p : AgentUpdatePayload} {old new : List β}
    {cfg : ServerConfig} {db : Db} {c : Call} {version : String} (platform : Platform)
    (rio : RestartIo) (hswap : Installs C A io p d old new) (hc : CheckedIn cfg db version c) :
    OutcomeReported cfg db c J jobID version (pendingUpdate A io.now jobID p) platform rio
        (executeAgentUpdate C J A io jobID (.ok p) d).2 ↔
      (version = p.version ∧ rio.now ≤ deadline A io.now → HasStatus jobID .completed db) ∧
      (NoteRollsBack J version rio
          (io.writePending.file (J.encode (pendingUpdate A io.now jobID p)) d.pending) ∧
        rio.rollback.stat = none ∧ rio.rollback.rename = none → HasStatus jobID .failed db) := by
  rw [OutcomeReported, hc.hasStatus rfl, hc.hasStatus rfl, executeAgentUpdate_of_installs hswap,
    postRestart_rolledBack (by simp [Disk.swapped])]
  rfl

namespace Sample

open Moebius.Sample in
def refusedDb : Db :=
  (call (result "d" "job_j" "restarting") 4 "m").after
    cfg updatedDb

open Moebius.Sample in
def completedDb : Db :=
  (call (result "d" "job_j" "completed") 4 "m").after
    cfg updatedDb

open Moebius.Sample in
/-- The first check-in after the restart, half a minute after the swap. -/
def restartCheckin (version : String) : Call :=
  call (.checkin (some (cert "d"))
    (some (finishCheckin (beginCheckin version .new).1 none))) (40 * second) "n"

def restartIo : RestartIo where
  now := 40 * second
  rollback := rollbackIo
  formatTime := fun _ => ""

lemma checkedIn : CheckedIn Moebius.Sample.cfg completedDb "2" (restartCheckin "2") where
  request := ⟨_, _, _, rfl⟩
  answered := ⟨⟨40 * second, []⟩, rfl⟩

end Sample

theorem completed_outcome_reported :
    OutcomeReported Moebius.Sample.cfg Sample.completedDb (Sample.restartCheckin "2") Sample.codec
      "job_j" "2" (pendingUpdate Sample.agent Sample.io.now "job_j" Sample.payload)
      { binaryPreviousPath := "agent.previous" } Sample.restartIo
      (executeAgentUpdate Sample.crypto Sample.codec Sample.agent Sample.io "job_j"
        (.ok Sample.payload) Sample.disk).2 := by
  refine (outcome_reported_iff _ Sample.restartIo Sample.installs Sample.checkedIn).mpr
    ⟨fun _ => ?_, ?_⟩
  · exact (map_eq_some_iff.mp
      (by decide : (Sample.completedDb.job? "job_j").map (·.status) = some .completed))
  · rintro ⟨⟨data, q, hdata, hq, -, hroll⟩, -⟩
    cases hdata
    cases hq
    exact absurd hroll (by decide)

open Moebius.Sample in
/-- Whether the new version runs in time or the agent rolls back, the job stays acknowledged. -/
theorem restarted_outcome_lost :
    let outcome := fun version =>
      OutcomeReported cfg Sample.refusedDb (Sample.restartCheckin version)
        Sample.codec "job_j" version
        (pendingUpdate Sample.agent Sample.io.now "job_j" Sample.payload)
        { binaryPreviousPath := "agent.previous" } Sample.restartIo
        (executeAgentUpdate Sample.crypto Sample.codec Sample.agent Sample.io "job_j"
          (.ok Sample.payload) Sample.disk).2
    ¬ outcome "2" ∧ ¬ outcome "1" := by
  have hstatus : ∀ version ∈ ["2", "1"], (((Sample.restartCheckin version).after
      cfg Sample.refusedDb).job? "job_j").map (·.status) =
        some .acknowledged := by decide
  have hno : ∀ version ∈ ["2", "1"], ∀ s, HasStatus "job_j" s ((Sample.restartCheckin
      version).after cfg Sample.refusedDb) → s = .acknowledged := by
    rintro version hv s ⟨j, hj, hs⟩
    have h := hstatus version hv
    rw [hj] at h
    exact hs.symm.trans (some.inj h)
  constructor
  · intro h
    cases hno "2" (by simp) _ (h.1 (by decide))
  · intro h
    cases hno "1" (by simp) _ (h.2 (by decide))

end Moebius.Update
