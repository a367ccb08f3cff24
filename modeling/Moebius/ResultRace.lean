import Moebius.RetryGaps
import Moebius.Terminal

/-!
Results submitted side by side.

A submission reads the job, inserts the result and then updates the job, each with a statement of
its own. Two submissions that have both read the job before either of them has updated it store two
results, and a failed update leaves a result behind that the request denies.
-/

namespace Moebius.AgentJobs

open Proc Pool List Option Table

structure Submission where
  env : Env
  who : AgentIdentity
  jobID : String
  body : Option JobResultSubmission

structure Found where
  req : JobResultSubmission
  target : JobStatus
  job : JobRow

namespace Submission

variable (r : Submission) (req : JobResultSubmission) (g : Found) (target : JobStatus)

/-- The check of the transition, once the job has been read. -/
def decideOn : Option (Option JobRow) → Proc Db (Except (Reply Unit) Found)
  | none => pure (.error (.err 500 "failed to get job"))
  | some none => pure (.error (.err 404 "job not found"))
  | some (some j) =>
    match validateTransition (effectiveStatus j.status) target with
    | .error msg => pure (.error (.error 409 "invalid_transition" msg))
    | .ok () => pure (.ok { req, target, job := j })

def lookup : Proc Db (Except (Reply Unit) Found) := do
  decideOn req target (← read (agentJob r.who r.jobID))

def check : Proc Db (Except (Reply Unit) Found) :=
  match r.body with
  | none => pure (.error (.err 400 "invalid request body"))
  | some req =>
    match targetStatus req.status with
    | none => pure (.error (.err 400 "invalid status: must be completed, failed, or timed_out"))
    | some target => r.lookup req target

def act : Proc Db (Reply Unit) :=
  recordResult r.env r.who r.jobID g.req g.target g.job

def task : Task Db Found (Reply Unit) := ⟨r.check, r.act⟩

lemma whole_task : r.task.whole = submitResult r.env r.who r.jobID r.body := by
  unfold Task.whole task check submitResult
  rcases r.body with _ | req
  · rfl
  dsimp only
  rcases targetStatus req.status with _ | target
  · rfl
  dsimp only [lookup]
  rw [bind_eq, bind_eq, Proc.bind_assoc]
  congr 1
  funext found
  rcases found with _ | _ | j
  · rfl
  · rfl
  · dsimp only [decideOn]
    rcases validateTransition (effectiveStatus j.status) target with msg | _ <;> rfl

def resultRow : JobResultRow :=
  { id := r.env.newJobResultID 0, jobID := r.jobID, exitCode := g.req.exitCode
    stdout := g.req.stdout, stderr := g.req.stderr, startedAt := g.req.startedAt
    completedAt := g.req.completedAt }

def finishJob : JobUpdate :=
  .finish r.jobID g.target r.env.now g.req.message g.req.startedAt

def update (g : Found) : Proc Db (Reply Unit) := do
  if ← exec (Db.updateJobs (r.finishJob g)) then
    afterResult r.env r.who r.jobID g.req g.target g.job
  else pure (.err 500 "failed to update job")

lemma step_lookup (req : JobResultSubmission) (target : JobStatus) (db : Db) :
    r.task.step false db (.checking (r.lookup req target)) =
      (db, r.task.settle (decideOn req target (some (agentJob r.who r.jobID db)))) := rfl

lemma step_act (g : Found) (db : Db) : r.task.step false db (.acting g (r.act g)) =
      ((db.insertResult (r.resultRow g)).getD db,
        .acting g (if (db.insertResult (r.resultRow g)).isSome then r.update g
          else done (.err 500 "failed to store result"))) := rfl

/-- The submission asks for what it has found. -/
def Fits : Prop := r.body = some g.req ∧ targetStatus g.req.status = some g.target

variable {r} in
lemma Fits.terminal {g : Found} (h : r.Fits g) : isTerminalStatus g.target = true := by
  rcases targetStatus_terminal h.2 with ht | ht | ht <;> rw [ht] <;> rfl

end Submission

/-! ### What comes after the update -/

structure Keeps (a b : Db) : Prop where
  results : b.jobResults = a.jobResults
  jobs : ∀ id j, a.job? id = some j → b.job? id = some j

lemma Keeps.refl (a : Db) : Keeps a a := ⟨rfl, fun _ _ h => h⟩

lemma Keeps.inventory {a b : Db} {D : String} (h : InventoryStep D a b) : Keeps a b := by
  rw [h.eq]
  exact ⟨rfl, fun _ _ hj => hj⟩

lemma Keeps.insertJob {a b : Db} {row : JobRow} (h : a.insertJob row = some b) : Keeps a b := by
  obtain ⟨⟨jobs, hjobs, rfl⟩, -⟩ := Db.insertJob_eq_some h
  exact ⟨rfl, fun _ _ hj => get?_insert_of_some hjobs hj⟩

section

variable (env : Env) (who : AgentIdentity) (jobID : String) (req : JobResultSubmission)
  (target : JobStatus) (j : JobRow)

lemma each_keeps_afterResult : (afterResult env who jobID req target j).Each Keeps := by
  refine each_bind (each_mono (fun _ _ => Keeps.inventory) each_storeInventory) fun _ => ?_
  refine each_bind (each_logAction fun _ _ => ⟨rfl, fun _ _ h => h⟩) fun _ => ?_
  exact each_bind (each_retryIfAllowed Keeps.refl fun _ _ _ => Keeps.insertJob) fun _ => trivial

lemma returns_afterResult :
    (afterResult env who jobID req target j).Returns fun a => a = .ok 204 () := by
  refine returns_bind (returns_of_forall (fun _ => ?_) _)
  refine returns_bind (returns_of_forall (fun _ => ?_) _)
  exact returns_bind (returns_of_forall (fun _ => rfl) _)

end

/-! ### Where a submission stands -/

inductive Kind
  | waiting
  | storing (g : Found)
  | updating (g : Found)
  | stored (g : Found)
  | refused

inductive Stands (r : Submission) : Stage Db Found (Reply Unit) → Kind → Prop
  | waiting {req : JobResultSubmission} {target : JobStatus} (hbody : r.body = some req)
      (htarget : targetStatus req.status = some target) :
      Stands r (.checking (r.lookup req target)) .waiting
  | storing {g : Found} (h : r.Fits g) : Stands r (.acting g (r.act g)) (.storing g)
  | updating {g : Found} (h : r.Fits g) : Stands r (.acting g (r.update g)) (.updating g)
  | closing {g : Found} {p : Proc Db (Reply Unit)} (h : r.Fits g) (hkeeps : p.Each Keeps)
      (hreturns : p.Returns fun a => a = .ok 204 ()) : Stands r (.acting g p) (.stored g)
  | stored {g : Found} (h : r.Fits g) : Stands r (.finished (.ok 204 ())) (.stored g)
  | turnedAway {a : Reply Unit} (h : a ≠ .ok 204 ()) :
      Stands r (.checking (done (.error a))) .refused
  | failed {g : Found} {a : Reply Unit} (h : a ≠ .ok 204 ()) :
      Stands r (.acting g (done a)) .refused
  | refused {a : Reply Unit} (h : a ≠ .ok 204 ()) : Stands r (.finished a) .refused

/-- What a step of the submission does to the database and to its kind. -/
inductive Moves (r : Submission) (fault : Bool) (db : Db) : Kind → Db → Kind → Prop
  | turnedAway : Moves r fault db .waiting db .refused
  | found {g : Found} (hj : agentJob r.who r.jobID db = some g.job)
      (hv : validateTransition (effectiveStatus g.job.status) g.target = .ok ()) :
      Moves r fault db .waiting db (.storing g)
  | failed {g : Found} : Moves r fault db (.storing g) db .refused
  | stored {g : Found} {db' : Db} (h : db.insertResult (r.resultRow g) = some db') :
      Moves r fault db (.storing g) db' (.updating g)
  | lost {g : Found} (h : fault = true) : Moves r fault db (.updating g) db .refused
  | updated {g : Found} : Moves r fault db (.updating g) (db.updateJobs (r.finishJob g)) (.stored g)
  | closed {g : Found} {db' : Db} (h : Keeps db db') : Moves r fault db (.stored g) db' (.stored g)
  | refused : Moves r fault db .refused db .refused

section

variable {r : Submission} {st : Stage Db Found (Reply Unit)} {k : Kind} {g : Found}

lemma stands_start : Stands r r.task.start .waiting ∨ Stands r r.task.start .refused := by
  have herror (n : ℕ) (msg : String) : (Reply.err n msg : Reply Unit) ≠ .ok 204 () := nofun
  unfold Task.start Submission.task Submission.check
  rcases hbody : r.body with _ | req
  · exact .inr (.turnedAway (herror _ _))
  dsimp only
  rcases htarget : targetStatus req.status with _ | target
  · exact .inr (.turnedAway (herror _ _))
  · exact .inl (.waiting hbody htarget)

/-- **Every step** of a submission is one of the moves. -/
lemma Stands.step (h : Stands r st k) (fault : Bool) (db : Db) :
    ∃ k', Stands r (r.task.step fault db st).2 k' ∧
      Moves r fault db k (r.task.step fault db st).1 k' := by
  have herr (n : ℕ) (code msg : String) : (Reply.error n code msg : Reply Unit) ≠ .ok 204 () :=
    nofun
  cases h with
  | @waiting req target hbody htarget =>
    cases fault with
    | true => exact ⟨_, .turnedAway (herr _ _ _), .turnedAway⟩
    | false =>
      rw [r.step_lookup]
      rcases hj : agentJob r.who r.jobID db with _ | j
      · exact ⟨_, .turnedAway (herr _ _ _), .turnedAway⟩
      · dsimp only [Submission.decideOn]
        rcases hv : validateTransition (effectiveStatus j.status) target with msg | _
        · exact ⟨_, .turnedAway (herr _ _ _), .turnedAway⟩
        · exact ⟨.storing ⟨req, target, j⟩, .storing ⟨hbody, htarget⟩, .found hj hv⟩
  | @storing g hfits =>
    cases fault with
    | true => exact ⟨_, .failed (herr _ _ _), .failed⟩
    | false =>
      rw [r.step_act]
      rcases hins : db.insertResult (r.resultRow g) with _ | db'
      · exact ⟨_, .failed (herr _ _ _), .failed⟩
      · exact ⟨_, .updating hfits, .stored hins⟩
  | @updating g hfits =>
    cases fault with
    | true => exact ⟨_, .failed (herr _ _ _), .lost rfl⟩
    | false =>
      exact ⟨_, .closing hfits (each_keeps_afterResult _ _ _ _ _ _)
        (returns_afterResult _ _ _ _ _ _), .updated⟩
  | @closing g p hfits hkeeps hreturns =>
    rcases p with a | ⟨w, next, fail⟩
    · have ha : a = .ok 204 () := hreturns
      subst ha
      exact ⟨_, .stored hfits, .closed (.refl db)⟩
    · cases fault with
      | true => exact ⟨_, .closing hfits hkeeps.2 hreturns.2, .closed (.refl db)⟩
      | false => exact ⟨_, .closing hfits (hkeeps.1 db).2 (hreturns.1 db), .closed (hkeeps.1 db).1⟩
  | stored hfits => exact ⟨_, .stored hfits, .closed (.refl db)⟩
  | turnedAway ha | failed ha | refused ha => exact ⟨_, .refused ha, .refused⟩

lemma Stands.eq_of_updating (h : Stands r st (.updating g)) : st = .acting g (r.update g) := by
  cases h with
  | updating => rfl

lemma Stands.fits (h : Stands r st (.stored g)) : r.Fits g := by
  cases h with
  | closing hfits | stored hfits => exact hfits

lemma Stands.next (h : Stands r st k) (fault : Bool) (db : Db) :
    ∃ db' st' k', r.task.step fault db st = (db', st') ∧ Stands r st' k' ∧
      Moves r fault db k db' k' := by
  obtain ⟨k', hstands, hmoves⟩ := h.step fault db
  exact ⟨_, _, k', rfl, hstands, hmoves⟩

end

/-! ### Side by side -/

abbrev Intake := Pool Submission Db Found (Reply Unit)

def resultsOf (id : String) (db : Db) : List JobResultRow :=
  db.jobResults.rows.filter fun row => row.jobID = id

variable (r : Submission) (st : Stage Db Found (Reply Unit))

def Critical : Prop :=
  ∃ g, st = .acting g (r.act g) ∨ st = .acting g (r.update g)

/-- No update fails, and a submission reads its job only when no other one for this job is between
its check and its update. -/
def Orderly (s : Intake) : Action Submission → Prop
  | .spawn _ => True
  | .step i fault => ∀ r st, s.threads[i]? = some (r, st) →
    (∀ g, st = .acting g (r.update g) → fault = false) ∧
      ∀ p, st = .checking p → ∀ x ∈ s.threads, x.1.jobID = r.jobID → ¬ Critical x.1 x.2

/-- The submission has not got past its check, or has failed. -/
def Idle : Prop :=
  Stands r st .waiting ∨ Stands r st .refused

/-- How far the submission has come that has the job to itself. -/
inductive Holds (id : String) (db : Db) (r : Submission) (st : Stage Db Found (Reply Unit)) : Prop
  | storing {g : Found} (hstands : Stands r st (.storing g)) (hresults : resultsOf id db = [])
  | updating {g : Found} (hstands : Stands r st (.updating g))
      (hresults : resultsOf id db = [r.resultRow g]) (hjob : (db.job? id).isSome)
  | stored {g : Found} (hstands : Stands r st (.stored g))
      (hresults : resultsOf id db = [r.resultRow g]) (hstatus : HasStatus id g.target db)

def OthersIdle (id : String) (s : Intake) (holder : Option ℕ) : Prop :=
  ∀ (k : ℕ) r st, some k ≠ holder → s.threads[k]? = some (r, st) → r.jobID = id → Idle r st

/-- Nobody has got past the check, or one has and no other one since. -/
inductive Phase (id : String) (s : Intake) : Prop
  | free (hresults : resultsOf id s.state = []) (hidle : OthersIdle id s none)
  | held (i : ℕ) {r : Submission} {st : Stage Db Found (Reply Unit)}
      (hi : s.threads[i]? = some (r, st)) (hid : r.jobID = id) (h : Holds id s.state r st)
      (hidle : OthersIdle id s (some i))

variable {fault : Bool} {id : String}

section

variable {r : Submission} {st : Stage Db Found (Reply Unit)} {db db' : Db} {k k' : Kind}

lemma Keeps.resultsOf (h : Keeps db db') : resultsOf id db' = resultsOf id db := by
  rw [AgentJobs.resultsOf, h.results]
  rfl

lemma Keeps.hasStatus {status : JobStatus} (h : Keeps db db') (hs : HasStatus id status db) :
    HasStatus id status db' := by
  obtain ⟨j, hj, hstatus⟩ := hs
  exact ⟨j, h.jobs id j hj, hstatus⟩

lemma resultsOf_insertResult {row : JobResultRow} (h : db.insertResult row = some db') :
    resultsOf id db' = resultsOf id db ++ (if row.jobID = id then [row] else []) ∧
      db'.jobs = db.jobs ∧ (db.job? row.jobID).isSome := by
  obtain ⟨hc, t, ht, rfl⟩ := eq_some_of_guard h
  refine ⟨?_, rfl, hc.1⟩
  rw [resultsOf, resultsOf, rows_of_insert ht, filter_append, filter_singleton,
    Bool.cond_decide]

lemma Moves.other (h : Moves r fault db k db' k') (hne : r.jobID ≠ id) :
    resultsOf id db' = resultsOf id db ∧ ∀ j, db.job? id = some j → db'.job? id = some j := by
  cases h with
  | stored hins =>
    obtain ⟨hresults, hjobs, -⟩ := resultsOf_insertResult hins
    refine ⟨?_, fun j hj => by rw [Db.job?, hjobs]; exact hj⟩
    rw [hresults]
    exact (congrArg _ (if_neg hne)).trans (append_nil _)
  | @updated g =>
    refine ⟨rfl, fun j hj => ?_⟩
    have hid : j.id ≠ r.jobID := fun h => hne (h.symm.trans (key_of_get? hj))
    rw [Db.job?_updateJobs, hj, map_some, Submission.finishJob, JobUpdate.onRow, if_neg hid]
  | closed hkeeps => exact ⟨hkeeps.resultsOf, hkeeps.jobs id⟩
  | _ => exact ⟨rfl, fun _ hj => hj⟩

lemma Holds.congr (h : Holds id db r st) (hresults : resultsOf id db' = resultsOf id db)
    (hjob : ∀ j, db.job? id = some j → db'.job? id = some j) : Holds id db' r st := by
  cases h with
  | storing hs hr => exact .storing hs (hresults.trans hr)
  | updating hs hr hj =>
    obtain ⟨j, hj⟩ := isSome_iff_exists.mp hj
    exact .updating hs (hresults.trans hr) (by rw [hjob j hj]; rfl)
  | stored hs hr hj =>
    obtain ⟨j, hj, hstatus⟩ := hj
    exact .stored hs (hresults.trans hr) ⟨j, hjob j hj, hstatus⟩

lemma Idle.step (h : Idle r st) (fault : Bool) (db : Db) :
    (r.task.step fault db st).1 = db ∧ (Idle r (r.task.step fault db st).2 ∨
      ∃ g, Stands r (r.task.step fault db st).2 (.storing g) ∧ (∃ p, st = .checking p) ∧
        ∃ j, db.job? r.jobID = some j ∧ (j.status = .acknowledged ∨ j.status = .running)) := by
  rcases h with h | h
  · obtain ⟨db', st', k', hstep, hstands, hmoves⟩ := h.next fault db
    rw [hstep]
    cases hmoves with
    | turnedAway => exact ⟨rfl, .inl (.inr hstands)⟩
    | @found g hj hv =>
      have hfits : r.Fits g := by
        cases hstands with
        | storing hfits => exact hfits
      have hchecking : ∃ p, st = .checking p := by
        cases h with
        | waiting => exact ⟨_, rfl⟩
      have hrow : db.job? r.jobID = some g.job := (filter_eq_some_iff.mp hj).1
      exact ⟨rfl, .inr ⟨g, hstands, hchecking, g.job, hrow,
        inflight_of_validate (targetStatus_terminal hfits.2) hv⟩⟩
  · obtain ⟨db', st', k', hstep, hstands, hmoves⟩ := h.next fault db
    rw [hstep]
    cases hmoves with
    | refused => exact ⟨rfl, .inl (.inr hstands)⟩

lemma Holds.step (h : Holds id db r st) (hid : r.jobID = id)
    (hfault : ∀ g, st = .acting g (r.update g) → fault = false) :
    Holds id (r.task.step fault db st).1 r (r.task.step fault db st).2 ∨
      resultsOf id (r.task.step fault db st).1 = [] ∧ Idle r (r.task.step fault db st).2 := by
  cases h with
  | @storing g h hresults =>
    obtain ⟨db', st', k', hstep, hstands, hmoves⟩ := h.next fault db
    rw [hstep]
    cases hmoves with
    | failed => exact .inr ⟨hresults, .inr hstands⟩
    | stored hins =>
      obtain ⟨hrows, hjobs, hjob⟩ := resultsOf_insertResult hins
      refine .inl (.updating hstands ?_ ?_)
      · rw [hrows, hresults, nil_append]
        exact if_pos hid
      · rw [Db.job?, hjobs]
        exact hid ▸ hjob
  | @updating g h hresults hjob =>
    have hst := h.eq_of_updating
    obtain ⟨db', st', k', hstep, hstands, hmoves⟩ := h.next fault db
    rw [hstep]
    cases hmoves with
    | lost hlost =>
      rw [hfault g hst] at hlost
      cases hlost
    | updated =>
      obtain ⟨j, hj⟩ := isSome_iff_exists.mp hjob
      have hkey : j.id = r.jobID := (key_of_get? hj).trans hid.symm
      refine .inl (.stored hstands hresults ⟨(r.finishJob g).onRow j, ?_, ?_⟩)
      · rw [Db.job?_updateJobs, hj, map_some]
      · rw [Submission.finishJob, JobUpdate.onRow, if_pos hkey]
  | @stored g h hresults hstatus =>
    obtain ⟨db', st', k', hstep, hstands, hmoves⟩ := h.next fault db
    rw [hstep]
    cases hmoves with
    | closed hkeeps =>
      exact .inl (.stored hstands (hkeeps.resultsOf.trans hresults) (hkeeps.hasStatus hstatus))

end

section

variable {s : Intake} {a : Action Submission}

/-- Every thread stands somewhere, and one of them at most has the job. -/
structure Inv (id : String) (s : Intake) : Prop where
  stands : ∀ x ∈ s.threads, ∃ k, Stands x.1 x.2 k
  phase : Phase id s

lemma OthersIdle.spawn {holder : Option ℕ} {r : Submission} (h : OthersIdle id s holder) :
    OthersIdle id (s.after Submission.task (.spawn r)) holder := by
  intro k r' st hne hk hid
  rcases old_or_started Submission.task hk with hk | hk
  · exact h k r' st hne hk hid
  · cases hk
    exact stands_start

lemma phase_spawn {r : Submission} (h : Phase id s) :
    Phase id (s.after Submission.task (.spawn r)) := by
  cases h with
  | free hresults h => exact .free hresults h.spawn
  | held i hi hid hholds h =>
    exact .held i (getElem?_after_spawn Submission.task r hi) hid hholds h.spawn

variable {i : ℕ} {r : Submission} {st : Stage Db Found (Reply Unit)}

lemma phase_other (hi : s.threads[i]? = some (r, st)) (hstands : ∃ k, Stands r st k)
    (hne : r.jobID ≠ id) (h : Phase id s) : Phase id (s.after Submission.task (.step i fault)) := by
  obtain ⟨k, hk⟩ := hstands
  obtain ⟨k', -, hmoves⟩ := hk.step fault s.state
  obtain ⟨hresults, hjob⟩ := hmoves.other hne
  rw [← state_after_step Submission.task fault hi] at hresults hjob
  have hold {m : ℕ} {r' : Submission} {st' : Stage Db Found (Reply Unit)}
      (hm : (s.after Submission.task (.step i fault)).threads[m]? = some (r', st'))
      (hid : r'.jobID = id) : s.threads[m]? = some (r', st') := by
    rw [getElem?_after_step Submission.task fault hi] at hm
    split at hm
    · cases hm
      exact absurd hid hne
    · exact hm
  cases h with
  | free hnone hidle =>
    exact .free (hresults.trans hnone) fun m r' st' hno hm hid =>
      hidle m r' st' hno (hold hm hid) hid
  | held m hm hid hholds hidle =>
    have hmi : i ≠ m := by
      rintro rfl
      cases hi.symm.trans hm
      exact hne hid
    refine .held m ?_ hid (hholds.congr hresults hjob) fun n r' st' hnm hn hid' =>
      hidle n r' st' hnm (hold hn hid') hid'
    rw [getElem?_after_step Submission.task fault hi, if_neg hmi]
    exact hm

lemma Holds.critical {db : Db} (h : Holds id db r st) :
    Critical r st ∨ ∃ status, isTerminalStatus status = true ∧ HasStatus id status db := by
  cases h with
  | storing h =>
    cases h
    exact .inl ⟨_, .inl rfl⟩
  | updating h =>
    cases h
    exact .inl ⟨_, .inr rfl⟩
  | @stored g h _ hstatus => exact .inr ⟨g.target, h.fits.terminal, hstatus⟩

lemma idle_of_held {m : ℕ} {r' : Submission} {st' : Stage Db Found (Reply Unit)}
    (hsafe : Orderly s (.step i fault)) (hi : s.threads[i]? = some (r, st)) (hid : r.jobID = id)
    (hidle : Idle r st) (hm : s.threads[m]? = some (r', st')) (hid' : r'.jobID = id)
    (hholds : Holds id s.state r' st') : Idle r (r.task.step fault s.state st).2 := by
  rcases (hidle.step fault s.state).2 with h | ⟨g, -, ⟨p, hp⟩, j, hj, hstatus⟩
  · exact h
  rcases hholds.critical with hcritical | ⟨status, hterminal, j', hj', hs⟩
  · exact absurd hcritical ((hsafe r st hi).2 p hp (r', st') (mem_of_getElem? hm)
      (hid'.trans hid.symm))
  · rw [hid] at hj
    cases hj.symm.trans hj'
    rw [hs] at hstatus
    rcases hstatus with rfl | rfl <;> cases hterminal

/-- Only the thread that steps may become the holder or cease to be it. -/
lemma OthersIdle.step {holder holder' : Option ℕ} (h : OthersIdle id s holder)
    (hi : s.threads[i]? = some (r, st))
    (hsame : ∀ k, k ≠ i → some k ≠ holder' → some k ≠ holder)
    (hself : some i ≠ holder' → Idle r (r.task.step fault s.state st).2) :
    OthersIdle id (s.after Submission.task (.step i fault)) holder' := by
  intro k r' st' hne hk hid
  rw [getElem?_after_step Submission.task fault hi] at hk
  split at hk
  · rename_i hik
    subst hik
    cases hk
    exact hself hne
  · rename_i hik
    exact h k r' st' (hsame k (Ne.symm hik) hne) hk hid

lemma phase_free (hi : s.threads[i]? = some (r, st)) (hid : r.jobID = id)
    (hnone : resultsOf id s.state = []) (hidle : OthersIdle id s none) :
    Phase id (s.after Submission.task (.step i fault)) := by
  have hstep := (hidle i r st (some_ne_none i) hi hid).step fault s.state
  have hresults : resultsOf id (s.after Submission.task (.step i fault)).state = [] := by
    rw [state_after_step Submission.task fault hi, hstep.1]
    exact hnone
  rcases hstep.2 with hstill | ⟨g, hstoring, -⟩
  · exact .free hresults (hidle.step hi (fun _ _ h => h) fun _ => hstill)
  · refine .held i ?_ hid (.storing hstoring hresults)
      (hidle.step hi (fun k _ _ => some_ne_none k) fun hne => absurd rfl hne)
    rw [getElem?_after_step Submission.task fault hi, if_pos rfl]

lemma phase_holder (hsafe : Orderly s (.step i fault)) (hi : s.threads[i]? = some (r, st))
    (hid : r.jobID = id) (hholds : Holds id s.state r st) (hidle : OthersIdle id s (some i)) :
    Phase id (s.after Submission.task (.step i fault)) := by
  have hself := getElem?_after_step Submission.task fault hi i
  rw [if_pos rfl] at hself
  rcases hholds.step hid (hsafe r st hi).1 with hnext | ⟨hnone, hfailed⟩
  · rw [← state_after_step Submission.task fault hi] at hnext
    exact .held i hself hid hnext (hidle.step hi (fun _ _ h => h) fun hne => absurd rfl hne)
  · rw [← state_after_step Submission.task fault hi] at hnone
    exact .free hnone (hidle.step hi (fun _ hne _ => mt some.inj hne) fun _ => hfailed)

lemma phase_same (hsafe : Orderly s (.step i fault)) (hi : s.threads[i]? = some (r, st))
    (hid : r.jobID = id) (h : Phase id s) : Phase id (s.after Submission.task (.step i fault)) := by
  cases h with
  | free hnone hidle => exact phase_free hi hid hnone hidle
  | held m hm hid' hholds hidle =>
    by_cases hmi : m = i
    · subst hmi
      cases hi.symm.trans hm
      exact phase_holder hsafe hi hid hholds hidle
    · -- another one has the job, so nothing changes
      have hthis := hidle i r st (mt some.inj (Ne.symm hmi)) hi hid
      have hstate : (s.after Submission.task (.step i fault)).state = s.state := by
        rw [state_after_step Submission.task fault hi, (hthis.step fault s.state).1]
      refine .held m ?_ hid' (by rw [hstate]; exact hholds)
        (hidle.step hi (fun _ _ h => h) fun _ => idle_of_held hsafe hi hid hthis hm hid' hholds)
      rw [getElem?_after_step Submission.task fault hi, if_neg (Ne.symm hmi)]
      exact hm

lemma inv_after (hsafe : Orderly s a) (h : Inv id s) : Inv id (s.after Submission.task a) where
  stands := threads_after Submission.task (P := fun x => ∃ k, Stands x.1 x.2 k)
    (fun r => stands_start.elim (fun h => ⟨_, h⟩) fun h => ⟨_, h⟩)
    (fun r st fault ⟨_, hk⟩ => (hk.step fault s.state).imp fun _ h => h.1) h.stands a
  phase := by
    cases a with
    | spawn r => exact phase_spawn h.phase
    | step i fault =>
      rcases hi : s.threads[i]? with _ | ⟨r, st⟩
      · rw [after_step_of_none Submission.task fault hi]
        exact h.phase
      by_cases hid : r.jobID = id
      · exact phase_same hsafe hi hid h.phase
      · exact phase_other hi (h.stands _ (mem_of_getElem? hi)) hid h.phase

def Stored (r : Submission) (st : Stage Db Found (Reply Unit)) : Prop :=
  ∃ g, Stands r st (.updating g) ∨ Stands r st (.stored g)

lemma Stored.after (hsafe : Orderly s a) (hi : s.threads[i]? = some (r, st)) (h : Stored r st) :
    ∃ st', (s.after Submission.task a).threads[i]? = some (r, st') ∧ Stored r st' := by
  cases a with
  | spawn r' => exact ⟨st, getElem?_after_spawn Submission.task _ hi, h⟩
  | step m fault =>
    rcases hm : s.threads[m]? with _ | ⟨r', st'⟩
    · rw [after_step_of_none Submission.task fault hm]
      exact ⟨st, hi, h⟩
    by_cases hmi : m = i
    swap
    · rw [getElem?_after_step Submission.task fault hm, if_neg hmi]
      exact ⟨st, hi, h⟩
    subst hmi
    cases hi.symm.trans hm
    rw [getElem?_after_step Submission.task fault hi, if_pos rfl]
    refine ⟨_, rfl, ?_⟩
    obtain ⟨g, hup | hstored⟩ := h
    · have hst := hup.eq_of_updating
      obtain ⟨db', st', k', hstep, hstands, hmoves⟩ := hup.next fault s.state
      rw [hstep]
      cases hmoves with
      | lost hlost =>
        rw [(hsafe r st hi).1 g hst] at hlost
        cases hlost
      | updated => exact ⟨g, .inr hstands⟩
    · obtain ⟨db', st', k', hstep, hstands, hmoves⟩ := hstored.next fault s.state
      rw [hstep]
      cases hmoves with
      | closed => exact ⟨g, .inr hstands⟩

lemma Stored.run {acts : List (Action Submission)}
    (hsafe : Admissible Submission.task Orderly s acts) (hi : s.threads[i]? = some (r, st))
    (h : Stored r st) :
    ∃ st', (s.run Submission.task acts).threads[i]? = some (r, st') ∧ Stored r st' := by
  induction acts generalizing s st with
  | nil => exact ⟨st, hi, h⟩
  | cons a acts ih =>
    obtain ⟨st', hi', h'⟩ := h.after hsafe.1 hi
    exact ih hsafe.2 hi' h'

lemma stored_of_change {k : Kind} (hi : s.threads[i]? = some (r, st)) (hk : Stands r st k) :
    (s.after Submission.task (.step i fault)).state = s.state ∨
      Stored r (r.task.step fault s.state st).2 := by
  rw [state_after_step Submission.task fault hi]
  obtain ⟨db', st', k', hstep, hstands, hmoves⟩ := hk.next fault s.state
  rw [hstep]
  cases hmoves with
  | stored => exact .inr ⟨_, .inl hstands⟩
  | updated | closed => exact .inr ⟨_, .inr hstands⟩
  | _ => exact .inl rfl

lemma state_after_of_refused {post : List (Action Submission)} {b : Reply Unit}
    (hstands : ∀ x ∈ s.threads, ∃ k, Stands x.1 x.2 k)
    (hsafe : Admissible Submission.task Orderly s (.step i fault :: post))
    (hend : (s.run Submission.task (.step i fault :: post)).threads[i]? = some (r, .finished b))
    (hanswer : b ≠ .ok 204 ()) : (s.after Submission.task (.step i fault)).state = s.state := by
  rcases hi : s.threads[i]? with _ | ⟨r', st⟩
  · rw [after_step_of_none Submission.task fault hi]
  obtain ⟨k, hk⟩ := hstands _ (mem_of_getElem? hi)
  rcases stored_of_change hi hk with hsame | hstored
  · exact hsame
  -- a submission that has stored its result is answered with 204
  · have hi' := getElem?_after_step Submission.task fault hi i
    rw [if_pos rfl] at hi'
    obtain ⟨st', hlast, g, hfinal⟩ := hstored.run hsafe.2 hi'
    rw [run_cons, hlast] at hend
    cases hend
    rcases hfinal with h | h
    · cases h
    · cases h with
      | stored => exact absurd rfl hanswer

lemma Phase.length_le (h : Phase id s) : (resultsOf id s.state).length ≤ 1 := by
  cases h with
  | free hresults _ => simp [hresults]
  | held i hi hid hholds _ => cases hholds <;> simp [*]

lemma Phase.exists_thread (h : Phase id s) {row : JobResultRow}
    (hrow : row ∈ resultsOf id s.state) :
    ∃ (i : ℕ) (r : Submission) (st : Stage Db Found (Reply Unit)) (g : Found),
      s.threads[i]? = some (r, st) ∧ r.jobID = id ∧ r.Fits g ∧ row = r.resultRow g ∧
        (HasStatus id g.target s.state ∨ st = .acting g (r.update g)) := by
  cases h with
  | free hresults _ =>
    rw [hresults] at hrow
    cases hrow
  | @held i r st hi hid hholds _ =>
    cases hholds with
    | storing _ hresults =>
      rw [hresults] at hrow
      cases hrow
    | @updating g hstands hresults _ =>
      rw [hresults, mem_singleton] at hrow
      cases hstands with
      | updating hfits => exact ⟨i, r, _, g, hi, hid, hfits, hrow, .inr rfl⟩
    | @stored g hstands hresults hstatus =>
      rw [hresults, mem_singleton] at hrow
      exact ⟨i, r, _, g, hi, hid, hstands.fits, hrow, .inl hstatus⟩

end

/-- **When results are recorded atomically and once.** If no update fails, and no submission reads
the job while another one is between its check and its update: there is never more than one result,
that of a submission whose status the job shows or is about to show; and a submission that is not
answered with 204 has changed nothing. -/
theorem results_recorded_once (id : String) (db : Db) (hnone : resultsOf id db = [])
    (acts : List (Action Submission))
    (hsafe : Admissible Submission.task Orderly ⟨db, []⟩ acts) :
    let s := Pool.run Submission.task ⟨db, []⟩ acts
    (resultsOf id s.state).length ≤ 1 ∧
      (∀ row ∈ resultsOf id s.state, ∃ (i : ℕ) (r : Submission) (st : Stage Db Found (Reply Unit))
        (g : Found), s.threads[i]? = some (r, st) ∧ r.jobID = id ∧ r.Fits g ∧
          row = r.resultRow g ∧ (HasStatus id g.target s.state ∨ st = .acting g (r.update g))) ∧
      ∀ (pre post : List (Action Submission)) (i : ℕ) (fault : Bool) (r : Submission)
        (a : Reply Unit), acts = pre ++ .step i fault :: post →
        s.threads[i]? = some (r, .finished a) → a ≠ .ok 204 () →
        (Pool.run Submission.task ⟨db, []⟩ (pre ++ [.step i fault])).state =
          (Pool.run Submission.task ⟨db, []⟩ pre).state := by
  have hinv (acts : List (Action Submission))
      (hsafe : Admissible Submission.task Orderly ⟨db, []⟩ acts) :
      Inv id (Pool.run Submission.task ⟨db, []⟩ acts) :=
    hsafe.invariant (fun _ _ => inv_after)
      ⟨fun x hx => (by cases hx), .free hnone fun k r st _ hk => (by cases hk)⟩
  intro s
  refine ⟨(hinv acts hsafe).phase.length_le, fun row => (hinv acts hsafe).phase.exists_thread, ?_⟩
  rintro pre post i fault r a rfl hend hanswer
  obtain ⟨hpre, hpost⟩ := Along.append.mp hsafe
  have hlast : ((Pool.run Submission.task ⟨db, []⟩ pre).run Submission.task
      (.step i fault :: post)).threads[i]? = some (r, .finished a) := by
    rw [← run_append]
    exact hend
  rw [run_append]
  exact state_after_of_refused (hinv pre hpre).stands hpost hlast hanswer

namespace Sample

def job : JobRow :=
  { id := "j", tenantID := "t", deviceID := "d", type := .exec, status := .acknowledged
    payload := "run", retryPolicy := none, retryCount := 0, maxRetries := 0, createdBy := none
    createdAt := 0 }

def db : Db := { Moebius.Sample.db with jobs := ⟨[job], by decide⟩ }

def submission (salt status : String) : Submission where
  env := Moebius.Sample.env 10 salt
  who := { agentID := "d", tenantID := "t" }
  jobID := "j"
  body := some { status }

def submit (salt status : String) : Action Submission := .spawn (submission salt status)

/-- The first cannot read the job; the second reads it, stores the result, updates the job, writes
the audit log and answers. -/
def inTurn : List (Action Submission) :=
  [submit "a" "completed", submit "b" "failed", .step 0 true, .step 1 false, .step 1 false,
    .step 1 false, .step 1 false, .step 1 false]

def acting : Stage Db Found (Reply Unit) → Bool
  | .acting _ _ => true
  | _ => false

def denied : List (Action Submission) :=
  [submit "a" "completed", .step 0 false, .step 0 false, .step 0 true, .step 0 false]

/-- Both read the job before either of them updates it. -/
def together : List (Action Submission) :=
  [submit "a" "completed", submit "b" "failed", .step 0 false, .step 1 false, .step 0 false,
    .step 1 false, .step 0 false, .step 1 false]

end Sample

lemma orderly_of {s : Intake} {i : ℕ} {fault : Bool} {r : Submission}
    {st : Stage Db Found (Reply Unit)} (hi : s.threads[i]? = some (r, st))
    (hfault : Sample.acting st = true → fault = false)
    (hcheck : Sample.acting st = false → ∀ x ∈ s.threads, Sample.acting x.2 = false) :
    Orderly s (.step i fault) := by
  intro r' st' hi'
  cases hi.symm.trans hi'
  refine ⟨fun g hg => hfault (by rw [hg]; rfl), fun p hp x hx _ ⟨g, hg⟩ => ?_⟩
  have hidle := hcheck (by rw [hp]; rfl) x hx
  rcases hg with hg | hg <;> rw [hg] at hidle <;> cases hidle

theorem sample_result_recorded :
    let s := Pool.run Submission.task ⟨Sample.db, []⟩ Sample.inTurn
    resultsOf "j" Sample.db = [] ∧ resultsOf "j" s.state ≠ [] ∧
      (resultsOf "j" s.state).length ≤ 1 := by
  have hsafe : Admissible Submission.task Orderly ⟨Sample.db, []⟩ Sample.inTurn := by
    refine ⟨trivial, trivial, ?_, ?_, ?_, ?_, ?_, ?_, trivial⟩ <;>
      exact orderly_of rfl (by decide) (by decide)
  exact ⟨rfl, by decide, (results_recorded_once "j" Sample.db rfl Sample.inTurn hsafe).1⟩

/-- A submission is answered with 500 and its result is there; and two submissions at the same time
leave two results. -/
theorem results_recorded_otherwise :
    (let s := Pool.run Submission.task ⟨Sample.db, []⟩ Sample.denied
     s.threads[0]? = some (Sample.submission "a" "completed",
        .finished (.err 500 "failed to update job")) ∧ (resultsOf "j" s.state).length = 1 ∧
        s.state.job? "j" = some Sample.job) ∧
      (resultsOf "j" (Pool.run Submission.task ⟨Sample.db, []⟩ Sample.together).state).length =
        2 :=
  ⟨⟨rfl, rfl, rfl⟩, rfl⟩

end Moebius.AgentJobs
