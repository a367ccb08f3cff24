import Moebius.CheckThenAct
import Moebius.Scheduler
import Moebius.JobSteps
import Moebius.Scopes

/-!
Every statement of an operator's request and of the scheduler is a `JobStep`.

Most of these requests insert jobs that are no retries, whatever the database holds. What holds of
such an insertion and of the audit log holds of all their statements.
-/

namespace Moebius

open Proc Jobs Scheduler

variable {reported origin : Option String} (env : Env) (quota : Option Defaults)
  (caller : Caller) (tenantID deviceID : String) (deviceIDs : List String) (jobID : String)
  (db : Db)

lemma jobStep_insertJob {row : JobRow} {db db' : Db} (h : db.insertJob row = some db')
    (hf : Fresh row) (hc : Chained origin db row) : JobStep reported origin db db' := by
  obtain ⟨⟨jobs, hins, rfl⟩, -⟩ := Db.insertJob_eq_some h
  exact jobStep_insert hins hf hc

lemma readOnly_expand {table : Db → Table Membership.key} {tenantID : String}
    {owners acc : List String} : (expand env table tenantID owners acc).ReadOnly := by
  refine readOnly_loop (fun acc ownerID => ?_) owners acc
  refine readOnly_bind (readOnly_read _) fun r => ?_
  rcases r with _ | ids <;> trivial

lemma readOnly_expandAll (groupIDs tagIDs siteIDs : List String) :
    (expandAll env tenantID deviceIDs groupIDs tagIDs siteIDs).ReadOnly := by
  refine readOnly_bind (readOnly_expand env) fun r => ?_
  rcases r with e | acc
  · trivial
  refine readOnly_bind (readOnly_expand env) fun r => ?_
  rcases r with e | acc
  · trivial
  exact readOnly_expand env

lemma readOnly_resolveScope (scope : Option APIScope) :
    (resolveScope env tenantID scope).ReadOnly := by
  rcases scope with _ | s
  · trivial
  refine readOnly_bind (readOnly_expandAll env _ _ _ _ _) fun r => ?_
  rcases r with e | ids <;> trivial

lemma readOnly_outOfScope : (outOfScope env caller deviceID).ReadOnly := by
  unfold outOfScope
  split
  · trivial
  · refine readOnly_bind (readOnly_resolveScope env _ _) fun r => ?_
    rcases r with e | ids <;> trivial

lemma readOnly_checkQueuedJobs (incr : ℤ) : (checkQueuedJobs quota tenantID incr).ReadOnly := by
  unfold checkQueuedJobs
  split
  · trivial
  · exact readOnly_checkCount _ _ _ _ _ _

lemma readOnly_scopeTargets {β : Type} :
    (scopeTargets env caller deviceIDs : Proc Db (Except (Reply β) _)).ReadOnly := by
  unfold scopeTargets
  split
  · trivial
  split
  · trivial
  refine readOnly_bind (readOnly_resolveScope env _ _) fun r => ?_
  rcases r with e | allowed
  · trivial
  dsimp only
  split <;> trivial

lemma readOnly_cancelCheck : (cancelCheck env caller jobID).ReadOnly := by
  refine readOnly_bind (readOnly_read _) fun r => ?_
  rcases r with _ | _ | j
  · trivial
  · trivial
  refine readOnly_bind (readOnly_outOfScope env _ _) fun out => ?_
  split
  · trivial
  split <;> trivial

lemma each_insertJobs {R : Db → Db → Prop} (hrefl : ∀ db, R db db) {row : ℕ → String → JobRow}
    {deviceIDs : List String}
    (h : ∀ i, ∀ d ∈ deviceIDs, ∀ a b : Db, a.insertJob (row i d) = some b → R a b) :
    (insertJobs row deviceIDs).Each R := by
  refine each_loop (fun ids d hd => each_bind (each_attempt hrefl (h _ d hd)) fun ok => ?_) []
  split <;> trivial

lemma each_dispatchScheduledJob {R : Db → Db → Prop} (hrefl : ∀ db, R db db) {sj : ScheduledJob}
    (h : ∀ i d (a b : Db), a.insertJob (scheduledRow env i sj d) = some b → R a b) :
    (dispatchScheduledJob env sj).Each R := by
  unfold dispatchScheduledJob
  split
  · trivial
  refine each_bind (each_of_readOnly (readOnly_expandAll env _ _ _ _ _) hrefl) fun r => ?_
  rcases r with e | _ | ⟨d, ds⟩
  · trivial
  · trivial
  refine each_bind (each_insertJobs hrefl fun i d _ => h i d) fun r => ?_
  rcases r with e | ids <;> trivial

/-- What holds of the insertions for the devices the target resolves to holds of the dispatch. -/
lemma wp_scheduled {R : Db → Db → Prop} {Q : Db → Prop} {sj : ScheduledJob} {db : Db}
    (hrefl : R db db) (hsame : Q db)
    (h : ∀ target, sj.target = some target → (insertJobs (fun i d => scheduledRow env i sj d)
      (selected env sj.tenantID target.selection db)).wp R (fun _ s => Q s) db) :
    (dispatchScheduledJob env sj).wp R (fun _ s => Q s) db := by
  unfold dispatchScheduledJob
  rcases htarget : sj.target with _ | target
  · exact hsame
  have htargets : Scheduler.resolveTargets env sj.tenantID target =
      expandAll env sj.tenantID target.selection.deviceIDs target.selection.groupIDs
        target.selection.tagIDs target.selection.siteIDs := rfl
  dsimp only
  rw [bind_eq, wp_bind, htargets]
  refine wp_expandAll env hrefl (fun _ => hsame) ?_
  have hjobs := h target htarget
  generalize selected env sj.tenantID target.selection db = found at hjobs
  rcases found with _ | ⟨d, ds⟩
  · exact hsame
  dsimp only
  rw [bind_eq, wp_bind]
  refine wp_post (fun r s hs => ?_) hjobs
  rcases r with e | ids <;> exact hs

section

variable {R : Db → Db → Prop} (hlog : ∀ (db : Db) log, R db { db with auditLog := log }) {env : Env}
  {caller : Caller} {deviceID jobID : String}

include hlog

lemma each_reading {α : Type} {p : Proc Db α} (h : p.ReadOnly) : p.Each R :=
  each_of_readOnly h fun db => hlog db db.auditLog

lemma each_logAction {tenantID actorID actorType action resourceType resourceID : String}
    {metadata : List (String × String)} :
    (logAction env tenantID actorID actorType action resourceType resourceID metadata).Each R := by
  refine each_bind (each_attempt (fun db => hlog db db.auditLog) fun db _ h => ?_) fun _ => trivial
  obtain ⟨-, log, -, rfl⟩ := eq_some_of_guard h
  exact hlog db log

lemma each_cancelWrite (h : ∀ db : Db, R db (db.updateJobs (.markCancelled jobID env.now))) :
    (cancelWrite env caller jobID).Each R := by
  refine each_bind (each_exec h) fun ok => ?_
  cases ok
  · trivial
  · exact each_bind (each_logAction hlog) fun _ => trivial

lemma each_cancel (h : ∀ db : Db, R db (db.updateJobs (.markCancelled jobID env.now))) :
    (cancel env caller jobID).Each R := by
  refine each_bind (each_reading hlog (readOnly_cancelCheck env caller jobID)) fun r => ?_
  rcases r with r | _
  · trivial
  · exact each_cancelWrite hlog h

lemma each_revoke (body : Option String)
    (h : ∀ reason (a b : Db), a.revokeDevice env.now caller.tenantID deviceID reason = some b →
      R a b) : (revoke env caller deviceID body).Each R := by
  refine each_bind (each_reading hlog (readOnly_outOfScope env _ _)) fun out => ?_
  split
  · trivial
  rcases body with _ | reason
  · trivial
  refine each_bind (each_attempt (fun db => hlog db db.auditLog) (h _)) fun ok => ?_
  cases ok
  · trivial
  · exact each_bind (each_logAction hlog) fun _ => trivial

lemma each_insertJob {row : JobRow} (h : ∀ a b : Db, a.insertJob row = some b → R a b) :
    (attempt (Db.insertJob row)).Each R :=
  each_attempt (fun db => hlog db db.auditLog) h

variable {tenantID : String} (hroot : ∀ {row : JobRow} {a b : Db}, Fresh row →
  row.parentJobID = none → row.tenantID = tenantID → row.createdBy ≠ none →
  a.insertJob row = some b → R a b)

include hroot

lemma each_create (hcaller : caller.tenantID = tenantID) (body : Option CreateRequest) :
    (create env quota caller body).Each R := by
  rcases body with _ | req
  · trivial
  rcases ht : validateType req.type with msg | jobType
  · simp only [create, ht]; trivial
  simp only [create, ht, createTyped]
  split
  · trivial
  refine each_bind (each_reading hlog (readOnly_expandAll env _ _ _ _ _)) fun r => ?_
  rcases r with e | _ | ⟨d, ds⟩
  · trivial
  · trivial
  refine each_bind (each_reading hlog (readOnly_scopeTargets env _ _)) fun r => ?_
  rcases r with r | deviceIDs
  · trivial
  refine each_bind (each_reading hlog (readOnly_checkQueuedJobs _ _ _)) fun r => ?_
  rcases r with e | _
  · trivial
  refine each_bind (each_insertJobs (fun db => hlog db db.auditLog) fun i d _ a b =>
    hroot ⟨rfl, rfl, rfl, rfl, rfl, rfl⟩ rfl hcaller (Option.some_ne_none _)) fun r => ?_
  rcases r with e | ids
  · trivial
  · exact each_bind (each_logAction hlog) fun _ => trivial

lemma each_rollback (hcaller : caller.tenantID = tenantID) (reason : Option String)
    (payload : String → String) : (rollback env caller deviceID reason payload).Each R := by
  rcases reason with _ | reason
  · trivial
  refine each_bind (each_reading hlog (readOnly_read _)) fun r => ?_
  split
  · trivial
  · trivial
  refine each_bind (each_insertJob hlog fun a b => hroot ⟨rfl, rfl, rfl, rfl, rfl, rfl⟩ rfl
    hcaller (Option.some_ne_none _)) fun ok => ?_
  cases ok
  · trivial
  · exact each_bind (each_logAction hlog) fun _ => trivial

lemma each_scheduled {sj : ScheduledJob} (htenant : sj.tenantID = tenantID) :
    (dispatchScheduledJob env sj).Each R :=
  each_dispatchScheduledJob env (fun db => hlog db db.auditLog) fun _ _ _ _ =>
    hroot ⟨rfl, rfl, rfl, rfl, rfl, rfl⟩ rfl htenant (Option.some_ne_none _)

end

lemma jobStep_log (db : Db) (log : Table AuditRow.id) :
    JobStep reported origin db { db with auditLog := log } := jobStep_of_jobs_eq rfl

lemma jobStep_root {tenantID : String} {row : JobRow} {a b : Db} (hf : Fresh row)
    (hp : row.parentJobID = none) (ht : row.tenantID = tenantID) (hby : row.createdBy ≠ none)
    (h : a.insertJob row = some b) : JobStep reported (some tenantID) a b :=
  jobStep_insertJob h hf (.root hp (congrArg some ht.symm) hby)

lemma wp_create (body : Option CreateRequest) (db : Db) :
    (create env quota caller body).wp (JobStep reported (some caller.tenantID))
      (fun _ _ => True) db :=
  wp_of_each (each_create quota jobStep_log jobStep_root rfl body) db

lemma wp_rollback (reason : Option String) (payload : String → String) (db : Db) :
    (rollback env caller deviceID reason payload).wp
      (JobStep reported (some caller.tenantID)) (fun _ _ => True) db :=
  wp_of_each (each_rollback jobStep_log jobStep_root rfl reason payload) db

lemma wp_dispatchScheduledJob (sj : ScheduledJob) (db : Db) :
    (dispatchScheduledJob env sj).wp (JobStep reported (some sj.tenantID))
      (fun _ _ => True) db :=
  wp_of_each (each_scheduled jobStep_log jobStep_root rfl) db

lemma wp_revoke (body : Option String) (db : Db) :
    (revoke env caller deviceID body).wp (JobStep reported origin) (fun _ _ => True) db := by
  refine wp_of_each (each_revoke jobStep_log body fun reason a b h => ?_) db
  obtain ⟨-, rfl⟩ := Db.revokeDevice_eq_some h
  refine jobStep_update (u := .cancelDevice deviceID caller.tenantID) rfl fun j hj =>
    move_ite fun hc => .cancel _ ?_
  rcases hc.2.2 with hs | hs | hs <;> rw [hs] <;> decide

/-! ### Cancel and retry -/

lemma tenantJob_eq_some {tenantID jobID : String} {db : Db} {j : JobRow}
    (h : tenantJob tenantID jobID db = some j) :
    db.job? j.id = some j ∧ j.tenantID = tenantID ∧ j.id = jobID := by
  unfold tenantJob at h
  obtain ⟨hj, ht⟩ := Option.filter_eq_some_iff.mp h
  have hid : j.id = jobID := Table.key_of_get? hj
  exact ⟨hid ▸ hj, by simpa using ht, hid⟩

lemma wp_retry :
    (retry env quota caller jobID).wp (JobStep reported origin) (fun _ _ => True) db := by
  simp only [retry, bind_eq, wp_bind, wp_read]
  refine ⟨⟨.refl db, ?_⟩, trivial⟩
  rcases hj : tenantJob caller.tenantID jobID db with _ | j
  · trivial
  obtain ⟨hrow, htenant, rfl⟩ := tenantJob_eq_some hj
  refine wp_bind_of_readOnly (readOnly_outOfScope env _ _) (.refl db) fun out => ?_
  split
  · trivial
  split
  · refine wp_bind_of_readOnly (readOnly_checkQueuedJobs _ _ _) (.refl db) fun r => ?_
    rcases r with e | _
    · trivial
    rw [wp_bind]
    refine wp_attempt _ _ (.refl db) trivial fun db' h => ⟨?_, ?_⟩
    · exact jobStep_insertJob h ⟨rfl, rfl, rfl, rfl, rfl, rfl⟩
        (.retry hrow ⟨rfl, htenant.symm, rfl, rfl, rfl, rfl, rfl, rfl, rfl⟩)
    · simp only [if_true, wp_bind]
      exact wp_of_each (each_logAction jobStep_log) db'
  · trivial

lemma wp_cancelCheck : (cancelCheck env caller jobID).wp (fun a b => a = b)
      (fun r db' => db' = db ∧ (r = .ok () →
        ∃ j, db.job? jobID = some j ∧ j.tenantID = caller.tenantID ∧
          isCancellable j.status = true)) db := by
  simp only [cancelCheck, bind_eq, wp_bind, wp_read]
  refine ⟨⟨trivial, ?_⟩, rfl, fun h => by cases h⟩
  rcases hj : tenantJob caller.tenantID jobID db with _ | j
  · exact ⟨rfl, fun h => by cases h⟩
  obtain ⟨hrow, htenant, rfl⟩ := tenantJob_eq_some hj
  refine wp_bind_of_readOnly (readOnly_outOfScope env _ _) rfl fun out => ?_
  split
  · exact ⟨rfl, fun h => by cases h⟩
  split
  · exact ⟨rfl, fun _ => ⟨j, hrow, htenant, by assumption⟩⟩
  · exact ⟨rfl, fun h => by cases h⟩

lemma wp_cancel : (cancel env caller jobID).wp (JobStep reported origin) (fun _ _ => True) db := by
  simp only [cancel, bind_eq, wp_bind]
  refine wp_mono (fun a b (h : a = b) => h ▸ .refl a) (fun r db' hr => ?_)
    (wp_cancelCheck env caller jobID db)
  obtain ⟨rfl, hr⟩ := hr
  rcases r with r | _
  · trivial
  obtain ⟨k, hk, -, hs⟩ := hr rfl
  have hid : k.id = jobID := Table.key_of_get? hk
  subst hid
  simp only [cancelWrite, bind_eq, wp_bind, wp_exec, if_true]
  refine ⟨⟨jobStep_update rfl fun j hj => move_ite fun he => .cancel _ ?_, ?_⟩, trivial⟩
  · rwa [status_of_read hk hj he]
  · exact wp_of_each (each_logAction jobStep_log) _

end Moebius
