import Moebius.AgentSteps

/-!
Every statement of a check-in, an acknowledgement or a result is an `AgentStep`, and what each
of the three handlers answers.
-/

namespace Moebius

open Proc List JobUpdate

variable {who : AgentIdentity} {reported : Option String}

lemma agentStep_update {db : Db} {u : JobUpdate} (h : AgentUpdate who reported db u) :
    AgentStep who reported db (db.updateJobs u) :=
  ⟨.inr (.inl ⟨u, h, rfl⟩), rest_updateJobs db u⟩

lemma AgentStep.refl (db : Db) : AgentStep who reported db db := (Quiet.refl db).step

namespace Checkin

lemma wp_reportFailedUpdate {env : Env} {status : AgentStatus} {db : Db} :
    (reportFailedUpdate env who status).wp (AgentStep who status.reported)
      (fun _ _ => True) db := by
  unfold reportFailedUpdate
  split
  · rename_i h
    have hr : status.reported = some status.lastUpdateJobID := if_pos h
    simp only [bind_eq, wp_bind, wp_exec]
    refine ⟨⟨agentStep_update (.reportFailed hr), ?_⟩, trivial⟩
    exact wp_quiet (quiet_logAction env _ _ _ _ _ _) fun _ _ _ => trivial
  · trivial

/-- The rows are distinct queued jobs of the agent, as they stand in the table. -/
structure Fetched (who : AgentIdentity) (db : Db) (js : List JobRow) : Prop where
  nodup : (js.map (·.id)).Nodup
  row : ∀ j ∈ js, db.job? j.id = some j
  own : ∀ j ∈ js, Own who j
  queued : ∀ j ∈ js, j.status = .queued

lemma fetched_queuedJobs (env : Env) (db : Db) : Fetched who db (queuedJobs env who db) := by
  have hperm : ((env.scanJobs.order (db.jobs.select fun j =>
      j.deviceID = who.agentID ∧ j.tenantID = who.tenantID ∧ j.status = .queued)).insertionSort
      fun a b => a.createdAt ≤ b.createdAt).Perm (db.jobs.select fun j =>
      j.deviceID = who.agentID ∧ j.tenantID = who.tenantID ∧ j.status = .queued) :=
    (perm_insertionSort _ _).trans (env.scanJobs.perm _)
  have hmem : ∀ j ∈ queuedJobs env who db, j ∈ db.jobs.rows ∧ Own who j ∧ j.status = .queued := by
    intro j hj
    have h1 := hperm.mem_iff.mp (mem_of_mem_take hj)
    simpa [Table.select, Own, and_assoc] using h1
  refine ⟨?_, fun j hj => Table.get?_of_mem (hmem j hj).1, fun j hj => (hmem j hj).2.1,
    fun j hj => (hmem j hj).2.2⟩
  refine Nodup.sublist ((take_sublist _ _).map _) ?_
  rw [(hperm.map (·.id)).nodup_iff]
  exact db.jobs.nodup.sublist (filter_sublist.map _)

lemma wp_fetchDispatchableJobs {env : Env} {cdmEnabled cdmSessionActive : Bool} {db : Db} :
    (fetchDispatchableJobs env who cdmEnabled cdmSessionActive).wp (AgentStep who reported)
      (fun r db' => ∀ js ∈ r, Fetched who db' js) db := by
  have hread : ∀ db : Db, (read (queuedJobs env who)).wp (AgentStep who reported)
      (fun r db' => ∀ js ∈ r, Fetched who db' js) db := by
    intro db
    refine ⟨⟨.refl db, fun js hjs => ?_⟩, nofun⟩
    cases hjs
    exact fetched_queuedJobs env db
  unfold fetchDispatchableJobs
  split
  · simp only [bind_eq, wp_bind, wp_exec]
    refine ⟨⟨agentStep_update .holdQueued, fun js hjs => ?_⟩, nofun⟩
    cases hjs
    exact ⟨nodup_nil, by simp, by simp, by simp⟩
  · split
    · simp only [bind_eq, wp_bind, wp_exec]
      exact ⟨⟨agentStep_update .releaseHeld, hread _⟩, hread _⟩
    · exact hread db

lemma Fetched.mark {db : Db} {j : JobRow} {js : List JobRow} (h : Fetched who db (j :: js))
    (now : Time) : Fetched who (db.updateJobs (.markDispatched j.id now)) js := by
  have hnd := h.nodup
  rw [map_cons, nodup_cons] at hnd
  refine ⟨hnd.2, fun k hk => ?_, fun k hk => h.own k (mem_cons_of_mem _ hk),
    fun k hk => h.queued k (mem_cons_of_mem _ hk)⟩
  have hne : k.id ≠ j.id := fun he => hnd.1 (he ▸ mem_map_of_mem hk)
  rw [Db.job?_updateJobs, h.row k (mem_cons_of_mem _ hk)]
  simp [onRow, hne]

variable {js : List JobRow}

lemma Fetched.tail {db : Db} {j : JobRow} (h : Fetched who db (j :: js)) : Fetched who db js :=
  ⟨(nodup_cons.mp h.nodup).2, fun k hk => h.row k (mem_cons_of_mem _ hk),
    fun k hk => h.own k (mem_cons_of_mem _ hk),
    fun k hk => h.queued k (mem_cons_of_mem _ hk)⟩

def Handed (who : AgentIdentity) (db : Db) (ds : List JobDispatch) : Prop :=
  ∀ d ∈ ds, ∃ j, db.job? d.jobID = some j ∧ Own who j

lemma Handed.update {db : Db} {ds : List JobDispatch} (h : Handed who db ds) (u : JobUpdate) :
    Handed who (db.updateJobs u) ds := by
  intro d hd
  obtain ⟨j, hj, hown⟩ := h d hd
  exact ⟨u.onRow j, by rw [Db.job?_updateJobs, hj]; rfl, by simpa [Own] using hown⟩

variable (env : Env) (req : CheckinRequest)

lemma wp_markJobs {db : Db} (h : Fetched who db js) : (markJobs env js).wp (AgentStep who reported)
      (fun r db' => ∀ ds, r = .ok ds → Handed who db' ds) db := by
  refine wp_loop (fun js ds db => Fetched who db js ∧ Handed who db ds) (fun e _ => e.elim)
    (fun j js ds db hI => ?_) (fun ds db hI ds' he => ?_) (fun e _ _ => e.elim)
    ⟨h, nofun⟩
  · obtain ⟨hf, hh⟩ := hI
    have hrow := hf.row j mem_cons_self
    have hown := hf.own j mem_cons_self
    have hq := hf.queued j mem_cons_self
    simp only [bind_eq, wp_bind, wp_exec]
    refine ⟨⟨agentStep_update (.markDispatched hrow hown hq), hf.mark env.now, ?_⟩, hf.tail, hh⟩
    intro d hd
    rcases mem_append.mp hd with hd | hd
    · exact hh.update _ d hd
    · cases mem_singleton.mp hd
      refine ⟨(markDispatched j.id env.now).onRow j, ?_, by simpa [Own] using hown⟩
      rw [Db.job?_updateJobs]
      simp only [toDispatch, hrow, Option.map_some]
  · cases he; exact hI.2

def FetchPost (who : AgentIdentity) : Except (Reply CheckinResponse) (List JobRow) → Db → Prop
  | .error r, _ => ∀ n resp, r ≠ .ok n resp
  | .ok js, db => Fetched who db js

lemma wp_afterReport (db : Db) :
    (afterReport env who req).wp (AgentStep who reported) (FetchPost who) db := by
  have hfetch : ∀ (k : Option (List JobRow) →
      Proc Db (Except (Reply CheckinResponse) (List JobRow))) (db : Db),
      (∀ db, (k none).wp (AgentStep who reported) (FetchPost who) db) →
      (∀ js, k (some js) = pure (.ok js)) →
      (fetchDispatchableJobs env who req.status.cdmEnabled req.status.cdmSessionActive).wp
        (AgentStep who reported) (fun r => (k r).wp (AgentStep who reported) (FetchPost who))
        db := by
    intro k db hnone hsome
    refine wp_post (fun r db' hr => ?_) wp_fetchDispatchableJobs
    rcases r with _ | js
    · exact hnone db'
    · rw [hsome]
      exact hr js rfl
  have herr : ∀ db : Db, FetchPost who (.error (.err 500 "failed to fetch jobs")) db := nofun
  simp only [afterReport, bind_eq, wp_bind]
  refine wp_quiet (quiet_of_inventory each_processDelta) fun _ db1 _ => ?_
  simp only [wp_bind, wp_exec]
  exact ⟨⟨agentStep_update .requeueStale, hfetch _ _ herr fun _ => rfl⟩,
    hfetch _ _ herr fun _ => rfl⟩

lemma wp_fetch (db : Db) :
    (fetch env who (some req)).wp (AgentStep who req.reported) (FetchPost who) db := by
  have herr : ∀ (n : ℕ) (msg : String) (db : Db), FetchPost who (.error (.err n msg)) db := nofun
  unfold fetch
  split
  · exact herr _ _ db
  · simp only [bind_eq, wp_bind, wp_exec, if_true]
    refine ⟨⟨(quiet_updateDevice db _ _ _).step, ?_⟩, herr _ _ db⟩
    exact wp_post (fun _ db1 _ => wp_afterReport env req db1) wp_reportFailedUpdate

lemma wp_respond {db : Db} (h : Fetched who db js) : (respond env js).wp (AgentStep who reported)
      (fun r db' => ∀ n resp, r = .ok n resp → Handed who db' resp.jobs) db := by
  simp only [respond, bind_eq, wp_bind]
  refine wp_post (fun r db' hr => ?_) (wp_markJobs env h)
  rcases r with e | ds
  · exact e.elim
  · intro n resp he
    cases he
    exact hr ds rfl

lemma wp_serveHTTP (body : Option CheckinRequest) (db : Db) :
    (serveHTTP env who body).wp (AgentStep who (body.bind (·.reported)))
      (fun r db' => ∀ n resp, r = .ok n resp → Handed who db' resp.jobs) db := by
  rcases body with _ | req
  · simp only [serveHTTP, fetch]
    split <;> (intro n resp h; cases h)
  · simp only [serveHTTP, bind_eq, wp_bind]
    refine wp_post (fun r db' hr => ?_) (wp_fetch env req db)
    rcases r with r | js
    · exact fun n resp h => absurd h (hr n resp)
    · exact wp_respond env hr

end Checkin

namespace AgentJobs

variable {j j' : JobRow} {target : JobStatus} {db : Db} {env : Env} {req : JobResultSubmission}

lemma agentJob_eq_some {jobID : String} (h : agentJob who jobID db = some j) :
    db.job? jobID = some j ∧ Own who j ∧ j.id = jobID := by
  obtain ⟨hj, hown⟩ := Option.filter_eq_some_iff.mp h
  exact ⟨hj, by simpa [Own] using hown, Table.key_of_get? hj⟩

/-- The answer of `acknowledge` is a success only when it has moved the job from dispatched to
acknowledged. -/
def AckPost (db : Db) (jobID : String) (r : Reply Unit) (db' : Db) : Prop :=
  r.Is2xx → (∃ j, db.job? jobID = some j ∧ j.status = .dispatched) ∧
    ∃ j, db'.job? jobID = some j ∧ j.status = .acknowledged

lemma wp_acknowledgeWrite (hj : db.job? j.id = some j) (hown : Own who j)
    (hs : j.status = .dispatched) :
    (acknowledgeWrite env who j.id).wp (AgentStep who reported) (AckPost db j.id) db := by
  simp only [acknowledgeWrite, bind_eq, wp_bind, wp_exec, if_true]
  refine ⟨⟨agentStep_update (.markAcknowledged hj hown hs), ?_⟩, fun h => ?_⟩
  · refine wp_quiet (quiet_logAction env _ _ _ _ _ _) fun _ db' hq _ => ?_
    refine ⟨⟨j, hj, hs⟩, (markAcknowledged j.id env.now).onRow j, ?_, ?_⟩
    · rw [hq.job?, Db.job?_updateJobs, hj]; rfl
    · simp [onRow]
  · simp [Reply.Is2xx, Reply.err, Reply.status] at h

lemma wp_acknowledge (env : Env) (jobID : String) (db : Db) :
    (acknowledge env who jobID).wp (AgentStep who reported) (AckPost db jobID) db := by
  have herr : ∀ (n : ℕ) (code msg : String), ¬ (200 ≤ n ∧ n < 300) →
      AckPost db jobID (.error n code msg) db := fun n code msg hn h => absurd h hn
  simp only [acknowledge, acknowledgeCheck, bind_eq, wp_bind, wp_read]
  refine ⟨⟨.refl db, ?_⟩, herr _ _ _ (by decide)⟩
  rcases hj : agentJob who jobID db with _ | j
  · exact herr _ _ _ (by decide)
  · obtain ⟨hrow, hown, rfl⟩ := agentJob_eq_some hj
    rcases hv : validateTransition j.status .acknowledged with msg | _
    · simp only [hv]
      exact herr _ _ _ (by decide)
    · simp only [hv]
      exact wp_acknowledgeWrite hrow hown (validateTransition_acknowledged.mp hv)

/-! ### Results -/

lemma targetStatus_terminal {s : String} {t : JobStatus} (h : targetStatus s = some t) :
    t = .completed ∨ t = .failed ∨ t = .timedOut := by
  unfold targetStatus at h
  split at h <;> cases h <;> simp

lemma inflight_of_validate {cur : JobStatus}
    (ht : target = .completed ∨ target = .failed ∨ target = .timedOut)
    (h : validateTransition (effectiveStatus cur) target = .ok ()) :
    cur = .acknowledged ∨ cur = .running := by
  rw [validateTransition_ok_iff] at h
  obtain ⟨l, hl, hm⟩ := h
  rcases ht with rfl | rfl | rfl <;> cases cur <;>
    simp [effectiveStatus, validTransitions] at hl ⊢ <;> subst hl <;> simp at hm

inductive Recorded (env : Env) (who : AgentIdentity) (jobID : String)
    (body : Option JobResultSubmission) (db db' : Db) : Prop
  | nothing (h : db'.jobs = db.jobs)
  | finished {req : JobResultSubmission} {target : JobStatus} {j : JobRow} (hbody : body = some req)
      (ht : targetStatus req.status = some target) (hj : agentJob who jobID db = some j)
      (hs : j.status = .acknowledged ∨ j.status = .running)
      (h : db'.jobs =
        (db.updateJobs (.finish jobID target env.now req.message req.startedAt)).jobs)
  | retried {req : JobResultSubmission} {target : JobStatus} {j : JobRow} (hbody : body = some req)
      (ht : targetStatus req.status = some target) (hj : agentJob who jobID db = some j)
      (hs : j.status = .acknowledged ∨ j.status = .running)
      (hr : shouldRetry target j.retryCount j.maxRetries = true)
      (h : (db.updateJobs (.finish jobID target env.now req.message req.startedAt)).jobs.insert
        (retryRow env 0 who jobID j.type (j.retryCount + 1) j.maxRetries j) = some db'.jobs)

lemma retryRow_same {i : ℕ} {parentJobID : String} {type : JobType} {r m : ℤ}
    (h : SameJob j j') :
    retryRow env i who parentJobID type r m j' = retryRow env i who parentJobID type r m j := by
  simp only [retryRow, h.payload, h.retryPolicy, h.createdBy]

lemma retryOf_retryRow (env : Env) (hown : Own who j) :
    RetryOf j (retryRow env 0 who j.id j.type (j.retryCount + 1) j.maxRetries j) :=
  ⟨rfl, hown.2.symm, hown.1.symm, rfl, rfl, rfl, rfl, rfl, rfl⟩

lemma wp_createRetryJob (hj : db.job? j.id = some j) (hown : Own who j) :
    (createRetryJob env who j.id j.type (j.retryCount + 1) j.maxRetries).wp (AgentStep who reported)
      (fun _ db' => db'.jobs = db.jobs ∨
        db.jobs.insert (retryRow env 0 who j.id j.type (j.retryCount + 1) j.maxRetries j) =
          some db'.jobs) db := by
  simp only [createRetryJob, bind_eq, wp_bind, wp_read]
  refine ⟨⟨.refl db, ?_⟩, .inl rfl⟩
  simp only [hj, wp_bind]
  refine wp_attempt _ _ (.refl db) (.inl rfl) fun db' h => ?_
  obtain ⟨⟨jobs, hins, rfl⟩, -⟩ := Db.insertJob_eq_some h
  exact ⟨⟨.inr (.inr ⟨j, _, hj, hown, retryOf_retryRow env hown,
    ⟨rfl, rfl, rfl, rfl, rfl, rfl⟩, hins⟩), rest_insertJob h⟩, .inr hins⟩

lemma wp_afterResult (hj : db.job? j.id = some j') (hown : Own who j)
    (hsame : SameJob j j') :
    (afterResult env who j.id req target j).wp (AgentStep who reported)
      (fun _ db' => db'.jobs = db.jobs ∨ shouldRetry target j.retryCount j.maxRetries = true ∧
        db.jobs.insert (retryRow env 0 who j.id j.type (j.retryCount + 1) j.maxRetries j) =
          some db'.jobs) db := by
  simp only [afterResult, bind_eq, wp_bind]
  refine wp_quiet (quiet_of_inventory each_storeInventory) fun _ db1 hq1 => ?_
  rw [wp_bind]
  refine wp_quiet (quiet_logAction env _ _ _ _ _ _) fun _ db2 hq2 => ?_
  have hjobs : db2.jobs = db.jobs := hq2.jobs.trans hq1.jobs
  rw [wp_bind]
  unfold retryIfAllowed
  split
  · rename_i hretry
    -- the row read again is the updated one, with the same payload and counters
    have hj2 : db2.job? j'.id = some j' := by rw [hsame.id, hq2.job?, hq1.job?, hj]
    have hown' : Own who j' := ⟨hsame.deviceID.trans hown.1, hsame.tenantID.trans hown.2⟩
    have hwp : (createRetryJob env who j'.id j'.type (j'.retryCount + 1) j'.maxRetries).wp
        (AgentStep who reported) _ db2 := wp_createRetryJob hj2 hown'
    rw [hsame.id, hsame.type, hsame.retryCount, hsame.maxRetries, retryRow_same hsame] at hwp
    refine wp_post (fun _ db' h => ?_) hwp
    rw [hjobs] at h
    exact h.imp_right fun h => ⟨hretry, h⟩
  · exact .inl hjobs

lemma wp_recordResult (hj : agentJob who j.id db = some j)
    (hs : j.status = .acknowledged ∨ j.status = .running)
    (ht : targetStatus req.status = some target) :
    (recordResult env who j.id req target j).wp (AgentStep who reported)
      (fun _ => Recorded env who j.id (some req) db) db := by
  obtain ⟨hrow, hown, -⟩ := agentJob_eq_some hj
  simp only [recordResult, bind_eq, wp_bind]
  refine wp_attempt _ _ (.refl db) (.nothing rfl) fun db' h => ?_
  have hq : Quiet who.agentID db db' := quiet_insertResult hrow hown.1 h
  have hj' : db'.job? j.id = some j := by rw [hq.job?, hrow]
  refine ⟨hq.step, ?_⟩
  simp only [if_true, wp_bind, wp_exec]
  refine ⟨⟨agentStep_update (.finish hj' hown hs (targetStatus_terminal ht)), ?_⟩, .nothing hq.jobs⟩
  have hjobs : (db'.updateJobs (.finish j.id target env.now req.message req.startedAt)).jobs =
      (db.updateJobs (.finish j.id target env.now req.message req.startedAt)).jobs := by
    simp only [Db.updateJobs, hq.jobs]
  refine wp_post (fun _ db'' h => ?_) (wp_afterResult
    (by rw [Db.job?_updateJobs, hj', Option.map_some]) hown (onRow_same _ j))
  rw [hjobs] at h
  rcases h with h | ⟨hr, h⟩
  · exact .finished rfl ht hj hs h
  · exact .retried rfl ht hj hs hr h

lemma wp_submitResult (env : Env) (jobID : String) (body : Option JobResultSubmission) (db : Db) :
    (submitResult env who jobID body).wp (AgentStep who reported)
      (fun _ => Recorded env who jobID body db) db := by
  rcases body with _ | req
  · exact .nothing rfl
  rcases ht : targetStatus req.status with _ | target
  · simp only [submitResult, ht]
    exact .nothing rfl
  simp only [submitResult, ht, bind_eq, wp_bind, wp_read]
  refine ⟨⟨.refl db, ?_⟩, .nothing rfl⟩
  rcases hj : agentJob who jobID db with _ | j
  · exact .nothing rfl
  obtain ⟨-, -, rfl⟩ := agentJob_eq_some hj
  rcases hv : validateTransition (effectiveStatus j.status) target with msg | _
  · simp only [hv]
    exact .nothing rfl
  · simp only [hv]
    exact wp_recordResult hj (inflight_of_validate (targetStatus_terminal ht) hv) ht

end AgentJobs

end Moebius
