import Moebius.Concurrent
import Moebius.JobFanout
import Moebius.Retries
import Moebius.Runs

/-!
The queued-job quota over whole runs.

`Create` and `Retry` ask whether there is room before they insert. A rollback, a schedule and an
automatic retry insert without asking, and a session of consent puts held jobs back into the queue.
Everything else moves jobs inside the two statuses that count, or out of them.
-/

namespace Moebius

open Proc Jobs Checkin List Scheduler AgentJobs Int Table

variable (tenantID : String) (releasing : Option String) (deviceID : String) (j : JobRow) (db : Db)

def HeldFor : Prop :=
  j.tenantID = tenantID ∧ j.deviceID = deviceID ∧ j.status = .cdmHold
  deriving Decidable

def countHeldJobs : ℤ :=
  (db.jobs.rows.countP fun j => HeldFor tenantID deviceID j : ℕ)

def Weighs : Prop :=
  Counted tenantID j ∨ ∃ d ∈ releasing, HeldFor tenantID d j
  deriving Decidable

def weight : ℕ :=
  db.jobs.rows.countP fun j => Weighs tenantID releasing j

lemma count_le_weight (tenantID : String) (releasing : Option String) (db : Db) :
    countQueuedJobs tenantID db ≤ weight tenantID releasing db := by
  rw [countQueuedJobs_eq, weight]
  refine ofNat_le.mpr (countP_mono_left fun j _ hj => ?_)
  exact decide_eq_true (.inl (of_decide_eq_true hj))

lemma weight_none (tenantID : String) (db : Db) :
    (weight tenantID none db : ℤ) = countQueuedJobs tenantID db := by
  rw [countQueuedJobs_eq, weight]
  simp [Weighs]

lemma weight_some_le (tenantID deviceID : String) (db : Db) :
    (weight tenantID (some deviceID) db : ℤ) ≤
      countQueuedJobs tenantID db + countHeldJobs tenantID deviceID db := by
  rw [countQueuedJobs_eq, countHeldJobs, weight, ← natCast_add]
  refine ofNat_le.mpr ?_
  have hor : (fun j => decide (Weighs tenantID (some deviceID) j)) =
      fun j => decide (Counted tenantID j) || decide (HeldFor tenantID deviceID j) := by
    funext j
    simp [Weighs]
  rw [hor]
  induction db.jobs.rows with
  | nil => simp
  | cons j rows ih =>
    simp only [countP_cons]
    by_cases hc : Counted tenantID j <;> by_cases hh : HeldFor tenantID deviceID j <;>
      simp [hc, hh] <;> omega

/-! ### What does not add to it -/

variable {tenantID : String} {releasing : Option String}

def NoHeavier (tenantID : String) (releasing : Option String) (a b : Db) : Prop :=
  weight tenantID releasing b ≤ weight tenantID releasing a

namespace NoHeavier

variable {a b : Db}

lemma of_jobs (h : b.jobs = a.jobs) : NoHeavier tenantID releasing a b := by
  unfold NoHeavier weight
  rw [h]

lemma refl (a : Db) : NoHeavier tenantID releasing a a := Nat.le_refl _

lemma updateJobs {u : JobUpdate} {db : Db}
    (h : ∀ j ∈ db.jobs.rows, Weighs tenantID releasing (u.onRow j) → Weighs tenantID releasing j) :
    NoHeavier tenantID releasing db (db.updateJobs u) := by
  unfold NoHeavier weight
  have hrows : (db.updateJobs u).jobs.rows = db.jobs.rows.map u.onRow := rfl
  rw [hrows, countP_map]
  refine countP_mono_left fun j hj hw => ?_
  exact decide_eq_true (h j hj (of_decide_eq_true hw))

lemma weighs_ite {c : Prop} [Decidable c] {j j' : JobRow} (ht : j'.tenantID = j.tenantID)
    (h : c → j.tenantID = tenantID →
      j'.status = .queued ∨ j'.status = .dispatched ∨ j'.status = .cdmHold →
      Weighs tenantID releasing j) :
    Weighs tenantID releasing (if c then j' else j) → Weighs tenantID releasing j := by
  intro hw
  split at hw
  · rename_i hc
    rcases hw with ⟨htenant, hs | hs⟩ | ⟨d, -, htenant, -, hs⟩
    · exact h hc (ht ▸ htenant) (.inl hs)
    · exact h hc (ht ▸ htenant) (.inr (.inl hs))
    · exact h hc (ht ▸ htenant) (.inr (.inr hs))
  · exact hw

lemma finish {jobID lastError : String} {now : Time} {status : JobStatus} {startedAt : Option Time}
    (hs : status = .completed ∨ status = .failed ∨ status = .timedOut) (db : Db) :
    NoHeavier tenantID releasing db
      (db.updateJobs (.finish jobID status now lastError startedAt)) := by
  refine updateJobs fun _ _ => weighs_ite rfl fun _ _ hw => ?_
  rcases hs with rfl | rfl | rfl <;> simp at hw

end NoHeavier

open NoHeavier

section

variable (env : Env) (who : AgentIdentity) (caller : Caller)

lemma NoHeavier.log (db : Db) (log : Table AuditRow.id) :
    NoHeavier tenantID releasing db { db with auditLog := log } := .of_jobs rfl

lemma lighter_revoke {deviceID : String} {body : Option String} :
    (Jobs.revoke env caller deviceID body).Each (NoHeavier tenantID releasing) := by
  refine each_revoke .log body fun reason a b h => ?_
  obtain ⟨-, rfl⟩ := Db.revokeDevice_eq_some h
  exact updateJobs (u := .cancelDevice deviceID caller.tenantID) fun _ _ =>
    weighs_ite rfl fun _ _ hs => by simp at hs

/-! ### Check-ins -/

def releases (deviceID : String) (body : Option CheckinRequest) : Option String :=
  if body.any (fun req => req.status.cdmEnabled && req.status.cdmSessionActive) then some deviceID
  else none

lemma lighter_markJobs {who : AgentIdentity} {js : List JobRow} {db : Db}
    (h : Fetched who db js) :
    (markJobs env js).wp (NoHeavier tenantID releasing) (fun _ _ => True) db := by
  refine wp_loop (fun js _ db => Fetched who db js) (fun _ _ => True)
    (fun j js ds db hf => ?_) (fun _ _ _ => trivial) (fun _ _ _ => trivial) h
  have hrow := hf.row j mem_cons_self
  have hqueued := hf.queued j mem_cons_self
  simp only [bind_eq, wp_bind, wp_exec]
  refine ⟨⟨updateJobs fun k hk => weighs_ite rfl fun hid ht _ => ?_, hf.mark env.now⟩, hf.tail⟩
  have hkj : k = j := eq_of_key_eq hk (mem_of_get? hrow) hid
  exact .inl ⟨ht, .inl (hkj ▸ hqueued)⟩

lemma lighter_serveHTTP {body : Option CheckinRequest} {db : Db} :
    (serveHTTP env who body).wp (NoHeavier tenantID (releases who.agentID body))
      (fun _ _ => True) db := by
  have hfetch : (fetch env who body).Each (NoHeavier tenantID (releases who.agentID body)) := by
    refine each_fetch (fun _ _ => .of_jobs) env who body fun req hreq u hu hrelease db => ?_
    cases hu with
    | reportFailed => exact updateJobs fun _ _ => weighs_ite rfl fun _ _ hs => by simp at hs
    | requeueStale =>
      exact updateJobs fun _ _ => weighs_ite rfl fun hc ht _ => .inl ⟨ht, .inr hc.2.2.1⟩
    | holdQueued =>
      exact updateJobs fun _ _ => weighs_ite rfl fun hc ht _ => .inl ⟨ht, .inl hc.2.2⟩
    | releaseHeld =>
      have hactive := hrelease rfl
      rw [Option.mem_def] at hreq
      have hsome : releases who.agentID body = some who.agentID := by
        simp [releases, hreq, hactive]
      rw [hsome]
      exact updateJobs fun _ _ => weighs_ite rfl fun hc ht _ =>
        .inr ⟨who.agentID, rfl, ht, hc.1, hc.2.2⟩
  rcases body with _ | req
  · simp only [serveHTTP, fetch]
    split <;> trivial
  · simp only [serveHTTP, bind_eq, wp_bind]
    refine wp_mono (fun _ _ h => h.1) (fun r s h => ?_)
      (wp_and (wp_of_each hfetch db) (wp_fetch env req db))
    rcases r with e | jobs
    · trivial
    · simp only [respond, bind_eq, wp_bind]
      refine wp_post (fun r s _ => ?_) (lighter_markJobs env h.2)
      rcases r with e | ds
      · exact e.elim
      · trivial

end

variable {limit : ℤ} {db : Db}

section

variable (env : Env)

def Within (tenantID : String) (limit : ℤ) (db : Db) : Prop := countQueuedJobs tenantID db ≤ limit
  deriving Decidable

variable {a b : Db}

lemma NoHeavier.within (h : NoHeavier tenantID none a b) (ha : Within tenantID limit a) :
    Within tenantID limit b := by
  unfold NoHeavier at h
  have hb := weight_none tenantID b
  have ha' := weight_none tenantID a
  unfold Within at ha ⊢
  omega

lemma wp_within {α : Type} {p : Proc Db α} (h : p.Each (NoHeavier tenantID none))
    (hdb : Within tenantID limit db) :
    p.wp (fun _ _ => True) (fun _ s => Within tenantID limit s) db := by
  have hall : p.wp (fun a b => Within tenantID limit a → Within tenantID limit b)
      (fun _ _ => True) db :=
    wp_mono (fun _ _ h => h.within) (fun _ _ h => h) (wp_of_each h db)
  exact wp_mono (fun _ _ _ => trivial) (fun _ _ h => h.1) (wp_carry (fun _ _ h => h) hdb hall)

lemma within_append {rows : List JobRow} (h : b.jobs.rows = a.jobs.rows ++ rows)
    (hroom : (∃ j ∈ rows, j.tenantID = tenantID) →
      countQueuedJobs tenantID a + rows.length ≤ limit)
    (ha : Within tenantID limit a) : Within tenantID limit b := by
  have hcount : countQueuedJobs tenantID b =
      countQueuedJobs tenantID a + (rows.countP fun j => Counted tenantID j : ℕ) := by
    rw [countQueuedJobs_eq, countQueuedJobs_eq, h, countP_append]
    exact natCast_add _ _
  unfold Within at ha ⊢
  rw [hcount]
  by_cases hany : ∃ j ∈ rows, j.tenantID = tenantID
  · have hle : rows.countP (fun j => Counted tenantID j) ≤ rows.length := countP_le_length
    have hfits := hroom hany
    omega
  · have hzero : rows.countP (fun j => Counted tenantID j) = 0 := by
      rw [countP_eq_zero]
      intro j hj hc
      exact hany ⟨j, hj, (of_decide_eq_true hc).1⟩
    omega

lemma within_insertJob {row : JobRow} (h : a.insertJob row = some b)
    (hroom : row.tenantID = tenantID → countQueuedJobs tenantID a + 1 ≤ limit)
    (ha : Within tenantID limit a) : Within tenantID limit b := by
  obtain ⟨⟨jobs, hjobs, rfl⟩, -⟩ := Db.insertJob_eq_some h
  refine within_append (rows_of_insert hjobs) (fun hany => ?_) ha
  obtain ⟨j, hj, ht⟩ := hany
  cases mem_singleton.mp hj
  exact hroom ht

variable (quota : Option Defaults) (caller : Caller) {fs : List Bool}

lemma within_create {body : Option CreateRequest}
    (hlimit : queueLimit quota tenantID db = some limit) (hnonneg : 0 ≤ limit)
    (hdb : Within tenantID limit db) :
    Within tenantID limit ((Jobs.create env quota caller body).run fs db).2 := by
  rcases wp_run (wp_create_cases env caller quota body db) fs with
    ⟨hsame, -⟩ | ⟨req, jobType, done, -, -, h⟩
  · rw [hsame]
    exact hdb
  · refine within_append h.jobs (fun hany => ?_) hdb
    obtain ⟨j, hj, ht⟩ := hany
    have htenant : caller.tenantID = tenantID :=
      (counted_createdRows env caller done j hj).1.symm.trans ht
    have hroom := h.room
    rw [htenant] at hroom
    have hfits := hroom limit hlimit hnonneg
    have hlength := h.part.length_le
    rw [length_mapIdx]
    omega

lemma within_retry {jobID : String} (hlimit : queueLimit quota tenantID db = some limit)
    (hnonneg : 0 ≤ limit) (hdb : Within tenantID limit db) :
    Within tenantID limit ((Jobs.retry env quota caller jobID).run fs db).2 := by
  have hwp : (Jobs.retry env quota caller jobID).wp (fun _ _ => True)
      (fun _ s => Within tenantID limit s) db := by
    simp only [Jobs.retry, bind_eq, wp_bind, wp_read]
    refine ⟨⟨trivial, ?_⟩, hdb⟩
    rcases Jobs.tenantJob caller.tenantID jobID db with _ | j
    · exact hdb
    refine wp_bind_of_readOnly (readOnly_outOfScope env _ _) trivial fun out => ?_
    split
    · exact hdb
    split
    · rw [wp_bind]
      refine wp_checkQueuedJobs trivial (fun _ => hdb) fun hroom => ?_
      rw [wp_bind]
      refine wp_attempt _ _ trivial hdb fun db' h => ⟨trivial, ?_⟩
      have hdb' : Within tenantID limit db' := by
        refine within_insertJob h (fun ht => ?_) hdb
        have hfits := (hroom one_pos).2
        have hcaller : caller.tenantID = tenantID := ht
        rw [hcaller] at hfits
        exact hfits limit hlimit hnonneg
      simp only [if_true, wp_bind]
      exact wp_mono (fun _ _ _ => trivial) (fun _ _ h => h) (wp_within (each_logAction .log) hdb')
    · exact hdb
  exact wp_run hwp fs

lemma within_rollback {deviceID : String} {reason : Option String} {payload : String → String}
    (hroom : caller.tenantID = tenantID → countQueuedJobs tenantID db + 1 ≤ limit)
    (hdb : Within tenantID limit db) :
    Within tenantID limit ((Jobs.rollback env caller deviceID reason payload).run fs db).2 := by
  have hwp : (Jobs.rollback env caller deviceID reason payload).wp (fun _ _ => True)
      (fun _ s => Within tenantID limit s) db := by
    rcases reason with _ | reason
    · exact hdb
    simp only [Jobs.rollback, bind_eq, wp_bind, wp_read]
    refine ⟨⟨trivial, ?_⟩, hdb⟩
    split
    · exact hdb
    · exact hdb
    · rw [wp_bind]
      refine wp_attempt _ _ trivial hdb fun db' h => ⟨trivial, ?_⟩
      simp only [if_true, wp_bind]
      exact wp_mono (fun _ _ _ => trivial) (fun _ _ h => h)
        (wp_within (each_logAction .log) (within_insertJob h hroom hdb))
  exact wp_run hwp fs

lemma within_dispatchScheduledJob {sj : ScheduledJob}
    (hroom : sj.tenantID = tenantID → ∀ target ∈ sj.target, countQueuedJobs tenantID db +
      (selected env tenantID target.selection db).length ≤ limit) (hdb : Within tenantID limit db) :
    Within tenantID limit ((dispatchScheduledJob env sj).run fs db).2 := by
  have hwp : (dispatchScheduledJob env sj).wp (fun _ _ => True)
      (fun _ s => Within tenantID limit s) db := by
    refine wp_scheduled env trivial hdb fun target htarget => ?_
    refine wp_mono (fun _ _ _ => trivial) (fun r s h => ?_) (wp_insertJobs_part _ _ db)
    obtain ⟨done, hpart, hins, -⟩ := h
    refine within_append hins.rows (fun hany => ?_) hdb
    obtain ⟨j, hj, ht⟩ := hany
    obtain ⟨i, hi, rfl⟩ := mem_mapIdx.mp hj
    have htenant : sj.tenantID = tenantID := ht
    have hfits := hroom htenant target htarget
    have hlength := hpart.length_le
    rw [htenant] at hlength
    rw [length_mapIdx]
    omega
  exact wp_run hwp fs

end

section

variable {cfg : ServerConfig}

/-- There is room for what the call adds without asking: a rollback, the jobs of a schedule, the
held jobs that a session releases, an automatic retry. -/
def Spares (tenantID : String) (limit : ℤ) (db : Db) (c : Call) : Prop :=
  match c.op with
  | .rollback caller _ _ _ =>
    caller.tenantID = tenantID → countQueuedJobs tenantID db + 1 ≤ limit
  | .dispatchScheduled sj => sj.tenantID = tenantID → ∀ target ∈ sj.target,
      countQueuedJobs tenantID db + (selected c.env tenantID target.selection db).length ≤ limit
  | .checkin cert body => ∀ cert' ∈ cert, ∀ d ∈ releases cert'.commonName body,
      countQueuedJobs tenantID db + countHeldJobs tenantID d db ≤ limit
  | .submitResult _ jobID body => ∀ req ∈ body, req.status = "failed" ∨ req.status = "timed_out" →
      ∀ j ∈ db.job? jobID, j.tenantID = tenantID → j.retryCount < j.maxRetries →
        countQueuedJobs tenantID db + 1 ≤ limit
  | _ => True

lemma within_checkin {env : Env} {cert : Option ClientCert} {body : Option CheckinRequest}
    (hroom : ∀ cert' ∈ cert, ∀ d ∈ releases cert'.commonName body,
      countQueuedJobs tenantID db + countHeldJobs tenantID d db ≤ limit)
    (hdb : Within tenantID limit db) {fs : List Bool} :
    Within tenantID limit ((authenticate (Op.authTime env) cert fun who =>
      serveHTTP env who body).run fs db).2 := by
  have hwp : (authenticate (Op.authTime env) cert fun who => serveHTTP env who body).wp
      (fun _ _ => True) (fun _ s => Within tenantID limit s) db := by
    refine wp_authenticate trivial (fun _ _ _ _ => hdb) fun who hwho => ?_
    obtain ⟨cert', hcert, hname⟩ := hwho.commonName
    have hserve : (serveHTTP env who body).wp
        (NoHeavier tenantID (releases who.agentID body)) (fun _ _ => True) db :=
      lighter_serveHTTP env who
    have hkeeps := wp_keeps NoHeavier.refl (fun _ _ _ h h' => Nat.le_trans h' h) hserve
    refine wp_mono (fun _ _ _ => trivial) (fun _ s h => ?_) hkeeps
    have hle : weight tenantID (releases who.agentID body) s ≤
        weight tenantID (releases who.agentID body) db := h.1
    have hs := count_le_weight tenantID (releases who.agentID body) s
    unfold Within at hdb ⊢
    rcases hrel : releases who.agentID body with _ | d
    · rw [hrel] at hle hs
      have hnone := weight_none tenantID db
      omega
    · rw [hrel] at hle hs
      have hfits := hroom cert' hcert d (by rw [hname]; exact hrel)
      have hsome := weight_some_le tenantID d db
      omega
  exact wp_run hwp fs

variable {status : String} {target : JobStatus} {c : Call}

lemma failed_of_targetStatus (h : targetStatus status = some target)
    (hr : isRetryable target = true) : status = "failed" ∨ status = "timed_out" := by
  unfold targetStatus at h
  split at h
  · cases h
    cases hr
  · exact .inl rfl
  · exact .inr rfl
  · cases h

lemma within_submitResult {cert : Option ClientCert} {jobID : String}
    {body : Option JobResultSubmission} (hop : c.op = .submitResult cert jobID body)
    (hroom : ∀ req ∈ body, req.status = "failed" ∨ req.status = "timed_out" →
      ∀ j ∈ db.job? jobID, j.tenantID = tenantID → j.retryCount < j.maxRetries →
        countQueuedJobs tenantID db + 1 ≤ limit) (hdb : Within tenantID limit db) :
    Within tenantID limit (c.after cfg db) := by
  obtain ⟨who, hrecorded⟩ := recorded_of_submitResult cfg db hop
  cases hrecorded with
  | nothing h => exact (NoHeavier.of_jobs h).within hdb
  | @finished req target _ _ ht _ _ h =>
    have hfinish : Within tenantID limit
        (db.updateJobs (.finish jobID target c.env.now req.message req.startedAt)) :=
      (finish (targetStatus_terminal ht) db).within hdb
    exact (NoHeavier.of_jobs h).within hfinish
  | @retried req target j hbody ht hj _ hr h =>
    have hfinish : NoHeavier tenantID none db
        (db.updateJobs (.finish jobID target c.env.now req.message req.startedAt)) :=
      finish (targetStatus_terminal ht) db
    refine within_append (rows_of_insert h) (fun hany => ?_)
      (hfinish.within hdb)
    -- the retry belongs to the tenant of the job it retries
    obtain ⟨row, hrow, htenant⟩ := hany
    cases mem_singleton.mp hrow
    obtain ⟨hjob, hown⟩ := Option.filter_eq_some_iff.mp hj
    have hown : j.deviceID = who.agentID ∧ j.tenantID = who.tenantID := of_decide_eq_true hown
    have hwho : who.tenantID = tenantID := htenant
    obtain ⟨hretryable, hleft⟩ : isRetryable target = true ∧ j.retryCount < j.maxRetries := by
      simpa [shouldRetry] using hr
    have hfits := hroom req hbody (failed_of_targetStatus ht hretryable) j hjob
      (hown.2.trans hwho) hleft
    have hless : Within tenantID (limit - 1)
        (db.updateJobs (.finish jobID target c.env.now req.message req.startedAt)) :=
      hfinish.within (by unfold Within; omega)
    unfold Within at hless
    rw [length_singleton]
    omega

lemma within_after (hlimit : queueLimit cfg.quota tenantID db = some limit) (hnonneg : 0 ≤ limit)
    (hroom : Spares tenantID limit db c) (hdb : Within tenantID limit db) :
    Within tenantID limit (c.after cfg db) := by
  have hlight : ∀ {α : Type} {p : Proc Db α} (fs : List Bool), p.Each (NoHeavier tenantID none) →
      Within tenantID limit (p.run fs db).2 := fun fs h => wp_run (wp_within h hdb) fs
  by_cases hop : ∃ cert jobID body, c.op = .submitResult cert jobID body
  · obtain ⟨cert, jobID, body, hop⟩ := hop
    simp only [Spares, hop] at hroom
    exact within_submitResult hop hroom hdb
  obtain ⟨op, env, fs⟩ := c
  cases op
  all_goals simp only [Call.after, Op.proc, bind_eq, pure_eq, run_map]
  case submitResult cert jobID body => exact absurd ⟨cert, jobID, body, rfl⟩ hop
  case create caller body => exact within_create env cfg.quota caller hlimit hnonneg hdb
  case retry caller jobID => exact within_retry env cfg.quota caller hlimit hnonneg hdb
  case cancel caller jobID =>
    exact hlight fs (each_cancel .log fun _ => updateJobs fun _ _ =>
      weighs_ite rfl fun _ _ hs => by simp at hs)
  case rollback caller deviceID reason payload =>
    exact within_rollback env caller hroom hdb
  case revoke caller deviceID body => exact hlight fs (lighter_revoke env caller)
  case dispatchScheduled sj => exact within_dispatchScheduledJob env hroom hdb
  case checkin cert body => exact within_checkin hroom hdb
  case acknowledge cert jobID =>
    exact hlight fs (each_authenticate cert .refl (fun who =>
      each_acknowledge .log fun _ => updateJobs fun _ _ =>
        weighs_ite rfl fun _ _ hs => by simp at hs) _)
  case reapDispatched =>
    exact hlight fs (each_exec fun _ => updateJobs fun _ _ => weighs_ite rfl fun hc ht _ =>
      .inl ⟨ht, .inr hc.1⟩)
  case reapInflight =>
    exact hlight fs (each_exec fun _ => updateJobs fun _ _ =>
      weighs_ite rfl fun _ _ hs => by simp at hs)
  case outside o => exact hlight fs (each_exec fun db => .of_jobs (o.jobs db))

end

/-- With a fixed limit, and room for whatever does not ask for it, the tenant never has more jobs
queued or dispatched than the limit. -/
theorem queue_quota_kept (cfg : ServerConfig) (tenantID : String) (limit : ℤ) (hnonneg : 0 ≤ limit)
    (db : Db) (calls : List Call) (hstart : countQueuedJobs tenantID db ≤ limit)
    (hfixed : Along (Call.after cfg) (fun db _ => queueLimit cfg.quota tenantID db = some limit)
      calls db) (hroom : Along (Call.after cfg) (Spares tenantID limit) calls db) (done : List Call)
    (hdone : done <+: calls) : countQueuedJobs tenantID (runCalls cfg db done) ≤ limit := by
  obtain ⟨rest, rfl⟩ := hdone
  have hboth := (Along.append.mp (hfixed.and hroom)).1
  exact hboth.invariant (fun _ _ h hdb => within_after h.1 hnonneg h.2 hdb) hstart

namespace Sample

def limited (maxQueuedJobs : ℤ) : ServerConfig :=
  { cfg with
    quota := some { maxDevices := -1, maxQueuedJobs, maxAPIKeys := -1, maxFileSizeBytes := -1 } }

def rollback (device : String) : Op := .rollback caller device (some "") fun reason => reason

def createThenRollback : List Call := [call (create "d") 1 "j", call (rollback "d") 2 "k"]

end Sample

theorem sample_queue_quota_kept :
    countQueuedJobs "t" (runCalls (Sample.limited 2) Sample.db Sample.createThenRollback) ≤ 2 :=
  queue_quota_kept (Sample.limited 2) "t" 2 (by decide) Sample.db Sample.createThenRollback
    (by decide) (by decide) ⟨trivial, fun _ => by decide, trivial⟩ Sample.createThenRollback
    (prefix_refl _)

/-- With a limit of one and nothing queued, a job and a rollback make two. -/
theorem rollback_exceeds_quota : Along (Call.after (Sample.limited 1))
      (fun db _ => queueLimit (Sample.limited 1).quota "t" db = some 1)
      Sample.createThenRollback Sample.db ∧ countQueuedJobs "t" Sample.db ≤ 1 ∧
    ¬ countQueuedJobs "t"
      (runCalls (Sample.limited 1) Sample.db Sample.createThenRollback) ≤ 1 := by
  decide

end Moebius
