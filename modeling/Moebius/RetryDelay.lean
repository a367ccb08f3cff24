import Moebius.AtMostOnce
import Moebius.RetryGaps

/-!
The delay of a retry.

A retry policy names a delay, and a retry carries the policy along, but no statement ever looks at
it: the retry is queued at once and goes out with the next check-in of its device. Whether the
delay passes first is up to the agent, which may happen to check in late enough.
-/

namespace Moebius

open Proc Checkin List

variable (cfg : ServerConfig) (db : Db)

/-- The delay a retry is to wait is over, counted from the end of its parent. -/
def DelayOver (row : JobRow) (now : Time) : Prop :=
  ∀ parent ∈ row.parentJobID.bind db.job?, ∀ policy ∈ parent.retryPolicy,
    ∀ t ∈ parent.completedAt, t + policy.retryDelaySeconds * second ≤ now
  deriving Decidable

/-- No check-in response of the run contains an automatic retry before its delay is over. -/
def DelayRespected (calls : List Call) : Prop :=
  ∀ pre c post, calls = pre ++ c :: post →
    ∀ resp ∈ (c.answer cfg (runCalls cfg db pre)).responses, ∀ d ∈ resp.jobs,
      ∀ row ∈ automaticRetries cfg db pre, row.id = d.jobID →
        DelayOver (runCalls cfg db pre) row resp.timestamp

/-- The job has not been acknowledged yet, and has not ended. -/
def Waiting (id : String) : Prop :=
  (db.job? id).any (fun k => !k.status.pastDispatch) = true
  deriving Decidable

def Op.checkinCert : Op → Option ClientCert
  | checkin cert _ => cert
  | _ => none

/-- A check-in finds no waiting retry of its device whose delay is not over; `made` are the
automatic retries so far. -/
def Call.Patient (made : List JobRow) (db : Db) (c : Call) : Prop :=
  ∀ cert ∈ c.op.checkinCert, ∀ row ∈ made, row.deviceID = cert.commonName → Waiting db row.id →
    DelayOver db row c.env.now
  deriving Decidable

def withRetries (s : List JobRow × Db) (c : Call) : List JobRow × Db :=
  (s.1 ++ c.retries cfg s.2, c.after cfg s.2)

lemma foldl_withRetries {cfg : ServerConfig} {calls : List Call} {made : List JobRow} {db : Db} :
    calls.foldl (withRetries cfg) (made, db) =
      (made ++ automaticRetries cfg db calls, runCalls cfg db calls) := by
  induction calls generalizing made db with
  | nil => simp [automaticRetries]
  | cons c calls ih =>
    rw [foldl_cons, withRetries, ih, automaticRetries, append_assoc, runCalls_cons]

/-! ### What a check-in hands out -/

lemma waiting_of_not_passed {db : Db} {id : String} {j : JobRow} (hj : db.job? id = some j)
    (h : ¬ Passed db id) : Waiting db id := by
  have hpast : j.status.pastDispatch = false := by
    by_contra hne
    exact h ⟨j, hj, by simpa using hne⟩
  simp [Waiting, hj, hpast]

section

variable {who : AgentIdentity} {reported : Option String} {db : Db} {id : String}

lemma AgentStep.passed {a b : Db} (h : AgentStep who reported a b) (ha : Passed a id) :
    Passed b id :=
  (h.jobStep : JobStep reported none a b).keeps (fun _ _ hm hj => hm.pastDispatch hj) ha

variable (env : Env) (body : Option CheckinRequest)

lemma returns_respond_timestamp {js : List JobRow} :
    (respond env js).Returns fun r => ∀ n resp, r = .ok n resp →
      resp.timestamp = env.now := by
  refine returns_bind (returns_of_forall (fun r => ?_) _)
  rcases r with e | ds
  · exact e.elim
  · intro n resp he
    cases he
    rfl

lemma wp_serveHTTP_passed (h : Passed db id) :
    (serveHTTP env who body).wp (AgentStep who (body.bind (·.reported)))
      (fun r _ => ∀ n resp, r = .ok n resp → ∀ d ∈ resp.jobs, d.jobID ≠ id) db := by
  rcases body with _ | req
  · simp only [serveHTTP, fetch]
    split <;> (intro n resp h; cases h)
  simp only [serveHTTP, bind_eq, wp_bind]
  refine wp_post (fun r db' hr => ?_)
    (wp_carry (fun _ _ hs hp => hs.passed hp) h (wp_fetch env req db))
  obtain ⟨⟨k, hk, hpast⟩, hr⟩ := hr
  rcases r with r | js
  · exact fun n resp h => absurd h (hr n resp)
  refine wp_post (fun r _ hres n resp he d hd hid => ?_)
    (wp_of_returns (wp_respond env hr) (returns_respond env js))
  obtain ⟨j, hj, hdj⟩ := hres.2 n resp he d hd
  have hrow := hr.row j hj
  rw [← hdj, hid, hk] at hrow
  cases hrow
  rw [hr.queued k hj] at hpast
  cases hpast

lemma returns_serveHTTP : (serveHTTP env who body).Returns fun r => ∀ n resp, r = .ok n resp →
      resp.timestamp = env.now := by
  refine returns_bind (returns_mono (returns_fetch env who body) fun r hr => ?_)
  rcases r with r | js
  · intro n resp he
    obtain ⟨k, code, msg, hr', -⟩ := hr r rfl
    cases hr'.symm.trans he
  · exact returns_respond_timestamp env

end

section

variable {cfg : ServerConfig} {db : Db} {c : Call}

/-- What a check-in that is answered with jobs has found. -/
structure HandedOut (db : Db) (c : Call) (resp : CheckinResponse) (d : JobDispatch) : Prop where
  device : ∃ cert, c.op.checkinCert = some cert ∧
    ∀ j, db.job? d.jobID = some j → j.deviceID = cert.commonName
  waiting : ∀ j, db.job? d.jobID = some j → Waiting db d.jobID
  timestamp : resp.timestamp = c.env.now

variable {resp : CheckinResponse} {n : ℕ}

lemma exists_of_mem_responses {a : Answer} (h : resp ∈ a.responses) :
    ∃ n, a = .checkin (.ok n resp) := by
  unfold Answer.responses at h
  split at h
  · cases mem_singleton.mp h
    exact ⟨_, rfl⟩
  · cases h

lemma checkin_of_answer (h : c.answer cfg db = .checkin (.ok n resp)) :
    ∃ cert body, c.op = .checkin cert body := by
  unfold Call.answer at h
  cases hop : c.op with
  | checkin cert body => exact ⟨cert, body, rfl⟩
  | _ =>
    rw [hop] at h
    simp only [Op.proc, bind_eq, pure_eq, run_map] at h
    cases h

lemma handedOut_of_answer (h : c.answer cfg db = .checkin (.ok n resp)) {d : JobDispatch}
    (hd : d ∈ resp.jobs) : HandedOut db c resp d := by
  obtain ⟨cert, body, hop⟩ := checkin_of_answer h
  obtain ⟨op, env, faults⟩ := c
  dsimp only at hop
  subst hop
  obtain ⟨who, hwho, hhanded⟩ := handed_of_answer h
  obtain ⟨cert', rfl, hname⟩ := hwho.commonName
  have hrun : ((authenticate (Op.authTime env) (some cert') fun who =>
      serveHTTP env who body).run faults db).1 = .ok n resp := by
    simp only [Call.answer, Op.proc, bind_eq, pure_eq, run_map] at h
    exact Answer.checkin.inj h
  refine ⟨⟨cert', rfl, fun j hj => ?_⟩, fun j hj => waiting_of_not_passed hj fun hp => ?_, ?_⟩
  · obtain ⟨j', hj', hown⟩ := hhanded d hd
    obtain ⟨k, hk, hsame⟩ := runCalls_same cfg hj [_]
    rw [runCalls_cons, runCalls_nil, hj'] at hk
    cases hk
    rw [hname, ← hown.1, hsame.deviceID]
  · have hw : (authenticate (Op.authTime env) (some cert') fun who =>
        serveHTTP env who body).wp (fun _ _ => True)
        (fun r _ => ∀ n resp, r = .ok n resp → ∀ e ∈ resp.jobs, e.jobID ≠ d.jobID) db := by
      refine wp_authenticate trivial (fun n code msg _ k resp h => by cases h) fun who _ => ?_
      exact wp_mono (fun _ _ _ => trivial) (fun _ _ h => h) (wp_serveHTTP_passed env body hp)
    exact wp_run hw faults n resp hrun d hd rfl
  · have hw : (authenticate (Op.authTime env) (some cert') fun who =>
        serveHTTP env who body).wp (fun _ _ => True)
        (fun r _ => ∀ n resp, r = .ok n resp → resp.timestamp = env.now) db := by
      refine wp_authenticate trivial (fun n code msg _ k resp h => by cases h) fun who _ => ?_
      refine wp_mono (fun _ _ _ => trivial) (fun _ _ h => h.2)
        (wp_of_returns (wp_serveHTTP env body db) (returns_serveHTTP env body))
    exact wp_run hw faults n resp hrun

end

/-- **The delay of retries.** In every run in which each check-in finds the delays of the waiting
retries of its device over, no automatic retry is handed out before its delay is over. -/
theorem delay_respected (cfg : ServerConfig) (db : Db) (calls : List Call)
    (h : Along (withRetries cfg) (fun s c => c.Patient s.1 s.2) calls ([], db)) :
    DelayRespected cfg db calls := by
  rintro pre c post rfl resp hresp d hd row hrow hid
  obtain ⟨n, hanswer⟩ := exists_of_mem_responses hresp
  obtain ⟨⟨cert, hcert, hdevice⟩, hwaiting, htime⟩ := handedOut_of_answer hanswer hd
  have hpatient := (Along.append.mp h).2.1
  rw [foldl_withRetries, nil_append] at hpatient
  obtain ⟨row', hrow', hsame⟩ := (automaticRetry_end hrow).2.2.1
  rw [hid] at hrow'
  rw [htime]
  refine hpatient cert hcert row hrow ?_ (hid ▸ hwaiting row' hrow')
  rw [← hdevice row' hrow', hsame.deviceID]

theorem late_checkin_respects_delay : DelayRespected Sample.cfg Sample.db
      (Sample.failedJob ++ [Sample.call (Sample.checkin "d" {}) (4 + 600 * second) "n"]) :=
  delay_respected _ _ _ ⟨by decide, by decide, by decide, by decide, by decide, trivial⟩

/-- A retry with a delay of ten minutes is handed out right after its parent has failed. -/
theorem retry_handed_out_early : ¬ DelayRespected Sample.cfg Sample.db
      (Sample.failedJob ++ [Sample.call (Sample.checkin "d" {}) 5 "n"]) := by
  intro h
  have hresp : "job_m" ∈ ((Sample.call (Sample.checkin "d" {}) 5 "n").answer Sample.cfg
      (runCalls Sample.cfg Sample.db Sample.failedJob)).responses.flatMap
        fun resp => resp.jobs.map (·.jobID) := by decide
  obtain ⟨resp, hmem, hjobs⟩ := mem_flatMap.mp hresp
  obtain ⟨d, hd, hid⟩ := mem_map.mp hjobs
  have hmade : "job_m" ∈ (automaticRetries Sample.cfg Sample.db Sample.failedJob).map (·.id) := by
    decide
  obtain ⟨row, hrow, hrowid⟩ := mem_map.mp hmade
  have htime : ∀ r ∈ ((Sample.call (Sample.checkin "d" {}) 5 "n").answer Sample.cfg
      (runCalls Sample.cfg Sample.db Sample.failedJob)).responses, r.timestamp = 5 := by decide
  have hearly : ∀ row ∈ automaticRetries Sample.cfg Sample.db Sample.failedJob,
      ¬ DelayOver (runCalls Sample.cfg Sample.db Sample.failedJob) row 5 := by decide
  have hover := h Sample.failedJob _ [] rfl resp hmem d hd row hrow (hrowid.trans hid.symm)
  rw [htime resp hmem] at hover
  exact hearly row hrow hover

end Moebius
