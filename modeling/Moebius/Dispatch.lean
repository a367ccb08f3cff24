import Moebius.Batches
import Moebius.HeldJobs
import Moebius.Runs

/-!
The order in which queued jobs are handed out.

A check-in takes the oldest ten jobs off the device's queue.
-/

namespace Moebius.Checkin

open Proc AgentJobs List JobUpdate

/-! ### The queue of a device -/

def waiting (who : AgentIdentity) (db : Db) : List JobRow :=
  db.jobs.select fun j =>
    j.deviceID = who.agentID ∧ j.tenantID = who.tenantID ∧ j.status = .queued

def queue (who : AgentIdentity) (db : Db) : List JobDispatch := (waiting who db).map toDispatch

/-- The database when the jobs are fetched, as far as jobs go: the report of a failed update has
been taken down, stale jobs have been requeued and, in a session, held ones released. -/
def requeued (env : Env) (who : AgentIdentity) (req : CheckinRequest) (db : Db) : Db :=
  db.updateAll (updates env who req)

/-- The device may have jobs: it does not ask for consent, or there is a session. -/
def Allowed (req : CheckinRequest) : Prop :=
  req.status.cdmEnabled = true → req.status.cdmSessionActive = true
  deriving Decidable

variable {req : CheckinRequest}

section

variable {env : Env} {who : AgentIdentity} {db : Db}

lemma nodup_waiting : ((waiting who db).map (·.id)).Nodup :=
  db.jobs.nodup.sublist (filter_sublist.map _)

variable (us : List JobUpdate)

lemma rows_updateAll : (db.updateAll us).jobs.rows = db.jobs.rows.map (onRowAll us) := by
  induction us generalizing db with
  | nil =>
    have hnil : onRowAll [] = id := rfl
    rw [hnil, map_id]
    rfl
  | cons u us ih =>
    have hstep : db.updateAll (u :: us) = (db.updateJobs u).updateAll us := rfl
    have hrows : (db.updateJobs u).jobs.rows = db.jobs.rows.map u.onRow := rfl
    rw [hstep, ih, hrows, map_map]
    rfl

lemma toDispatch_onRowAll {j : JobRow} : toDispatch (onRowAll us j) = toDispatch j := by
  have hsame := onRowAll_same us j
  simp only [toDispatch, hsame.id, hsame.type, hsame.payload, hsame.createdAt]

/-- The queue after updates is read off the statuses they give. -/
lemma queue_updateAll (keep : JobRow → Bool) (h : ∀ j ∈ db.jobs.rows, Own who j →
      ((onRowAll us j).status = .queued ↔ j.status = .queued ∧ keep j = true)) :
    queue who (db.updateAll us) = ((waiting who db).filter keep).map toDispatch := by
  have hrows : ∀ rows : List JobRow, (∀ j ∈ rows, Own who j →
      ((onRowAll us j).status = .queued ↔ j.status = .queued ∧ keep j = true)) →
      ((rows.map (onRowAll us)).filter fun j => decide (j.deviceID = who.agentID ∧
        j.tenantID = who.tenantID ∧ j.status = .queued)).map toDispatch =
      ((rows.filter fun j => decide (j.deviceID = who.agentID ∧
        j.tenantID = who.tenantID ∧ j.status = .queued)).filter keep).map toDispatch := by
    intro rows hrows
    rw [filter_map, map_map, filter_filter]
    have hfilter : rows.filter ((fun j : JobRow => decide (j.deviceID = who.agentID ∧
        j.tenantID = who.tenantID ∧ j.status = .queued)) ∘ onRowAll us) =
        rows.filter fun j => keep j && decide (j.deviceID = who.agentID ∧
          j.tenantID = who.tenantID ∧ j.status = .queued) := by
      refine filter_congr fun j hj => ?_
      have hsame := onRowAll_same us j
      by_cases hown : Own who j
      · have hstatus := hrows j hj hown
        simp only [Function.comp_apply, hsame.deviceID, hsame.tenantID, hown.1, hown.2, true_and,
          hstatus]
        rcases keep j <;> simp
      · have hnot : ∀ s : JobStatus, ¬ (j.deviceID = who.agentID ∧ j.tenantID = who.tenantID ∧
            s = .queued) := fun s hs => hown ⟨hs.1, hs.2.1⟩
        simp only [Function.comp_apply, hsame.deviceID, hsame.tenantID, hnot, decide_false,
          Bool.and_false]
    rw [hfilter]
    exact map_congr_left fun j _ => toDispatch_onRowAll us
  have hall := hrows db.jobs.rows h
  simp only [queue, waiting, Table.select, rows_updateAll]
  exact hall

lemma queue_updateAll_same (h : ∀ j ∈ db.jobs.rows, Own who j →
      ((onRowAll us j).status = .queued ↔ j.status = .queued)) :
    queue who (db.updateAll us) = queue who db := by
  have hall : (waiting who db).filter (fun _ => true) = waiting who db := filter_true _
  rw [queue_updateAll us (fun _ => true) fun j hj hown => by simp [h j hj hown], hall]
  rfl

def Earlier (a b : JobRow) : Prop := a.createdAt ≤ b.createdAt
  deriving Decidable

instance : Std.Total Earlier := ⟨fun a b => Int.le_total a.createdAt b.createdAt⟩

instance : IsTrans JobRow Earlier := ⟨fun _ _ _ => Int.le_trans⟩

lemma takes_queuedJobs : ∃ rest, Takes Earlier 10 (waiting who db) (queuedJobs env who db) rest :=
  ⟨_, Takes.of_insertionSort (env.scanJobs.perm (waiting who db))⟩

lemma handsOut_of_allowed (h : Allowed req) :
    handsOut env who req db = queuedJobs env who (requeued env who req db) := by
  have hnot : ¬ ((req.status.cdmEnabled && !req.status.cdmSessionActive) = true) := by
    intro hc
    rw [Bool.and_eq_true, Bool.not_eq_true'] at hc
    rw [h hc.1] at hc
    cases hc.2
  rw [handsOut, if_neg hnot]
  rfl

lemma marked_eq : marked env who req db = (requeued env who req db).updateAll
      (((handsOut env who req db).map (·.id)).map fun id => .markDispatched id env.now) := by
  rw [map_map]
  rfl

lemma queue_mark {ids : List String} {now : Time} :
    queue who (db.updateAll (ids.map fun id => .markDispatched id now)) =
      ((waiting who db).filter fun j => !decide (j.id ∈ ids)).map toDispatch := by
  refine queue_updateAll _ _ fun j _ _ => ?_
  rw [onRowAll_mark]
  by_cases hid : j.id ∈ ids
  · simp [hid]
  · simp [hid]

variable (env who db) in
/-- A check-in takes a batch off the queue and leaves the rest there. -/
lemma takes_handsOut (h : Allowed req) :
    ∃ rest, Takes Earlier 10 (waiting who (requeued env who req db)) (handsOut env who req db)
      rest ∧ queue who (marked env who req db) = rest.map toDispatch := by
  obtain ⟨rest, htakes⟩ := takes_queuedJobs
  rw [← handsOut_of_allowed h] at htakes
  have hnodup : (((handsOut env who req db) ++ rest).map (·.id)).Nodup :=
    (htakes.perm.map _).nodup_iff.mpr nodup_waiting
  rw [map_append, nodup_append] at hnodup
  have hkeep : rest.Perm ((waiting who (requeued env who req db)).filter
      fun j => !decide (j.id ∈ (handsOut env who req db).map (·.id))) := by
    refine htakes.perm_filter (fun j hj => ?_) fun j hj => ?_
    · simpa using ⟨j, hj, rfl⟩
    · have hnot : j.id ∉ (handsOut env who req db).map (·.id) :=
        fun hmem => hnodup.2.2 _ hmem _ (mem_map_of_mem hj) rfl
      simp only [hnot, decide_false, Bool.not_false]
  exact ⟨_, htakes.congr (.refl _) hkeep, by rw [marked_eq, queue_mark]⟩

end

/-! ### Runs of a device -/

/-- Anything else that leaves the queue of the device as it is: results of jobs that were handed
out before, jobs of other devices. -/
structure Elsewhere (who : AgentIdentity) where
  apply : Db → Db
  same : ∀ db, (queue who (apply db)).Perm (queue who db)

inductive Event (who : AgentIdentity)
  /-- A check-in, handled without fault. -/
  | checkin (env : Env) (req : CheckinRequest)
  | acknowledge (env : Env) (jobID : String) (faults : List Bool)
  | elsewhere (e : Elsewhere who)

namespace Event

variable {who : AgentIdentity}

def after (db : Db) : Event who → Db
  | checkin env req => ((serveHTTP env who (some req)).run [] db).2
  | acknowledge env jobID faults => ((AgentJobs.acknowledge env who jobID).run faults db).2
  | elsewhere e => e.apply db

def delivers (db : Db) : Event who → List JobDispatch
  | checkin env req =>
    match ((serveHTTP env who (some req)).run [] db).1 with
    | .ok _ resp => resp.jobs
    | .error _ _ _ => []
  | _ => []

def isCheckin : Event who → Bool
  | checkin _ _ => true
  | _ => false

end Event

def deliveries {who : AgentIdentity} : List (Event who) → Db → List JobDispatch
  | [], _ => []
  | e :: es, db => e.delivers db ++ deliveries es (e.after db)

/-- A check-in that is allowed jobs comes when every job the device was given is acknowledged, and
does nothing to its queue beyond fetching: it releases no held job, and reports none that is still
queued as a failed update. -/
def Undisturbed (who : AgentIdentity) (db : Db) : Event who → Prop
  | .checkin _ req => Allowed req ∧ ∀ j ∈ db.jobs.rows, Own who j →
      j.status ≠ .dispatched ∧ (req.status.cdmEnabled = true → j.status ≠ .cdmHold) ∧
        (j.status = .queued → req.reported ≠ some j.id)
  | _ => True

instance {who : AgentIdentity} (db : Db) : DecidablePred (Undisturbed who db) := fun e => by
  unfold Undisturbed
  split <;> infer_instance

def NotAfter (a b : JobDispatch) : Prop := a.createdAt ≤ b.createdAt

section

variable {env : Env} {who : AgentIdentity} {db : Db}

variable (env) in
/-- One check-in, whatever the state: it answers with a batch of its queue. -/
lemma takes_checkin (hid : ¬ (who.agentID = "" ∨ who.tenantID = "")) (h : Allowed req) (db : Db) :
    Takes NotAfter 10 (queue who (requeued env who req db))
      ((Event.checkin env req : Event who).delivers db)
      (queue who ((Event.checkin env req : Event who).after db)) := by
  obtain ⟨db', hjobs, hrun⟩ := run_serveHTTP env req hid db
  obtain ⟨rest, htakes, hqueue⟩ := takes_handsOut env who db h
  have hafter : queue who db' = rest.map toDispatch := by
    rw [← hqueue]
    simp only [queue, waiting, hjobs]
  simp only [Event.delivers, Event.after, hrun, hafter]
  exact htakes.map toDispatch fun _ _ h => h

lemma queue_requeued (h : Undisturbed who db (.checkin env req)) :
    queue who (requeued env who req db) = queue who db := by
  obtain ⟨hallowed, hrows⟩ := h
  refine queue_updateAll_same _ fun j hj hown => ?_
  obtain ⟨hdispatched, hheld, hreport⟩ := hrows j hj hown
  rw [status_updates]
  have hreported : reportedStatus who req j ≠ .dispatched ∧
      (req.status.cdmEnabled = true → reportedStatus who req j ≠ .cdmHold) ∧
      (reportedStatus who req j = .queued ↔ j.status = .queued) := by
    unfold reportedStatus
    split
    · rename_i hc
      have hnot : j.status ≠ .queued := fun hq => hreport hq hc.1
      simp [hnot]
    · exact ⟨hdispatched, hheld, Iff.rfl⟩
  obtain ⟨hnot, hnotHeld, hiff⟩ := hreported
  have hrequeued : requeuedStatus env who req j = reportedStatus who req j :=
    if_neg fun hc => hnot hc.2.1
  unfold settledStatus
  by_cases henabled : req.status.cdmEnabled = true
  · rw [if_pos henabled, if_pos (hallowed henabled), hrequeued,
      if_neg fun hc => hnotHeld henabled hc.2, hiff]
  · rw [if_neg henabled, hrequeued, hiff]

lemma queue_markAcknowledged {j : JobRow} (hj : db.job? j.id = some j)
    (hs : j.status = .dispatched) {now : Time} :
    queue who (db.updateJobs (.markAcknowledged j.id now)) = queue who db := by
  refine queue_updateAll_same [.markAcknowledged j.id now] fun k hk _ => ?_
  simp only [onRowAll, foldl_cons, foldl_nil, onRow]
  by_cases hid : k.id = j.id
  · have hkj : k = j := Table.eq_of_key_eq hk (Table.mem_of_get? hj) hid
    simp [hkj, hs]
  · simp [hid]

def SameQueue (who : AgentIdentity) (a b : Db) : Prop := queue who b = queue who a

lemma wp_acknowledgeWrite_sameQueue {j : JobRow} (hj : db.job? j.id = some j)
    (hs : j.status = .dispatched) :
    (acknowledgeWrite env who j.id).wp (SameQueue who) (fun _ _ => True) db := by
  simp only [acknowledgeWrite, bind_eq, wp_bind, wp_exec, if_true]
  refine ⟨⟨queue_markAcknowledged hj hs, ?_⟩, trivial⟩
  exact wp_mono (fun _ _ h => by simp only [SameQueue, queue, waiting, h.jobs])
    (fun _ _ _ => trivial) (wp_of_each (quiet_logAction env _ _ _ _ _ _) _)

variable (env who) in
lemma wp_acknowledge_sameQueue (jobID : String) (db : Db) :
    (AgentJobs.acknowledge env who jobID).wp (SameQueue who) (fun _ _ => True) db := by
  simp only [AgentJobs.acknowledge, acknowledgeCheck, bind_eq, wp_bind, wp_read]
  refine ⟨⟨rfl, ?_⟩, trivial⟩
  rcases hj : agentJob who jobID db with _ | j
  · trivial
  obtain ⟨hrow, -, rfl⟩ := agentJob_eq_some hj
  rcases hv : validateTransition j.status .acknowledged with msg | _
  · simp only [hv]
    trivial
  · simp only [hv]
    exact wp_acknowledgeWrite_sameQueue hrow (validateTransition_acknowledged.mp hv)

variable (env who) in
lemma queue_acknowledge (jobID : String) (faults : List Bool) (db : Db) :
    queue who ((AgentJobs.acknowledge env who jobID).run faults db).2 = queue who db :=
  wp_rel (R := SameQueue who) (fun _ => rfl) (fun _ _ _ h h' => Eq.trans h' h)
    (wp_acknowledge_sameQueue env who jobID db) faults

lemma takes_event (hid : ¬ (who.agentID = "" ∨ who.tenantID = "")) {e : Event who}
    (h : Undisturbed who db e) :
    Takes NotAfter (if e.isCheckin then 10 else 0) (queue who db) (e.delivers db)
      (queue who (e.after db)) := by
  cases e with
  | checkin env req =>
    have htakes := takes_checkin env hid h.1 db
    rw [queue_requeued h] at htakes
    exact htakes
  | acknowledge env jobID faults =>
    exact .zero (.of_eq (queue_acknowledge env who jobID faults db).symm)
  | elsewhere e => exact .zero (e.same db).symm

lemma takes_deliveries (hid : ¬ (who.agentID = "" ∨ who.tenantID = "")) {events : List (Event who)}
    (h : Along Event.after (Undisturbed who) events db) :
    Takes NotAfter (10 * events.countP Event.isCheckin) (queue who db) (deliveries events db)
      (queue who (events.foldl Event.after db)) := by
  induction events generalizing db with
  | nil => exact .zero (.refl _)
  | cons e es ih =>
    have htakes := (takes_event hid h.1).trans (ih h.2)
    have hsize : 10 * (e :: es).countP Event.isCheckin =
        (if e.isCheckin then 10 else 0) + 10 * es.countP Event.isCheckin := by
      rw [countP_cons]
      split <;> omega
    rw [hsize]
    exact htakes

variable (env) in
/-- Every job row is as it was when the jobs were fetched, unless the job is handed out. -/
lemma job?_checkin (hid : ¬ (who.agentID = "" ∨ who.tenantID = "")) (db : Db) (id : String) :
    ((Event.checkin env req : Event who).after db).job? id =
      ((requeued env who req db).job? id).map fun j =>
        if j.id ∈ (handsOut env who req db).map (·.id) then
          { j with status := .dispatched, dispatchedAt := some env.now }
        else j := by
  obtain ⟨db', hjobs, hrun⟩ := run_serveHTTP env req hid db
  have hafter : (Event.checkin env req : Event who).after db = db' := by
    simp only [Event.after, hrun]
  rw [hafter, Db.job?_congr hjobs, marked_eq, Db.job?_updateAll]
  exact Option.map_congr fun j _ => onRowAll_mark _ env.now j

end

/-- **First in, first out.** A check-in that is allowed jobs and meets no fault answers with the
`min 10 n` oldest of the `n` jobs queued for the device, in the order of their creation, and changes
only these. In every undisturbed run that starts with it no job is delivered twice, older jobs come
first, and by the `⌈n / 10⌉`-th check-in the `n` jobs are delivered. -/
theorem checkin_first_in_first_out (env : Env) (who : AgentIdentity) (req : CheckinRequest)
    (db : Db) (hid : ¬ (who.agentID = "" ∨ who.tenantID = "")) (hallowed : Allowed req) :
    (∃ (js : List JobRow) (db' : Db), (serveHTTP env who (some req)).run [] db =
        (.ok 200 ⟨env.now, js.map toDispatch⟩, db') ∧
      (js.map (·.id)).Nodup ∧ (∀ j ∈ js, j ∈ waiting who (requeued env who req db)) ∧
      js.length = min 10 (waiting who (requeued env who req db)).length ∧
      js.Pairwise Earlier ∧
      (∀ j ∈ js, ∀ j' ∈ waiting who (requeued env who req db), j' ∉ js → Earlier j j') ∧
      ∀ id, db'.job? id = ((requeued env who req db).job? id).map fun j =>
        if j.id ∈ js.map (·.id) then
          { j with status := .dispatched, dispatchedAt := some env.now }
        else j) ∧
    ∀ events : List (Event who),
      Along Event.after (Undisturbed who) events ((Event.checkin env req : Event who).after db) →
      ((deliveries (.checkin env req :: events) db).map (·.jobID)).Nodup ∧
      (deliveries (.checkin env req :: events) db).Pairwise NotAfter ∧
      (∀ d ∈ deliveries (.checkin env req :: events) db, d ∈ queue who (requeued env who req db)) ∧
      (((queue who (requeued env who req db)).length + 9) / 10 ≤
          events.countP Event.isCheckin + 1 →
        (deliveries (.checkin env req :: events) db).Perm
          (queue who (requeued env who req db))) := by
  constructor
  · obtain ⟨rest, htakes, -⟩ := takes_handsOut env who db hallowed
    obtain ⟨db', -, hrun⟩ := run_serveHTTP env req hid db
    have hafter : (Event.checkin env req : Event who).after db = db' := by
      simp only [Event.after, hrun]
    have hnodup : ((handsOut env who req db).map (·.id)).Nodup := by
      rw [handsOut_of_allowed hallowed]
      exact (fetched_queuedJobs env _).nodup
    refine ⟨_, db', hrun, hnodup, fun j => htakes.mem_left, htakes.length, htakes.sorted,
      fun j hj j' hj' hnot => ?_, fun id => ?_⟩
    · have hsplit := mem_append.mp (htakes.perm.mem_iff.mpr hj')
      exact htakes.first j hj j' (hsplit.resolve_left hnot)
    · rw [← hafter]
      exact job?_checkin env hid db id
  · intro events hrun
    have htakes := (takes_checkin env hid hallowed db).trans (takes_deliveries hid hrun)
    have hnodup : ((queue who (requeued env who req db)).map (·.jobID)).Nodup := by
      have hids : (queue who (requeued env who req db)).map (·.jobID) =
          (waiting who (requeued env who req db)).map (·.id) := by
        rw [queue, map_map]
        rfl
      rw [hids]
      exact nodup_waiting
    refine ⟨?_, htakes.sorted, fun d => htakes.mem_left, fun hk => ?_⟩
    · have hall := (htakes.perm.map (·.jobID)).nodup_iff.mpr hnodup
      rw [map_append, nodup_append] at hall
      exact hall.1
    · exact htakes.perm_of_length_le (by omega)

namespace Sample

def who : AgentIdentity := ⟨"d", "t"⟩

def rows : List JobRow :=
  [("k", 11), ("j", 10), ("i", 9), ("h", 8), ("g", 7), ("f", 6), ("e", 5), ("d", 4), ("c", 3),
    ("b", 2), ("a", 1)].map fun p =>
      { id := p.1, tenantID := "t", deviceID := "d", type := .exec, status := .queued
        payload := "run", createdAt := p.2 }

def db : Db := { Moebius.Sample.db with jobs := ⟨rows, by decide⟩ }

def env (now : Time) : Env := Moebius.Sample.env now "x"

def checkin (now : Time) (status : AgentStatus) : Event who := .checkin (env now) { status }

def acknowledgements : List (Event who) :=
  ["a", "b", "c", "d", "e", "f", "g", "h", "i", "j"].map fun id => .acknowledge (env 30) id []

/-- The second check-in reports the job that is left as a failed update. -/
def report : AgentStatus :=
  { lastUpdateFailed := true, lastUpdateJobID := "k", lastUpdateError := "no" }

end Sample

theorem eleven_first_in_first_out :
    (deliveries (Sample.checkin 20 {} :: (Sample.acknowledgements ++ [Sample.checkin 40 {}]))
      Sample.db).Perm (Sample.rows.map toDispatch) := by
  have hfifo := checkin_first_in_first_out (Sample.env 20) Sample.who { status := {} } Sample.db
    (by decide) (by decide)
  exact (hfifo.2 (Sample.acknowledgements ++ [Sample.checkin 40 {}]) (by decide)).2.2.2 (by decide)

/-- Of eleven queued jobs one is never delivered: the second check-in reports it as a failed update.
-/
theorem reported_job_not_delivered :
    (queue Sample.who (requeued (Sample.env 20) Sample.who { status := {} } Sample.db)).length =
      11 ∧
    ((deliveries (Sample.checkin 20 {} :: (Sample.acknowledgements ++
      [Sample.checkin 40 Sample.report])) Sample.db).map (·.jobID)) =
        ["a", "b", "c", "d", "e", "f", "g", "h", "i", "j"] ∧
    (∀ j ∈ (Sample.acknowledgements.foldl Event.after
        ((Sample.checkin 20 {}).after Sample.db)).jobs.rows, j.status ≠ .dispatched) ∧
    (queue Sample.who ((Sample.checkin 20 {} :: (Sample.acknowledgements ++
      [Sample.checkin 40 Sample.report])).foldl Event.after Sample.db)) = [] := by
  decide

end Moebius.Checkin
