import Moebius.CheckinEffect

/-!
Jobs held while consent is missing.

A check-in that reports CDM on without a session holds the queued jobs of the device, and one that
reports a session releases them. Two kinds of jobs are passed over: a check-in that reports CDM
off releases nothing, and one that holds leaves jobs dispatched within the last minute alone.
-/

namespace Moebius

open Proc JobUpdate Checkin Option List Db Table

instance (who : AgentIdentity) (j : JobRow) : Decidable (Own who j) :=
  inferInstanceAs (Decidable (_ ∧ _))

namespace Checkin

variable {env : Env} {who : AgentIdentity} {req : CheckinRequest}

def reportedStatus (who : AgentIdentity) (req : CheckinRequest) (j : JobRow) : JobStatus :=
  if req.reported = some j.id ∧ j.tenantID = who.tenantID then .failed else j.status

def requeuedStatus (env : Env) (who : AgentIdentity) (req : CheckinRequest) (j : JobRow) :
    JobStatus :=
  if Own who j ∧ reportedStatus who req j = .dispatched ∧
      sqlLt j.dispatchedAt (env.now - 60 * second) then .queued
  else reportedStatus who req j

def settledStatus (env : Env) (who : AgentIdentity) (req : CheckinRequest) (j : JobRow) :
    JobStatus :=
  if req.status.cdmEnabled then
    if req.status.cdmSessionActive then
      if Own who j ∧ requeuedStatus env who req j = .cdmHold then .queued
      else requeuedStatus env who req j
    else
      if Own who j ∧ requeuedStatus env who req j = .queued then .cdmHold
      else requeuedStatus env who req j
  else requeuedStatus env who req j

variable (env who req) in
lemma onRowAll_reportUpdate (j : JobRow) :
    (onRowAll (reportUpdate env who req) j).status = reportedStatus who req j ∧
      (onRowAll (reportUpdate env who req) j).dispatchedAt = j.dispatchedAt := by
  unfold reportUpdate reportedStatus
  split
  · rename_i hrep
    have hreported : req.reported = some req.status.lastUpdateJobID := if_pos hrep
    simp only [onRowAll, foldl_cons, foldl_nil, onRow, hreported, some.injEq]
    by_cases hrow : j.id = req.status.lastUpdateJobID ∧ j.tenantID = who.tenantID
    · by_cases hfailed : j.status = .failed
      · simp [hfailed]
      · simp [hrow, hfailed]
    · have hnot : ¬ (req.status.lastUpdateJobID = j.id ∧ j.tenantID = who.tenantID) :=
        fun h => hrow ⟨h.1.symm, h.2⟩
      rw [if_neg (fun h => hrow ⟨h.1, h.2.1⟩), if_neg hnot]
      exact ⟨rfl, rfl⟩
  · rename_i hrep
    have hnone : req.reported = none := if_neg hrep
    simp [onRowAll, hnone]

variable (us : List JobUpdate) (j : JobRow)

lemma onRowAll_same : SameJob j (onRowAll us j) := by
  induction us generalizing j with
  | nil => exact ⟨rfl, rfl, rfl, rfl, rfl, rfl, rfl, rfl, rfl, rfl, rfl⟩
  | cons u us ih => exact (u.onRow_same j).trans (ih (u.onRow j))

lemma own_onRowAll : Own who (onRowAll us j) ↔ Own who j := by
  simp only [Own, (onRowAll_same us j).deviceID, (onRowAll_same us j).tenantID]

lemma status_requeueStale {cutoff : Time} {j : JobRow} :
    ((requeueStale who.agentID who.tenantID cutoff).onRow j).status =
      if Own who j ∧ j.status = .dispatched ∧ sqlLt j.dispatchedAt cutoff then .queued
      else j.status := by
  simp only [onRow, Own, and_assoc]
  split <;> rfl

lemma status_consentUpdate : (onRowAll (consentUpdate who req) j).status =
      if req.status.cdmEnabled then if req.status.cdmSessionActive then
          if Own who j ∧ j.status = .cdmHold then .queued else j.status else
          if Own who j ∧ j.status = .queued then .cdmHold else j.status else j.status := by
  unfold consentUpdate
  rcases req.status.cdmEnabled
  · rfl
  rcases req.status.cdmSessionActive
  · simp only [onRowAll, foldl_cons, foldl_nil, onRow, Own, if_true,
      and_assoc, Bool.false_eq_true, if_false]
    split <;> rfl
  · simp only [onRowAll, foldl_cons, foldl_nil, onRow, Own, if_true, and_assoc]
    split <;> rfl

lemma status_updates : (onRowAll (updates env who req) j).status = settledStatus env who req j := by
  have hsplit : onRowAll (updates env who req) j =
      onRowAll (consentUpdate who req)
        ((requeueStale who.agentID who.tenantID (env.now - 60 * second)).onRow
          (onRowAll (reportUpdate env who req) j)) := by
    rw [updates, onRowAll, foldl_append]
    rfl
  obtain ⟨hstatus, hdispatched⟩ := onRowAll_reportUpdate env who req j
  have hown : ∀ u : JobUpdate,
      Own who (u.onRow (onRowAll (reportUpdate env who req) j)) ↔ Own who j := by
    intro u
    rw [← own_onRowAll (reportUpdate env who req) j]
    exact own_onRowAll [u] _
  have hrequeued : ((requeueStale who.agentID who.tenantID (env.now - 60 * second)).onRow
      (onRowAll (reportUpdate env who req) j)).status = requeuedStatus env who req j := by
    rw [status_requeueStale, requeuedStatus, hstatus, hdispatched]
    exact if_congr (and_congr_left' (own_onRowAll _ j)) rfl rfl
  rw [hsplit, status_consentUpdate, settledStatus, hrequeued]
  simp only [hown]

/-! ### Marking -/

variable {j : JobRow}

lemma settled_of_handsOut {db : Db} {k : JobRow} (hj : db.job? j.id = some j)
    (hk : k ∈ handsOut env who req db) (hid : k.id = j.id) :
    settledStatus env who req j = .queued := by
  unfold handsOut at hk
  split at hk
  · cases hk
  · have hfetched : Fetched who (db.updateAll (updates env who req)) _ := fetched_queuedJobs env _
    have hrow := hfetched.row k hk
    rw [hid, job?_updateAll, hj, map_some] at hrow
    have hstatus := hfetched.queued k hk
    rw [← some.inj hrow, status_updates] at hstatus
    exact hstatus

lemma onRowAll_mark (ids : List String) (now : Time) (j : JobRow) :
    onRowAll (ids.map fun id => .markDispatched id now) j =
      if j.id ∈ ids then { j with status := .dispatched, dispatchedAt := some now } else j := by
  induction ids generalizing j with
  | nil => rfl
  | cons id ids ih =>
    have hstep : onRowAll ((id :: ids).map fun id => .markDispatched id now) j =
        onRowAll (ids.map fun id => .markDispatched id now)
          ((markDispatched id now).onRow j) := rfl
    rw [hstep, ih, onRow_id]
    by_cases hid : j.id = id
    · simp [onRow, hid]
    · simp [onRow, hid]

def finalStatus (env : Env) (who : AgentIdentity) (req : CheckinRequest) (db : Db) (j : JobRow) :
    JobStatus :=
  if j.id ∈ (handsOut env who req db).map (·.id) then .dispatched else settledStatus env who req j

variable (env who req) in
lemma job?_marked {db : Db} {id : String} (hj : db.job? id = some j) :
    ∃ j', (marked env who req db).job? id = some j' ∧ j'.deviceID = j.deviceID ∧
      j'.status = finalStatus env who req db j := by
  have hmap : ((handsOut env who req db).map fun k => markDispatched k.id env.now) =
      ((handsOut env who req db).map (·.id)).map fun id => .markDispatched id env.now := by
    rw [List.map_map]
    rfl
  refine ⟨_, by rw [marked, job?_updateAll, job?_updateAll, hj]; rfl, ?_, ?_⟩
  · exact (onRowAll_same _ _).deviceID.trans (onRowAll_same _ _).deviceID
  · rw [hmap, onRowAll_mark, finalStatus, (onRowAll_same _ _).id, ← status_updates]
    split <;> rfl

lemma job?_of_marked {db : Db} {id : String} {j' : JobRow}
    (h : (marked env who req db).job? id = some j') :
    ∃ j, db.job? id = some j ∧ j'.deviceID = j.deviceID ∧
      j'.status = finalStatus env who req db j := by
  rcases hj : db.job? id with _ | j
  · rw [marked, job?_updateAll, job?_updateAll, hj] at h
    cases h
  · obtain ⟨k, hk, hdevice, hstatus⟩ := job?_marked env who req hj
    cases hk.symm.trans h
    exact ⟨j, rfl, hdevice, hstatus⟩

variable (env who req) in
/-- Whether a job ends held, and whether it ends queued or dispatched, is settled before the
marking. -/
lemma finalStatus_cases {db : Db} (hj : db.job? j.id = some j) :
    finalStatus env who req db j = settledStatus env who req j ∨
      finalStatus env who req db j = .dispatched ∧ settledStatus env who req j = .queued := by
  unfold finalStatus
  split
  · rename_i hmem
    obtain ⟨k, hk, hid⟩ := mem_map.mp hmem
    exact .inr ⟨rfl, settled_of_handsOut hj hk hid⟩
  · exact .inl rfl

variable (env) in
lemma settledStatus_eq_cdmHold_iff (h : req.status.cdmEnabled → req.status.cdmSessionActive)
    (hd : j.deviceID = who.agentID) :
    settledStatus env who req j = .cdmHold ↔ j.status = .cdmHold ∧
      ¬ (j.tenantID = who.tenantID ∧ (req.status.cdmEnabled ∨ req.reported = some j.id)) := by
  have hown : Own who j ↔ j.tenantID = who.tenantID := by simp [Own, hd]
  have hrequeued :
      requeuedStatus env who req j = .cdmHold ↔ reportedStatus who req j = .cdmHold := by
    unfold requeuedStatus
    split
    · rename_i hc
      simp [hc.2.1]
    · rfl
  have hreported : reportedStatus who req j = .cdmHold ↔ j.status = .cdmHold ∧
      ¬ (j.tenantID = who.tenantID ∧ req.reported = some j.id) := by
    unfold reportedStatus
    split
    · rename_i hc
      simp [hc]
    · rename_i hc
      have hnot : ¬ (j.tenantID = who.tenantID ∧ req.reported = some j.id) := fun h => hc ⟨h.2, h.1⟩
      simp only [hnot, not_false_iff, and_true]
  unfold settledStatus
  by_cases henabled : req.status.cdmEnabled
  · rw [if_pos henabled, if_pos (h henabled)]
    by_cases htenant : j.tenantID = who.tenantID
    · have hmine : Own who j := hown.mpr htenant
      by_cases hheld : requeuedStatus env who req j = .cdmHold
      · simp [hmine, hheld, htenant, henabled]
      · simp [hheld, htenant, henabled]
    · have hforeign : ¬ Own who j := fun hmine => htenant (hown.mp hmine)
      simp [hforeign, htenant, hrequeued, hreported]
  · simp [henabled, hrequeued, hreported]

lemma settledStatus_of_no_consent (h : req.status.cdmEnabled) (h' : ¬ req.status.cdmSessionActive)
    (hd : j.deviceID = who.agentID) (hs : j.status = .queued ∨ j.status = .dispatched) :
    settledStatus env who req j = .cdmHold ↔ j.tenantID = who.tenantID ∧ req.reported ≠ some j.id ∧
      (j.status = .dispatched → sqlLt j.dispatchedAt (env.now - 60 * second)) := by
  rw [settledStatus, if_pos h, if_neg h']
  by_cases htenant : j.tenantID = who.tenantID
  · have hmine : Own who j := ⟨hd, htenant⟩
    by_cases hrep : req.reported = some j.id
    · have hfailed : requeuedStatus env who req j = .failed := by
        simp [requeuedStatus, reportedStatus, hrep, htenant]
      simp [hfailed, hrep]
    · have hkept : reportedStatus who req j = j.status := if_neg fun hc => hrep hc.1
      rcases hs with hs | hs
      · have hqueued : requeuedStatus env who req j = .queued := by
          simp [requeuedStatus, hkept, hs]
        simp [hmine, hqueued, htenant, hrep, hs]
      · by_cases hstale : sqlLt j.dispatchedAt (env.now - 60 * second)
        · have hqueued : requeuedStatus env who req j = .queued := by
            simp [requeuedStatus, hmine, hkept, hs, hstale]
          simp [hmine, hqueued, htenant, hrep, hstale]
        · have hdispatched : requeuedStatus env who req j = .dispatched := by
            simp [requeuedStatus, hkept, hs, hstale]
          simp [hdispatched, hs, hstale]
  · have hforeign : ¬ Own who j := fun hmine => htenant hmine.2
    have hkept : requeuedStatus env who req j = j.status := by
      simp [requeuedStatus, reportedStatus, hforeign, htenant]
    rcases hs with hs | hs <;> simp [hforeign, hkept, hs, htenant]

lemma settledStatus_startable (h : req.status.cdmEnabled) (h' : ¬ req.status.cdmSessionActive)
    (hs : settledStatus env who req j = .queued ∨ settledStatus env who req j = .dispatched) :
    j.status = .queued ∨ j.status = .dispatched := by
  rw [settledStatus, if_pos h, if_neg h'] at hs
  have hrequeued : requeuedStatus env who req j = .queued ∨
      requeuedStatus env who req j = .dispatched := by
    split at hs
    · rcases hs with hs | hs <;> cases hs
    · exact hs
  unfold requeuedStatus at hrequeued
  have hreported : reportedStatus who req j = .queued ∨ reportedStatus who req j = .dispatched := by
    split at hrequeued
    · rename_i hc
      exact .inr hc.2.1
    · exact hrequeued
  unfold reportedStatus at hreported
  split at hreported
  · rcases hreported with hr | hr <;> cases hr
  · exact hreported

end Checkin

lemma tenant_of_admitted {at' : Time} {cert : ClientCert} {db : Db} {who : AgentIdentity}
    (h : admitted at' cert db = some who) :
    (db.devices.get? cert.commonName).map (·.tenantID) = some who.tenantID := by
  obtain ⟨-, -, -, -, ⟨d, hd, ht, -⟩, -⟩ := admits_of_admitted h
  rw [hd, map_some, ht]

def NoneHeld (deviceID : String) (db : Db) : Prop :=
  ∀ id j, db.job? id = some j → j.deviceID = deviceID → j.status ≠ .cdmHold

/-- **Release.** A check-in that reports consent and meets no database error leaves no job of its
device held exactly when every held job of the device is of the device's tenant, and either CDM is
reported on, or the check-in reports the very job as a failed update. -/
theorem noneHeld_iff {cfg : ServerConfig} {db : Db} {c : Call} {cert : ClientCert}
    {req : CheckinRequest} {n : ℕ} {resp : CheckinResponse}
    (hop : c.op = .checkin (some cert) (some req)) (hfaults : true ∉ c.faults)
    (hanswer : c.answer cfg db = .checkin (.ok n resp))
    (hconsent : req.status.cdmEnabled → req.status.cdmSessionActive) :
    NoneHeld cert.commonName (c.after cfg db) ↔
      ∀ id j, db.job? id = some j → j.deviceID = cert.commonName → j.status = .cdmHold →
        (db.devices.get? cert.commonName).map (·.tenantID) = some j.tenantID ∧
          (req.status.cdmEnabled ∨ req.reported = some id) := by
  obtain ⟨who, hwho, hjobs⟩ := jobs_of_served hop hfaults hanswer
  have hname : who.agentID = cert.commonName := agentID_of_admitted hwho
  have hheld : ∀ id j, db.job? id = some j → j.deviceID = cert.commonName →
      (finalStatus c.env who req db j = .cdmHold ↔ j.status = .cdmHold ∧
        ¬ (j.tenantID = who.tenantID ∧ (req.status.cdmEnabled ∨ req.reported = some id))) := by
    intro id j hj hd
    have hid : j.id = id := key_of_get? hj
    subst hid
    rw [← settledStatus_eq_cdmHold_iff c.env hconsent (hd.trans hname.symm)]
    rcases finalStatus_cases c.env who req hj with he | ⟨he, hs⟩
    · rw [he]
    · rw [he, hs]
      simp
  rw [tenant_of_admitted hwho]
  constructor
  · intro hnone id j hj hd hs
    obtain ⟨j', hj', hd', hs'⟩ := job?_marked c.env who req hj
    rw [← job?_congr hjobs] at hj'
    have hfree : finalStatus c.env who req db j ≠ .cdmHold := by
      rw [← hs']
      exact hnone id j' hj' (hd'.trans hd)
    rw [Ne, hheld id j hj hd, not_and, not_not] at hfree
    obtain ⟨htenant, hcase⟩ := hfree hs
    exact ⟨by rw [htenant], hcase⟩
  · intro hall id j' hj' hd' hs'
    rw [job?_congr hjobs] at hj'
    obtain ⟨j, hj, hdev, hstatus⟩ := job?_of_marked hj'
    have hd : j.deviceID = cert.commonName := hdev.symm.trans hd'
    obtain ⟨hs, hnot⟩ := (hheld id j hj hd).mp (hstatus.symm.trans hs')
    obtain ⟨htenant, hcase⟩ := hall id j hj hd hs
    exact hnot ⟨(some.inj htenant).symm, hcase⟩

namespace Sample

def held : Db := runCalls cfg db
  [call (create "d") 1 "j", call (checkin "d" { cdmEnabled := true }) 2 "k"]

example : (held.job? "job_j").map (·.status) = some .cdmHold := by decide

end Sample

open Sample in
theorem session_releases :
    NoneHeld "d" ((call (checkin "d" { cdmEnabled := true, cdmSessionActive := true }) 3 "l").after
      cfg held) := by
  have hrows : ∀ j ∈ held.jobs.rows,
      (held.devices.get? "d").map (·.tenantID) = some j.tenantID := by decide
  have hop : (call (checkin "d" { cdmEnabled := true, cdmSessionActive := true }) 3 "l").op =
      .checkin (some (cert "d"))
        (some { status := { cdmEnabled := true, cdmSessionActive := true } }) := rfl
  refine (noneHeld_iff hop not_mem_nil rfl (fun _ => rfl)).mpr ?_
  intro id j hj _ _
  exact ⟨hrows j (mem_of_get? hj), .inl rfl⟩

open Sample in
/-- CDM is switched off, and the job stays held. -/
theorem disabling_releases_nothing :
    (∃ resp, (call (checkin "d" {}) 3 "l").answer cfg held = .checkin (.ok 200 resp)) ∧
      ¬ NoneHeld "d" ((call (checkin "d" {}) 3 "l").after cfg held) := by
  refine ⟨⟨_, rfl⟩, fun h => ?_⟩
  have hjob : (((call (checkin "d" {}) 3 "l").after cfg held).job? "job_j").map
      (fun j => (j.deviceID, j.status)) = some ("d", .cdmHold) := by decide
  obtain ⟨j, hj, hrow⟩ := map_eq_some_iff.mp hjob
  obtain ⟨hdevice, hstatus⟩ := Prod.ext_iff.mp hrow
  exact h "job_j" j hj hdevice hstatus

/-! ### Holding -/

/-- Every job of the device that was queued or dispatched is held, and none is queued or
dispatched. -/
structure AllHeld (deviceID : String) (before after : Db) : Prop where
  none_left : ∀ id j, after.job? id = some j → j.deviceID = deviceID →
    j.status ≠ .queued ∧ j.status ≠ .dispatched
  held : ∀ id j, before.job? id = some j → j.deviceID = deviceID →
    j.status = .queued ∨ j.status = .dispatched →
    ∃ j', after.job? id = some j' ∧ j'.status = .cdmHold

/-- **Hold.** A check-in that reports CDM on without a session and meets no fault holds every queued
and dispatched job of its device exactly when each is of the device's tenant, is not the reported
failed update, and was not dispatched within the last minute. -/
theorem allHeld_iff {cfg : ServerConfig} {db : Db} {c : Call} {cert : ClientCert}
    {req : CheckinRequest} {n : ℕ} {resp : CheckinResponse}
    (hop : c.op = .checkin (some cert) (some req)) (hfaults : true ∉ c.faults)
    (hanswer : c.answer cfg db = .checkin (.ok n resp))
    (henabled : req.status.cdmEnabled) (hactive : ¬ req.status.cdmSessionActive) :
    AllHeld cert.commonName db (c.after cfg db) ↔
      ∀ id j, db.job? id = some j → j.deviceID = cert.commonName →
        j.status = .queued ∨ j.status = .dispatched →
        (db.devices.get? cert.commonName).map (·.tenantID) = some j.tenantID ∧
          req.reported ≠ some id ∧
          (j.status = .dispatched → sqlLt j.dispatchedAt (c.env.now - 60 * second)) := by
  obtain ⟨who, hwho, hjobs⟩ := jobs_of_served hop hfaults hanswer
  have hname : who.agentID = cert.commonName := agentID_of_admitted hwho
  have hfinal : ∀ j, finalStatus c.env who req db j = settledStatus c.env who req j := by
    intro j
    simp [finalStatus, handsOut, henabled, hactive]
  have hheld : ∀ id j, db.job? id = some j → j.deviceID = cert.commonName →
      j.status = .queued ∨ j.status = .dispatched →
      (finalStatus c.env who req db j = .cdmHold ↔ j.tenantID = who.tenantID ∧
        req.reported ≠ some id ∧
        (j.status = .dispatched → sqlLt j.dispatchedAt (c.env.now - 60 * second))) := by
    intro id j hj hd hs
    have hid : j.id = id := key_of_get? hj
    subst hid
    rw [hfinal]
    exact settledStatus_of_no_consent henabled hactive (hd.trans hname.symm) hs
  rw [tenant_of_admitted hwho]
  constructor
  · intro hall id j hj hd hs
    obtain ⟨j', hj', hs'⟩ := hall.held id j hj hd hs
    rw [job?_congr hjobs] at hj'
    obtain ⟨k, hk, -, hstatus⟩ := job?_of_marked hj'
    cases hj.symm.trans hk
    obtain ⟨htenant, hrest⟩ := (hheld id j hj hd hs).mp (hstatus.symm.trans hs')
    exact ⟨by rw [htenant], hrest⟩
  · intro hall
    refine ⟨fun id j' hj' hd' => ?_, fun id j hj hd hs => ?_⟩
    · rw [job?_congr hjobs] at hj'
      obtain ⟨j, hj, hdev, hstatus⟩ := job?_of_marked hj'
      have hd : j.deviceID = cert.commonName := hdev.symm.trans hd'
      have hnot : ¬ (j'.status = .queued ∨ j'.status = .dispatched) := by
        intro hs'
        rw [hstatus, hfinal] at hs'
        have hs := settledStatus_startable henabled hactive hs'
        obtain ⟨htenant, hrest⟩ := hall id j hj hd hs
        have hhold := (hheld id j hj hd hs).mpr ⟨(some.inj htenant).symm, hrest⟩
        rw [hfinal] at hhold
        rw [hhold] at hs'
        rcases hs' with hs' | hs' <;> cases hs'
      exact not_or.mp hnot
    · obtain ⟨htenant, hrest⟩ := hall id j hj hd hs
      obtain ⟨j', hj', -, hstatus⟩ := job?_marked c.env who req hj
      rw [← job?_congr hjobs] at hj'
      have hhold := (hheld id j hj hd hs).mpr ⟨(some.inj htenant).symm, hrest⟩
      exact ⟨j', hj', hstatus.trans hhold⟩

namespace Sample

/-- A job has been created for the device, and handed out at second 2. -/
def justDispatched : Db := runCalls cfg db
  [call (create "d") second "j", call (checkin "d" {}) (2 * second) "k"]

example : (justDispatched.job? "job_j").map (·.status) = some .dispatched := by decide

def noConsent (now : Time) : Call := call (checkin "d" { cdmEnabled := true }) now "l"

end Sample

open Sample in
theorem late_checkin_holds :
    AllHeld "d" justDispatched ((noConsent (63 * second)).after cfg justDispatched) := by
  have hrows : ∀ j ∈ justDispatched.jobs.rows,
      (justDispatched.devices.get? "d").map (·.tenantID) = some j.tenantID ∧
        sqlLt j.dispatchedAt (63 * second - 60 * second) := by decide
  have hop : (noConsent (63 * second)).op =
      .checkin (some (cert "d")) (some { status := { cdmEnabled := true } }) := rfl
  refine (allHeld_iff hop not_mem_nil rfl rfl Bool.false_ne_true).mpr ?_
  intro id j hj _ _
  obtain ⟨htenant, hstale⟩ := hrows j (mem_of_get? hj)
  refine ⟨htenant, ?_, fun _ => hstale⟩
  intro hreported
  cases hreported

open Sample in
/-- The session ends before the job has been acknowledged, and the check-in that reports so leaves
it dispatched. -/
theorem recent_job_not_held :
    (∃ resp, (noConsent (3 * second)).answer cfg justDispatched = .checkin (.ok 200 resp)) ∧
      ¬ AllHeld "d" justDispatched ((noConsent (3 * second)).after cfg justDispatched) := by
  refine ⟨⟨_, rfl⟩, fun h => ?_⟩
  have hjob : (((noConsent (3 * second)).after cfg justDispatched).job? "job_j").map
      (fun j => (j.deviceID, j.status)) = some ("d", .dispatched) := by decide
  obtain ⟨j, hj, hrow⟩ := map_eq_some_iff.mp hjob
  obtain ⟨hdevice, hstatus⟩ := Prod.ext_iff.mp hrow
  exact (h.none_left "job_j" j hj hdevice).2 hstatus

end Moebius
