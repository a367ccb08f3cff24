import Moebius.Api
import Moebius.JobFanout

/-!
Every statement the endpoints on groups, sites, tags, devices, jobs and schedules issue.

`Effect` lists their writes, and `Issues caller db a req e` says that a request served from the
database `db` may issue the write `e` when the database is `a`, together with what the request has
made sure of by then. `wp_serve` says that the list is complete.
-/

namespace Moebius.Api

open Proc ScheduledJobs Bool

/-! ### Writes -/

inductive Effect
  | audit (row : AuditRow)
  | insertOwner (o : Db.Owner) (row : OwnerRow)
  | updateOwner (o : Db.Owner) (tenantID id : String) (body : Owners.Body)
  | deleteOwner (o : Db.Owner) (tenantID id : String)
  | addLink (o : Db.Owner) (deviceID ownerID : String)
  | removeLink (o : Db.Owner) (deviceID ownerID : String)
  | renameDevice (tenantID deviceID hostname : String)
  | revokeDevice (now : Time) (tenantID deviceID reason : String)
  | cancelJob (now : Time) (jobID : String)
  | insertJob (row : JobRow)
  | insertSchedule (row : ScheduledJob)
  | updateSchedule (tenantID id : String) (u : Updates)
  | setEnabled (tenantID id : String) (enabled : Bool)
  | deleteSchedule (tenantID id : String)

def Effect.apply : Effect → Db → Option Db
  | .audit row, db => db.insertAudit row
  | .insertOwner o row, db => db.insertOwner o row
  | .updateOwner o tenantID id body, db =>
    some (db.updateOwner o tenantID id (Owners.setRow o body) (Owners.setRow_id o body)).2
  | .deleteOwner o tenantID id, db => some (db.deleteOwner o tenantID id).2
  | .addLink o deviceID ownerID, db => db.addLink o deviceID ownerID
  | .removeLink o deviceID ownerID, db => some (db.removeLink o deviceID ownerID)
  | .renameDevice tenantID deviceID hostname, db =>
    some (db.renameDevice tenantID deviceID hostname).2
  | .revokeDevice now tenantID deviceID reason, db => db.revokeDevice now tenantID deviceID reason
  | .cancelJob now jobID, db => some (db.updateJobs (.markCancelled jobID now))
  | .insertJob row, db => db.insertJob row
  | .insertSchedule row, db => db.insertSchedule row
  | .updateSchedule tenantID id u, db =>
    some (db.updateSchedule tenantID id u.apply u.apply_id).2
  | .setEnabled tenantID id enabled, db =>
    some (db.updateSchedule tenantID id (ScheduledJobs.setEnabled enabled)
      (ScheduledJobs.setEnabled_id enabled)).2
  | .deleteSchedule tenantID id, db => some (db.deleteSchedule tenantID id).2

/-! ### Who issues them -/

inductive OwnerIssues (caller : Caller) (o : Db.Owner) : OwnerRequest → Effect → Prop
  | create {body : Option Owners.Body} {row : OwnerRow} (ht : row.tenantID = caller.tenantID) :
      OwnerIssues caller o (.create body) (.insertOwner o row)
  | update {id : String} {body : Option Owners.Body} (b : Owners.Body) :
      OwnerIssues caller o (.update id body) (.updateOwner o caller.tenantID id b)
  | delete {id : String} : OwnerIssues caller o (.delete id) (.deleteOwner o caller.tenantID id)
  | addDevice {id deviceID : String} {ids : List String}
      (hfield : Owners.outsideField o caller id = false) (hd : deviceID ∈ ids) :
      OwnerIssues caller o (.addDevices id (some ids)) (.addLink o deviceID id)
  | removeDevice {id deviceID : String} :
      OwnerIssues caller o (.removeDevice id deviceID) (.removeLink o deviceID id)

inductive TagIssues (caller : Caller) (db : Db) : TagRequest → Effect → Prop
  | create {body : Option String} {row : OwnerRow} (ht : row.tenantID = caller.tenantID) :
      TagIssues caller db (.create body) (.insertOwner .tag row)
  | delete {id : String} (hfield : Owners.outsideField .tag caller id = false) :
      TagIssues caller db (.delete id) (.deleteOwner .tag caller.tenantID id)
  | addToDevice {deviceID tagID : String} {tagIDs : List String}
      (hpass : MayPass caller db deviceID) (ht : tagID ∈ tagIDs) :
      TagIssues caller db (.addToDevice deviceID (some tagIDs)) (.addLink .tag deviceID tagID)
  | removeFromDevice {deviceID tagID : String} (hpass : MayPass caller db deviceID) :
      TagIssues caller db (.removeFromDevice deviceID tagID) (.removeLink .tag deviceID tagID)

inductive DeviceIssues (caller : Caller) (db : Db) : DeviceRequest → Effect → Prop
  | update {deviceID hostname : String} (hne : hostname ≠ "")
      (hpass : MayPass caller db deviceID) :
      DeviceIssues caller db (.update deviceID (some hostname))
        (.renameDevice caller.tenantID deviceID hostname)
  | revoke {deviceID given reason : String} {now : Time} (hpass : MayPass caller db deviceID) :
      DeviceIssues caller db (.revoke deviceID (some given))
        (.revokeDevice now caller.tenantID deviceID reason)
  | rollback {deviceID : String} {reason : Option String} {row : JobRow} {device : DeviceRow}
      (hdevice : db.devices.get? deviceID = some device)
      (htenant : device.tenantID = caller.tenantID) (hd : row.deviceID = deviceID)
      (ht : row.tenantID = caller.tenantID) (hp : row.parentJobID = none) :
      DeviceIssues caller db (.rollback deviceID reason) (.insertJob row)

/-- Only the insertions of `create` come one after the other. -/
inductive JobIssues (caller : Caller) (db : Db) : Db → JobRequest → Effect → Prop
  | create {a : Db} {req : Jobs.CreateRequest} {row : JobRow} (ht : row.tenantID = caller.tenantID)
      (hp : row.parentJobID = none)
      (htarget : db.InScope caller.tenantID req.target.selection row.deviceID)
      (hscope : ∀ s, caller.isAdmin = false → caller.scope = some s →
        db.InScope caller.tenantID s row.deviceID) :
      JobIssues caller db a (.create (some req)) (.insertJob row)
  | cancel {jobID : String} {now : Time} {j : JobRow} (hj : db.job? jobID = some j)
      (hpass : MayPass caller db j.deviceID) :
      JobIssues caller db db (.cancel jobID) (.cancelJob now jobID)
  | retry {jobID : String} {j row : JobRow} (hj : db.job? jobID = some j)
      (htenant : j.tenantID = caller.tenantID) (hpass : MayPass caller db j.deviceID)
      (ht : row.tenantID = caller.tenantID) (hd : row.deviceID = j.deviceID)
      (hp : row.parentJobID = some jobID) : JobIssues caller db db (.retry jobID) (.insertJob row)

inductive ScheduleIssues (caller : Caller) : ScheduleRequest → Effect → Prop
  | create {req : CreateRequest} {row : ScheduledJob}
      (ht : row.tenantID = caller.tenantID) (htarget : row.target = some req.target) :
      ScheduleIssues caller (.create (some req)) (.insertSchedule row)
  | update {id : String} {req : UpdateRequest} {u : Updates}
      (htarget : u.target = req.target) :
      ScheduleIssues caller (.update id (some req)) (.updateSchedule caller.tenantID id u)
  | delete {id : String} :
      ScheduleIssues caller (.delete id) (.deleteSchedule caller.tenantID id)
  | enable {id : String} :
      ScheduleIssues caller (.enable id) (.setEnabled caller.tenantID id true)
  | disable {id : String} :
      ScheduleIssues caller (.disable id) (.setEnabled caller.tenantID id false)

inductive Issues (caller : Caller) (db a : Db) : Request → Effect → Prop
  | audit {req : Request} (row : AuditRow) : Issues caller db a req (.audit row)
  | group {r : OwnerRequest} {e : Effect} (h : OwnerIssues caller .group r e) :
      Issues caller db a (.group r) e
  | site {r : OwnerRequest} {e : Effect} (h : OwnerIssues caller .site r e) :
      Issues caller db a (.site r) e
  | tag {r : TagRequest} {e : Effect} (h : TagIssues caller db r e) : Issues caller db a (.tag r) e
  | device {r : DeviceRequest} {e : Effect} (h : DeviceIssues caller db r e) :
      Issues caller db a (.device r) e
  | job {r : JobRequest} {e : Effect} (h : JobIssues caller db a r e) :
      Issues caller db a (.job r) e
  | schedule {r : ScheduleRequest} {e : Effect} (h : ScheduleIssues caller r e) :
      Issues caller db a (.schedule r) e

def Step (caller : Caller) (db : Db) (req : Request) (a b : Db) : Prop :=
  b = a ∨ ∃ e, Issues caller db a req e ∧ e.apply a = some b

variable {caller : Caller} {req : Request} {db a : Db}

section

variable {α : Type} {e : Effect}

lemma Step.refl (a : Db) : Step caller db req a a := .inl rfl

variable {Q : Bool → Db → Prop} {β : Type} {p : Proc Db (Reply β)}

lemma wp_attempt_effect {w : Db → Option Db} (hissue : Issues caller db a req e)
    (hw : w a = e.apply a) (hfail : Q false a) (hok : ∀ b, e.apply a = some b → Q true b) :
    (attempt w).wp (Step caller db req) Q a := by
  refine wp_attempt _ _ (.refl a) hfail fun b hb => ?_
  rw [hw] at hb
  exact ⟨.inr ⟨e, hissue, hb⟩, hok b hb⟩

lemma wp_query_effect {f : Db → β × Db} {Q : Option β → Db → Prop}
    (hissue : Issues caller db a req e) (hf : some (f a).2 = e.apply a) (hfail : Q none a)
    (hok : ∀ n b, Q (some n) b) : (query fun s => some (f s)).wp (Step caller db req) Q a := by
  refine wp_query (.refl a) hfail fun n b hb => ⟨.inr ⟨e, hissue, ?_⟩, hok n b⟩
  rw [← hf, Option.some.inj hb]

lemma wp_exec_effect {w : Db → Db} (hissue : Issues caller db a req e) (hw : some (w a) = e.apply a)
    (hfail : Q false a) (hok : Q true (w a)) : (exec w).wp (Step caller db req) Q a :=
  ⟨⟨.inr ⟨e, hissue, hw.symm⟩, hok⟩, hfail⟩

lemma wp_log_bind {env : Env} {f : Unit → Proc Db α} (hf : (f ()).ReadOnly)
    {tenantID actorID actorType action resourceType resourceID : String}
    {metadata : List (String × String)} :
    ((logAction env tenantID actorID actorType action resourceType resourceID metadata).bind f).wp
      (Step caller db req) (fun _ _ => True) a := by
  simp only [logAction, bind_eq, Proc.bind_assoc, wp_bind]
  refine wp_attempt_effect (.audit _) rfl ?_ fun b _ => ?_
  · exact wp_of_readOnly hf (.refl a) fun _ => trivial
  · exact wp_of_readOnly hf (.refl b) fun _ => trivial

lemma wp_answer {R : Db → Db → Prop} (f : β → Body) (h : p.wp R (fun _ _ => True) a) :
    (answer f p).wp R (fun _ _ => True) a := by
  rw [answer, bind_eq, wp_bind]
  refine wp_post (fun r _ _ => ?_) h
  rcases r with ⟨n, body⟩ | ⟨n, code, msg⟩ <;> trivial

lemma wp_answer_of_readOnly (f : β → Body) (h : p.ReadOnly) :
    (answer f p).wp (Step caller db req) (fun _ _ => True) a :=
  wp_answer f (wp_of_readOnly h (.refl a) fun _ => trivial)

end

section

variable (env : Env) (o : Db.Owner)

lemma readOnly_ownersList : (Owners.list o env caller).ReadOnly := by
  refine readOnly_bind (readOnly_read _) fun r => ?_
  rcases r with _ | rows
  · trivial
  dsimp only
  split <;> trivial

variable {id : String}

lemma readOnly_ownersGet : (Owners.get o caller id).ReadOnly := by
  unfold Owners.get
  split
  · trivial
  refine readOnly_bind (readOnly_read _) fun r => ?_
  rcases r with _ | _ | row <;> trivial

lemma readOnly_ownersListDevices : (Owners.listDevices o env caller id).ReadOnly := by
  refine readOnly_bind (readOnly_read _) fun r => ?_
  rcases r with _ | rows <;> trivial

lemma wp_ownersCreate {newID : String} {body : Option Owners.Body}
    (hissue : ∀ row : OwnerRow, row.tenantID = caller.tenantID →
      Issues caller db a req (.insertOwner o row)) :
    (Owners.create o env newID caller body).wp (Step caller db req) (fun _ _ => True) a := by
  unfold Owners.create
  split
  · trivial
  rcases body with _ | b
  · trivial
  dsimp only
  split
  · trivial
  rw [bind_eq, wp_bind]
  refine wp_attempt_effect (hissue _ rfl) rfl trivial fun b _ => ?_
  exact wp_log_bind (by trivial)

variable {id deviceID : String} {body : Option (List String)}

lemma wp_ownersUpdate {body : Option Owners.Body}
    (hissue : ∀ b, Issues caller db a req (.updateOwner o caller.tenantID id b)) :
    (Owners.update o env caller id body).wp (Step caller db req) (fun _ _ => True) a := by
  unfold Owners.update
  split
  · trivial
  rcases body with _ | b
  · trivial
  dsimp only
  split
  · trivial
  rw [bind_eq, wp_bind]
  refine wp_query_effect (hissue b) rfl trivial fun n a' => ?_
  dsimp only
  split
  · trivial
  refine wp_log_bind (readOnly_bind (readOnly_read _) fun r => ?_)
  rcases r with _ | row <;> trivial

lemma wp_ownersDelete (hissue : Owners.outsideField o caller id = false →
      Issues caller db a req (.deleteOwner o caller.tenantID id)) :
    (Owners.delete o env caller id).wp (Step caller db req) (fun _ _ => True) a := by
  unfold Owners.delete
  split
  · trivial
  rename_i hfield
  rw [bind_eq, wp_bind]
  refine wp_query_effect (hissue (by simpa using hfield)) rfl trivial fun n a' => ?_
  dsimp only
  split
  · trivial
  · exact wp_log_bind (by trivial)

lemma wp_links {ids : List String} {body : Unit → String → Proc Db (Except Unit Unit)}
    {w : String → Effect} (hbody : body = fun _ x => do
      if ← attempt (w x).apply then pure (.ok ()) else pure (.error ()))
    (hissue : ∀ a, ∀ x ∈ ids, Issues caller db a req (w x)) :
    (loop body ids ()).wp (Step caller db req) (fun _ _ => True) a := by
  have heach : (loop body ids ()).Each (Step caller db req) := by
    refine each_loop (fun _ x hx => ?_) ()
    rw [hbody]
    refine each_bind (each_attempt Step.refl fun s s' hs => ?_) fun ok => ?_
    · exact .inr ⟨w x, hissue s x hx, hs⟩
    · split <;> trivial
  exact wp_of_each heach a

lemma wp_ownersAddDevices
    (hissue : ∀ a ids, body = some ids → Owners.outsideField o caller id = false →
      ∀ d ∈ ids, Issues caller db a req (.addLink o d id)) :
    (Owners.addDevices o env caller id body).wp (Step caller db req) (fun _ _ => True) a := by
  unfold Owners.addDevices
  split
  · trivial
  rename_i hfield
  rcases body with _ | ids
  · trivial
  dsimp only
  split
  · trivial
  refine wp_seq (wp_links rfl (fun s => hissue s ids rfl (by simpa using hfield))) fun r a' _ => ?_
  rcases r with _ | _
  · trivial
  · exact wp_log_bind (by trivial)

lemma wp_ownersRemoveDevice (hissue : Issues caller db a req (.removeLink o deviceID id)) :
    (Owners.removeDevice o env caller id deviceID).wp (Step caller db req) (fun _ _ => True) a := by
  unfold Owners.removeDevice
  split
  · trivial
  rw [bind_eq, wp_bind]
  refine wp_exec_effect hissue rfl trivial ?_
  exact wp_log_bind (by trivial)

lemma wp_addToDevice : (Tags.addToDevice env caller deviceID body).wp
    (Step caller db (.tag (.addToDevice deviceID body))) (fun _ _ => True) db := by
  unfold Tags.addToDevice
  rw [bind_eq, wp_bind]
  refine wp_outOfScope env (.refl db) (fun hpass => ?_) fun _ _ _ _ => trivial
  rcases body with _ | tags
  · trivial
  simp only [false_eq_true, if_false]
  split
  · trivial
  refine wp_seq (wp_links rfl (fun _ _ ht => .tag (.addToDevice hpass ht))) fun r a' _ => ?_
  rcases r with _ | _
  · trivial
  · exact wp_log_bind (by trivial)

lemma wp_removeFromDevice {tagID : String} : (Tags.removeFromDevice env caller deviceID tagID).wp
    (Step caller db (.tag (.removeFromDevice deviceID tagID))) (fun _ _ => True) db := by
  unfold Tags.removeFromDevice
  rw [bind_eq, wp_bind]
  refine wp_outOfScope env (.refl db) (fun hpass => ?_) fun _ _ _ _ => trivial
  simp only [false_eq_true, if_false, bind_eq, wp_bind]
  refine wp_exec_effect (.tag (.removeFromDevice hpass)) rfl trivial ?_
  exact wp_log_bind (by trivial)

end

section

variable (env : Env)

lemma readOnly_scopedList {β : Type} {rows : Option (List String) → Db → List β} {failed : String} :
    (scopedList env caller rows failed).ReadOnly := by
  refine readOnly_bind ?_ fun r => ?_
  · unfold listScope
    split
    · trivial
    split
    · trivial
    refine readOnly_bind (readOnly_resolveScope env _ _) fun r => ?_
    rcases r with e | allowed
    · trivial
    dsimp only
    split <;> trivial
  rcases r with r | allowed
  · trivial
  refine readOnly_bind (readOnly_read _) fun r => ?_
  rcases r with _ | rows <;> trivial

lemma readOnly_getDevice (tenantID deviceID : String) :
    (Devices.getDevice env tenantID deviceID).ReadOnly := by
  refine readOnly_bind (readOnly_read _) fun r => ?_
  rcases r with _ | _ | row
  · trivial
  · trivial
  refine readOnly_bind (readOnly_read _) fun groups => ?_
  refine readOnly_bind (readOnly_read _) fun tags => ?_
  exact readOnly_bind (readOnly_read _) fun sites => trivial

lemma readOnly_devicesGet {deviceID : String} : (Devices.get env caller deviceID).ReadOnly := by
  refine readOnly_bind (readOnly_outOfScope env _ _) fun out => ?_
  split
  · trivial
  refine readOnly_bind (readOnly_getDevice env _ _) fun r => ?_
  rcases r with _ | _ | d <;> trivial

lemma readOnly_inventory {deviceID : String} :
    (Inventory.getDeviceInventory env caller deviceID).ReadOnly := by
  refine readOnly_bind (readOnly_outOfScope env _ _) fun out => ?_
  split
  · trivial
  refine readOnly_bind (readOnly_read _) fun r => ?_
  split
  · refine readOnly_bind (readOnly_read _) fun hw => ?_
    rcases hw with _ | hw
    · trivial
    refine readOnly_bind (readOnly_read _) fun ps => ?_
    rcases ps with _ | ps <;> trivial
  · trivial

variable {deviceID : String} {body : Option String}

lemma wp_devicesUpdate : (Devices.update env caller deviceID body).wp
    (Step caller db (.device (.update deviceID body))) (fun _ _ => True) db := by
  unfold Devices.update
  rw [bind_eq, wp_bind]
  refine wp_outOfScope env (.refl db) (fun hpass => ?_) fun _ _ _ _ => trivial
  rcases body with _ | hostname
  · trivial
  simp only [false_eq_true, if_false]
  split
  · trivial
  rename_i hne
  rw [bind_eq, wp_bind]
  refine wp_query_effect (.device (.update hne hpass)) rfl trivial fun n a => ?_
  dsimp only
  split
  · trivial
  refine wp_bind_of_readOnly (readOnly_getDevice env _ _) (.refl a) fun r => ?_
  rcases r with _ | _ | d <;> trivial

lemma wp_devicesRevoke : (Jobs.revoke env caller deviceID body).wp
    (Step caller db (.device (.revoke deviceID body))) (fun _ _ => True) db := by
  unfold Jobs.revoke
  rw [bind_eq, wp_bind]
  refine wp_outOfScope env (.refl db) (fun hpass => ?_) fun _ _ _ _ => trivial
  rcases body with _ | reason
  · trivial
  simp only [false_eq_true, if_false, bind_eq, wp_bind]
  refine wp_attempt_effect (.device (.revoke hpass)) rfl trivial fun a _ => ?_
  exact wp_log_bind (by trivial)

lemma wp_devicesRollback {reason : Option String} {payload : String → String} :
    (Jobs.rollback env caller deviceID reason payload).wp
      (Step caller db (.device (.rollback deviceID reason))) (fun _ _ => True) db := by
  rcases reason with _ | reason
  · trivial
  simp only [Jobs.rollback, bind_eq, wp_bind, wp_read]
  refine ⟨⟨.refl db, ?_⟩, trivial⟩
  rcases hd : db.devices.get? deviceID with _ | device
  · trivial
  by_cases ht : device.tenantID = caller.tenantID
  · simp only [Option.any_some, ht, decide_true, wp_bind]
    refine wp_attempt_effect (.device (.rollback hd ht rfl rfl rfl)) rfl trivial fun a _ => ?_
    exact wp_log_bind (by trivial)
  · simp only [Option.any_some, ht, decide_false]
    trivial

end

section

variable (env : Env)

lemma readOnly_jobsGet {jobID : String} : (Jobs.get env caller jobID).ReadOnly := by
  refine readOnly_bind (readOnly_read _) fun r => ?_
  rcases r with _ | _ | j
  · trivial
  · trivial
  dsimp only
  split
  · trivial
  refine readOnly_bind (readOnly_outOfScope env _ _) fun out => ?_
  split
  · trivial
  split
  · exact readOnly_bind (readOnly_read _) fun r => trivial
  · trivial

variable {deviceIDs : List String} {quota : Option Jobs.Defaults} {jobID : String}

lemma wp_jobsCreate {body : Option Jobs.CreateRequest} : (Jobs.create env quota caller body).wp
    (Step caller db (.job (.create body))) (fun _ _ => True) db := by
  refine Jobs.wp_create_rule env caller (.refl db) (fun _ _ _ => trivial) fun r _ hbody _ => ?_
  subst hbody
  refine wp_seq (wp_of_each (each_insertJobs Step.refl fun i d hd s s' hs => ?_) db)
    fun r' a _ => ?_
  · obtain ⟨hscope, hreach⟩ := ((Jobs.recipients_spec env caller r.target db).2.2 d).mp hd
    refine .inr ⟨.insertJob _, .job (.create rfl rfl ?_ ?_), hs⟩
    · exact hscope
    · exact hreach
  rcases r' with e | made
  · trivial
  · exact wp_log_bind (by trivial)

lemma wp_jobsCancel : (Jobs.cancel env caller jobID).wp (Step caller db (.job (.cancel jobID)))
    (fun _ _ => True) db := by
  simp only [Jobs.cancel, Jobs.cancelCheck, bind_eq, wp_bind, wp_read]
  refine ⟨⟨.refl db, ?_⟩, trivial⟩
  rcases hj : Jobs.tenantJob caller.tenantID jobID db with _ | j
  · trivial
  obtain ⟨hrow, -, rfl⟩ := tenantJob_eq_some hj
  rw [wp_bind]
  refine wp_outOfScope env (.refl db) (fun hpass => ?_) fun _ _ _ _ => trivial
  simp only [false_eq_true, if_false]
  split
  · simp only [pure_eq, wp_done, Jobs.cancelWrite, bind_eq, wp_bind]
    refine wp_exec_effect (.job (.cancel hrow hpass)) rfl trivial ?_
    exact wp_log_bind (by trivial)
  · trivial

lemma wp_jobsRetry : (Jobs.retry env quota caller jobID).wp (Step caller db (.job (.retry jobID)))
    (fun _ _ => True) db := by
  simp only [Jobs.retry, bind_eq, wp_bind, wp_read]
  refine ⟨⟨.refl db, ?_⟩, trivial⟩
  rcases hj : Jobs.tenantJob caller.tenantID jobID db with _ | j
  · trivial
  obtain ⟨hrow, htenant, rfl⟩ := tenantJob_eq_some hj
  rw [wp_bind]
  refine wp_outOfScope env (.refl db) (fun hpass => ?_) fun _ _ _ _ => trivial
  simp only [false_eq_true, if_false]
  split
  · refine wp_bind_of_readOnly (readOnly_checkQueuedJobs _ _ _) (.refl db) fun r => ?_
    rcases r with e | _
    · trivial
    rw [wp_bind]
    refine wp_attempt_effect (e := .insertJob (Jobs.retryRow env caller j.id j))
      (.job (.retry hrow htenant hpass rfl rfl rfl)) rfl trivial fun a _ => ?_
    exact wp_log_bind (by trivial)
  · trivial

end

section

variable (env : Env) (cron : Cron)

lemma wp_scheduleCreate {body : Option CreateRequest} :
    (create cron env caller body).wp (Step caller db (.schedule (.create body)))
      (fun _ _ => True) a := by
  rcases body with _ | r
  · trivial
  unfold create
  dsimp only
  split
  · trivial
  rcases validateType r.jobType with msg | jobType
  · trivial
  simp only [createTyped]
  split
  · trivial
  split
  · trivial
  rcases cron.parse r.cronExpr with msg | next
  · trivial
  dsimp only
  rw [bind_eq, wp_bind]
  refine wp_attempt_effect (.schedule (.create rfl rfl)) rfl trivial fun b _ => ?_
  exact wp_log_bind (by trivial)

lemma updates_target {β : Type} {now : Time} {r : UpdateRequest}
    {u : Updates}
    (h : (updates cron now r : Except (Reply β) _) = .ok u) :
    u.target = r.target := by
  obtain ⟨name, jobType, payload, target, cronExpr, retryPolicy⟩ := r
  have hrun : ∀ (jt : Option JobType) (run : Option (String × Time)),
      (Except.ok { name, jobType := jt, payload, target, cron := run, retryPolicy } :
        Except (Reply β) Updates) = .ok u → u.target = target := by
    intro jt run h
    cases h
    rfl
  unfold updates at h
  rcases jobType with _ | t
  · rcases cronExpr with _ | expr
    · exact hrun _ _ h
    · rcases hc : cron.parse expr with msg | next
      · simp only [hc] at h
        cases h
      · simp only [hc] at h
        exact hrun _ _ h
  · rcases hv : validateType t with msg | jt
    · simp only [hv] at h
      cases h
    · simp only [hv] at h
      rcases cronExpr with _ | expr
      · exact hrun _ _ h
      · rcases hc : cron.parse expr with msg | next
        · simp only [hc] at h
          cases h
        · simp only [hc] at h
          exact hrun _ _ h

lemma wp_scheduleUpdate {id : String} {body : Option UpdateRequest} :
    (update cron env caller id body).wp (Step caller db (.schedule (.update id body)))
      (fun _ _ => True) a := by
  rcases body with _ | r
  · trivial
  unfold update
  dsimp only
  rcases hu : (updates cron env.now r : Except (Reply _) _) with e | u
  · trivial
  dsimp only
  split
  · trivial
  rw [bind_eq, wp_bind]
  refine wp_query_effect (.schedule (.update (updates_target cron hu))) rfl trivial fun n b => ?_
  dsimp only
  split
  · trivial
  refine wp_log_bind (readOnly_bind (readOnly_read _) fun r => ?_)
  rcases r with _ | sj <;> trivial

lemma wp_scheduleAct {id verb : String} {stmt : Db → ℕ × Db} {e : Effect}
    (hissue : Issues caller db a req e) (hstmt : some (stmt a).2 = e.apply a) :
    (act env caller id verb stmt).wp (Step caller db req) (fun _ _ => True) a := by
  unfold act
  rw [bind_eq, wp_bind]
  refine wp_query_effect hissue hstmt trivial fun n b => ?_
  dsimp only
  split
  · trivial
  · exact wp_log_bind (by trivial)

end

section

variable (cfg : Config) (env : Env) (db : Db) (r : OwnerRequest) (req : Request)

lemma wp_groupHandler :
    (groupHandler env caller r).wp (Step caller db (.group r)) (fun _ _ => True) db := by
  cases r with
  | list => exact wp_answer_of_readOnly _ (readOnly_ownersList env .group)
  | get id => exact wp_answer_of_readOnly _ (readOnly_ownersGet .group)
  | create body =>
    exact wp_answer _ (wp_ownersCreate env .group fun row ht => .group (.create ht))
  | update id body => exact wp_answer _ (wp_ownersUpdate env .group fun b => .group (.update b))
  | delete id => exact wp_answer _ (wp_ownersDelete env .group fun _ => .group .delete)
  | listDevices id => exact wp_answer_of_readOnly _ (readOnly_ownersListDevices env .group)
  | addDevices id body =>
    refine wp_answer _ (wp_ownersAddDevices env .group fun a ids hbody hfield d hd => ?_)
    subst hbody
    exact .group (.addDevice hfield hd)
  | removeDevice id deviceID =>
    exact wp_answer _ (wp_ownersRemoveDevice env .group (.group .removeDevice))

lemma wp_siteHandler :
    (siteHandler env caller r).wp (Step caller db (.site r)) (fun _ _ => True) db := by
  cases r with
  | list => exact wp_answer_of_readOnly _ (readOnly_ownersList env .site)
  | get id => exact wp_answer_of_readOnly _ (readOnly_ownersGet .site)
  | create body =>
    exact wp_answer _ (wp_ownersCreate env .site fun row ht => .site (.create ht))
  | update id body => exact wp_answer _ (wp_ownersUpdate env .site fun b => .site (.update b))
  | delete id => exact wp_answer _ (wp_ownersDelete env .site fun _ => .site .delete)
  | listDevices id => exact wp_answer_of_readOnly _ (readOnly_ownersListDevices env .site)
  | addDevices id body =>
    refine wp_answer _ (wp_ownersAddDevices env .site fun a ids hbody hfield d hd => ?_)
    subst hbody
    exact .site (.addDevice hfield hd)
  | removeDevice id deviceID =>
    exact wp_answer _ (wp_ownersRemoveDevice env .site (.site .removeDevice))

lemma wp_tagHandler {r : TagRequest} :
    (tagHandler env caller r).wp (Step caller db (.tag r)) (fun _ _ => True) db := by
  cases r with
  | list => exact wp_answer_of_readOnly _ (readOnly_ownersList env .tag)
  | create body => exact wp_answer _ (wp_ownersCreate env .tag fun row ht => .tag (.create ht))
  | delete id => exact wp_answer _ (wp_ownersDelete env .tag fun hf => .tag (.delete hf))
  | addToDevice deviceID body => exact wp_answer _ (wp_addToDevice env)
  | removeFromDevice deviceID tagID => exact wp_answer _ (wp_removeFromDevice env)

lemma wp_deviceHandler {r : DeviceRequest} :
    (deviceHandler cfg env caller r).wp (Step caller db (.device r)) (fun _ _ => True) db := by
  cases r with
  | list f => exact wp_answer_of_readOnly _ (readOnly_scopedList env)
  | get deviceID => exact wp_answer_of_readOnly _ (readOnly_devicesGet env)
  | update deviceID body => exact wp_answer _ (wp_devicesUpdate env)
  | revoke deviceID body => exact wp_answer _ (wp_devicesRevoke env)
  | inventory deviceID => exact wp_answer_of_readOnly _ (readOnly_inventory env)
  | rollback deviceID reason => exact wp_answer _ (wp_devicesRollback env)

lemma wp_jobHandler {r : JobRequest} :
    (jobHandler cfg env caller r).wp (Step caller db (.job r)) (fun _ _ => True) db := by
  cases r with
  | list f => exact wp_answer_of_readOnly _ (readOnly_scopedList env)
  | get jobID => exact wp_answer_of_readOnly _ (readOnly_jobsGet env)
  | create body => exact wp_answer _ (wp_jobsCreate env)
  | cancel jobID => exact wp_answer _ (wp_jobsCancel env)
  | retry jobID => exact wp_answer _ (wp_jobsRetry env)

lemma wp_scheduleHandler {r : ScheduleRequest} :
    (scheduleHandler cfg env caller r).wp (Step caller db (.schedule r)) (fun _ _ => True) db := by
  cases r with
  | list =>
    refine wp_answer_of_readOnly _ (readOnly_bind (readOnly_read _) fun r => ?_)
    rcases r with _ | rows <;> trivial
  | get id =>
    refine wp_answer_of_readOnly _ (readOnly_bind (readOnly_read _) fun r => ?_)
    rcases r with _ | _ | sj <;> trivial
  | create body => exact wp_answer _ (wp_scheduleCreate env cfg.cron)
  | update id body => exact wp_answer _ (wp_scheduleUpdate env cfg.cron)
  | delete id => exact wp_answer _ (wp_scheduleAct env (.schedule .delete) rfl)
  | enable id => exact wp_answer _ (wp_scheduleAct env (.schedule .enable) rfl)
  | disable id => exact wp_answer _ (wp_scheduleAct env (.schedule .disable) rfl)

lemma wp_handler : (handler cfg env req caller).wp (Step caller db req) (fun _ _ => True) db := by
  cases req with
  | group r => exact wp_groupHandler env db r
  | site r => exact wp_siteHandler env db r
  | tag r => exact wp_tagHandler env db
  | device r => exact wp_deviceHandler cfg env db
  | job r => exact wp_jobHandler cfg env db
  | schedule r => exact wp_scheduleHandler cfg env db

lemma wp_serve : (serve cfg env caller req).wp (Step caller db req) (fun _ _ => True) db := by
  unfold serve ApiAuth.require
  split
  · exact wp_handler cfg env db req
  split
  · exact wp_handler cfg env db req
  · trivial

end

end Moebius.Api
