import Moebius.Checkin
import Moebius.AgentJobs
import Moebius.CheckThenAct

/-!
What the statements of an agent's request can do.

A request of an agent is a check-in, an acknowledgement or a result. Run without interruption,
each of its statements is an `AgentStep`: it leaves the job rows alone, changes them by one of
the updates of `AgentUpdate`, or inserts a retry; and of the other tables it changes only what
belongs to the agent.
-/

namespace Moebius

open Proc Table AgentJobs Checkin

def Own (who : AgentIdentity) (j : JobRow) : Prop :=
  j.deviceID = who.agentID ∧ j.tenantID = who.tenantID

/-- A row as every insertion writes it. -/
structure Fresh (row : JobRow) : Prop where
  status : row.status = .queued
  dispatchedAt : row.dispatchedAt = none
  acknowledgedAt : row.acknowledgedAt = none
  startedAt : row.startedAt = none
  completedAt : row.completedAt = none
  lastError : row.lastError = none

structure RetryOf (parent row : JobRow) : Prop where
  parentJobID : row.parentJobID = some parent.id
  tenantID : row.tenantID = parent.tenantID
  deviceID : row.deviceID = parent.deviceID
  type : row.type = parent.type
  payload : row.payload = parent.payload
  retryPolicy : row.retryPolicy = parent.retryPolicy
  retryCount : row.retryCount = parent.retryCount + 1
  maxRetries : row.maxRetries = parent.maxRetries
  createdBy : row.createdBy = parent.createdBy

/-- The updates of job rows an agent can cause, with what the handler has just read. The agent
has reported `reported` as a failed update. -/
inductive AgentUpdate (who : AgentIdentity) (reported : Option String) (db : Db) :
    JobUpdate → Prop
  | reportFailed {jobID lastError : String} {now : Time} (h : reported = some jobID) :
      AgentUpdate who reported db (.reportFailed jobID who.tenantID lastError now)
  | requeueStale {cutoff : Time} :
      AgentUpdate who reported db (.requeueStale who.agentID who.tenantID cutoff)
  | holdQueued : AgentUpdate who reported db (.holdQueued who.agentID who.tenantID)
  | releaseHeld : AgentUpdate who reported db (.releaseHeld who.agentID who.tenantID)
  | markDispatched {j : JobRow} {now : Time} (h : db.job? j.id = some j) (own : Own who j)
      (hs : j.status = .queued) : AgentUpdate who reported db (.markDispatched j.id now)
  | markAcknowledged {j : JobRow} {now : Time} (h : db.job? j.id = some j) (own : Own who j)
      (hs : j.status = .dispatched) : AgentUpdate who reported db (.markAcknowledged j.id now)
  | finish {j : JobRow} {status : JobStatus} {now : Time} {lastError : String}
      {startedAt : Option Time} (h : db.job? j.id = some j) (own : Own who j)
      (hs : j.status = .acknowledged ∨ j.status = .running)
      (ht : status = .completed ∨ status = .failed ∨ status = .timedOut) :
      AgentUpdate who reported db (.finish j.id status now lastError startedAt)

/-- Outside the job table only rows of the agent `D` change. -/
structure Rest (D : String) (a b : Db) : Prop where
  others : { b with devices := a.devices, jobs := a.jobs, jobResults := a.jobResults,
                    inventoryHardware := a.inventoryHardware,
                    inventoryPackages := a.inventoryPackages, auditLog := a.auditLog } = a
  devices : SameOn (fun d => d.id ≠ D) a.devices b.devices
  hardware : SameOn (fun r => r.deviceID ≠ D) a.inventoryHardware b.inventoryHardware
  packages : SameOn (fun r => r.deviceID ≠ D) a.inventoryPackages b.inventoryPackages
  resultsKept : ∀ r ∈ a.jobResults.rows, r ∈ b.jobResults.rows
  resultsNew : ∀ r ∈ b.jobResults.rows,
    r ∈ a.jobResults.rows ∨ ∃ j, b.job? r.jobID = some j ∧ j.deviceID = D
  auditKept : ∀ r ∈ a.auditLog.rows, r ∈ b.auditLog.rows
  auditNew : ∀ r ∈ b.auditLog.rows, r ∈ a.auditLog.rows ∨ r.actorID = D

structure AgentStep (who : AgentIdentity) (reported : Option String) (a b : Db) : Prop where
  jobs : b.jobs = a.jobs ∨
    (∃ u, AgentUpdate who reported a u ∧ b.jobs = (a.updateJobs u).jobs) ∨
    ∃ parent row, a.job? parent.id = some parent ∧ Own who parent ∧ RetryOf parent row ∧
      Fresh row ∧ a.jobs.insert row = some b.jobs
  rest : Rest who.agentID a b

structure Quiet (D : String) (a b : Db) : Prop where
  jobs : b.jobs = a.jobs
  rest : Rest D a b

lemma Rest.refl (D : String) (db : Db) : Rest D db db :=
  ⟨rfl, .refl _, .refl _, .refl _, fun _ h => h, fun _ h => .inl h, fun _ h => h,
    fun _ h => .inl h⟩

variable {D : String} {a b : Db}

lemma Quiet.refl (db : Db) : Quiet D db db := ⟨rfl, .refl D db⟩

lemma Quiet.job? (h : Quiet D a b) (id : String) : b.job? id = a.job? id := by
  simp only [Db.job?, h.jobs]

/-- Rows of the agent stay rows of the agent, as long as no job leaves its device. -/
lemma Rest.trans {c : Db} (h : Rest D a b) (h' : Rest D b c)
    (hkept : ∀ {id j}, b.job? id = some j → ∃ j', c.job? id = some j' ∧ j'.deviceID = j.deviceID) :
    Rest D a c where
  others := by
    rw [← h'.others] at h
    exact h.others
  devices := h.devices.trans h'.devices
  hardware := h.hardware.trans h'.hardware
  packages := h.packages.trans h'.packages
  resultsKept := fun r hr => h'.resultsKept r (h.resultsKept r hr)
  resultsNew := fun r hr => by
    rcases h'.resultsNew r hr with hb | hc
    · rcases h.resultsNew r hb with ha | ⟨j, hj, hD⟩
      · exact .inl ha
      · obtain ⟨j', hj', hdev⟩ := hkept hj
        exact .inr ⟨j', hj', hdev.trans hD⟩
    · exact .inr hc
  auditKept := fun r hr => h'.auditKept r (h.auditKept r hr)
  auditNew := fun r hr => by
    rcases h'.auditNew r hr with hb | hc
    · exact h.auditNew r hb
    · exact .inr hc

lemma Quiet.trans (a b c : Db) (h : Quiet D a b) (h' : Quiet D b c) : Quiet D a c where
  jobs := h'.jobs.trans h.jobs
  rest := h.rest.trans h'.rest fun {id j} hj => ⟨j, by rw [h'.job?, hj], rfl⟩

lemma Quiet.step {who : AgentIdentity} {reported : Option String}
    (h : Quiet who.agentID a b) : AgentStep who reported a b :=
  ⟨.inl h.jobs, h.rest⟩

lemma wp_quiet {α : Type} {who : AgentIdentity} {reported : Option String} {p : Proc Db α}
    {db : Db} {Q : α → Db → Prop} (hp : p.Each (Quiet who.agentID))
    (hQ : ∀ x db', Quiet who.agentID db db' → Q x db') : p.wp (AgentStep who reported) Q db :=
  wp_mono (fun _ _ h => h.step) (fun x _ h => hQ x _ h.1) (wp_keeps .refl .trans (wp_of_each hp db))

section

variable (db : Db)

lemma rest_updateJobs (u : JobUpdate) : Rest D db (db.updateJobs u) :=
  { Rest.refl D db with resultsNew := fun _ h => .inl h }

lemma quiet_updateDevice (now : Time) (req : CheckinRequest) (tenantID : String) :
    Quiet D db (db.updateDevice now req D tenantID) where
  jobs := rfl
  rest :=
    { Rest.refl D db with
      devices := by
        refine sameOn_of_map rfl (fun d _ => ?_) fun d _ hd => ?_
        · split <;> rfl
        · rw [if_neg]
          rintro ⟨rfl, -⟩
          simp at hd }

variable {db} {db' : Db}

lemma quiet_insertAudit {row : AuditRow} (hD : row.actorID = D)
    (h : db.insertAudit row = some db') : Quiet D db db' := by
  obtain ⟨-, t, ht, rfl⟩ := eq_some_of_guard h
  refine ⟨rfl, { Rest.refl D db with
    auditKept := fun r hr => (mem_insert ht).mpr (.inl hr), auditNew := fun r hr => ?_ }⟩
  rcases (mem_insert ht).mp hr with hr | rfl
  · exact .inl hr
  · exact .inr hD

lemma quiet_insertResult {row : JobResultRow} {j : JobRow} (hj : db.job? row.jobID = some j)
    (hD : j.deviceID = D) (h : db.insertResult row = some db') : Quiet D db db' := by
  obtain ⟨-, t, ht, rfl⟩ := eq_some_of_guard h
  refine ⟨rfl, { Rest.refl D db with
    resultsKept := fun r hr => (mem_insert ht).mpr (.inl hr), resultsNew := fun r hr => ?_ }⟩
  rcases (mem_insert ht).mp hr with hr | rfl
  · exact .inl hr
  · exact .inr ⟨j, hj, hD⟩

lemma rest_insertJob {row : JobRow} (h : db.insertJob row = some db') : Rest D db db' := by
  obtain ⟨⟨jobs, -, rfl⟩, -⟩ := Db.insertJob_eq_some h
  exact { Rest.refl D db with resultsNew := fun _ h => .inl h }

end

lemma quiet_logAction (env : Env) (tenantID actorType action resourceType resourceID : String)
    (metadata : List (String × String)) :
    (logAction env tenantID D actorType action resourceType resourceID metadata).Each (Quiet D) :=
  each_bind (each_attempt .refl fun _ _ => quiet_insertAudit rfl) fun _ => trivial

/-! ### The inventory -/

/-- A statement on the inventory of a device. -/
inductive InventoryStep (D : String) (a : Db) : Db → Prop
  | refused : InventoryStep D a a
  | addPackage {row : PackageRow} {b : Db} (hD : row.deviceID = D) (h : a.addPackage row = some b) :
      InventoryStep D a b
  | updatePackage {version name manager : String} {now : Time} :
      InventoryStep D a (a.updatePackage version now D name manager)
  | deletePackage {name manager : String} : InventoryStep D a (a.deletePackage D name manager)
  | deletePackages : InventoryStep D a (a.deletePackages D)
  | insertPackage {row : PackageRow} {b : Db} (hD : row.deviceID = D)
      (h : a.insertPackage row = some b) : InventoryStep D a b
  | deleteHardware : InventoryStep D a (a.deleteHardware D)
  | insertHardware {row : HardwareRow} {b : Db} (hD : row.deviceID = D)
      (h : a.insertHardware row = some b) : InventoryStep D a b

lemma InventoryStep.eq (h : InventoryStep D a b) :
    b = { a with
      inventoryHardware := b.inventoryHardware, inventoryPackages := b.inventoryPackages } := by
  cases h with
  | addPackage hD h =>
    unfold Db.addPackage at h
    split at h
    · split at h <;> cases h <;> rfl
    · cases h
  | insertPackage hD h | insertHardware hD h =>
    obtain ⟨-, t, -, rfl⟩ := eq_some_of_guard h
    rfl
  | _ => rfl

lemma quiet_packages {t : Table PackageRow.id}
    (h : SameOn (fun r => r.deviceID ≠ D) a.inventoryPackages t) :
    Quiet D a { a with inventoryPackages := t } :=
  ⟨rfl, { Rest.refl D a with packages := h }⟩

lemma InventoryStep.quiet (h : InventoryStep D a b) : Quiet D a b := by
  cases h with
  | refused => exact .refl a
  | addPackage hD h =>
    unfold Db.addPackage at h
    split at h
    · split at h <;> cases h
      · rename_i t ht
        exact quiet_packages (sameOn_insert ht (by simp [hD]))
      · exact .refl a
    · cases h
  | updatePackage =>
    refine quiet_packages (sameOn_of_map rfl (fun d _ => ?_) fun d _ hd => ?_)
    · split <;> rfl
    · rw [if_neg]
      rintro ⟨rfl, -⟩
      simp at hd
  | deletePackage =>
    exact quiet_packages (sameOn_delete fun r _ hr => by simp at hr ⊢; exact fun h => absurd h hr)
  | deletePackages => exact quiet_packages (sameOn_delete fun r _ hr => by simpa using hr)
  | insertPackage hD h =>
    obtain ⟨-, t, ht, rfl⟩ := eq_some_of_guard h
    exact quiet_packages (sameOn_insert ht (by simp [hD]))
  | deleteHardware =>
    exact ⟨rfl, { Rest.refl D a with
      hardware := sameOn_delete fun r _ hr => by simpa using hr }⟩
  | insertHardware hD h =>
    obtain ⟨-, t, ht, rfl⟩ := eq_some_of_guard h
    exact ⟨rfl, { Rest.refl D a with hardware := sameOn_insert ht (by simp [hD]) }⟩

lemma quiet_of_inventory {α : Type} {p : Proc Db α} (h : p.Each (InventoryStep D)) :
    p.Each (Quiet D) :=
  each_mono (fun _ _ => InventoryStep.quiet) h

variable {env : Env}

lemma each_forPackages {R : Db → Db → Prop} {stmt : ℕ → PackageRef → Proc Db Bool}
    (h : ∀ i p, (stmt i p).Each R) {ps : List PackageRef} : (forPackages stmt ps).Each R := by
  refine each_loop (fun i p _ => each_bind (h i p) fun ok => ?_) 0
  cases ok <;> trivial

lemma each_processDelta {who : AgentIdentity} {delta : Option InventoryDelta} :
    (processDelta env who delta).Each (InventoryStep who.agentID) := by
  unfold processDelta
  split
  · trivial
  refine each_bind ?_ fun _ => trivial
  refine each_bind (each_forPackages fun i p =>
    each_attempt (fun _ => .refused) fun _ _ => .addPackage rfl) fun r => ?_
  rcases r with _ | _
  · trivial
  refine each_bind (each_forPackages fun i p => by exact each_exec fun _ => .updatePackage)
    fun r => ?_
  rcases r with _ | _
  · trivial
  refine each_bind (each_forPackages fun i p => by exact each_exec fun _ => .deletePackage)
    fun r => ?_
  rcases r with _ | _ <;> trivial

lemma each_replacePackages {packages : List PackageRef} :
    (replacePackages env D packages).Each (InventoryStep D) := by
  unfold replacePackages
  split
  · trivial
  refine each_bind (each_exec fun _ => .deletePackages) fun _ => each_bind ?_ fun _ => trivial
  refine each_loop (fun i p _ =>
    each_bind (each_attempt (fun _ => .refused) fun _ _ => .insertPackage rfl) fun ok => ?_) 0
  cases ok <;> trivial

lemma each_storeInventory {who : AgentIdentity} {req : JobResultSubmission} {target : JobStatus}
    {j : JobRow} : (storeInventory env who req target j).Each (InventoryStep who.agentID) := by
  unfold storeInventory
  split
  · unfold processFullInventory
    split
    · trivial
    split
    · exact each_replacePackages
    refine each_bind (each_bind (each_exec fun _ => .deleteHardware) fun _ =>
      each_attempt (fun _ => .refused) fun _ _ => .insertHardware rfl) fun ok => ?_
    cases ok
    · trivial
    · exact each_replacePackages
  · trivial

lemma each_retryIfAllowed {R : Db → Db → Prop} (hrefl : ∀ db, R db db)
    (hinsert : ∀ (row : JobRow) (a b : Db), a.insertJob row = some b → R a b) {who : AgentIdentity}
    {jobID : String} {target : JobStatus} {j : JobRow} :
    (retryIfAllowed env who jobID target j).Each R := by
  unfold retryIfAllowed
  split
  · refine each_bind (each_of_readOnly (readOnly_read _) hrefl) fun r => ?_
    rcases r with _ | _ | parent
    · trivial
    · trivial
    · exact each_bind (each_attempt hrefl (hinsert _)) fun _ => trivial
  · trivial

end Moebius
