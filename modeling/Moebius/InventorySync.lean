import Moebius.CheckinEffect
import Moebius.Concurrent
import Moebius.PackageDelta

/-!
The packages of a device and the rows the server has of them, over whole runs.

The agent moves its snapshot on whenever it computes a delta: at a check-in, whether the server gets
it or not, and after every package job that succeeds, whose delta nobody sends. A full inventory
replaces the rows at the server and leaves the snapshot behind.
-/

namespace Moebius.Inventory

open Proc Diff AgentJobs Checkin List Db Table

/-! ### The device -/

/-- What a collection can find; the managers are `apt` and `rpm`. -/
abbrev Packages := { ps : List PackageRef // Plain ps }

structure Delivery where
  env : Env
  faults : List Bool := []

structure PackageResult where
  success : Bool
  exitCode : Option ℤ := none
  stdout : String := ""
  stderr : String := ""
  error : String := ""

structure Execution where
  /-- The packages that are installed when the package manager has run. -/
  packages : Packages
  result : PackageResult
  pkgName : String := ""
  scan : Scan PackageRef := .heap
  hardware : Option FullInventoryHW := none
  /-- The text of the inventory. -/
  data : String := ""
  /-- The result of a job that has nothing to do with packages. -/
  other : JobResultSubmission := { status := "failed" }

/-- The result of a job on its way to the server, with the inventory that its output encodes. -/
structure Submission where
  jobID : String
  body : JobResultSubmission
  inventory : Option (Option FullInventoryHW × Packages) := none

structure Site where
  /-- What a collection would find. -/
  host : Packages
  last : Option Snapshot
  db : Db
  /-- The results of jobs that have been executed; each may arrive at any time, or never. -/
  results : List Submission := []

structure CheckinCall where
  scan : Scan PackageRef := .heap
  sequence : ℤ := 0
  status : AgentStatus := {}
  /-- `none` if the request does not reach the server. -/
  delivery : Option Delivery

inductive Event
  | change (packages : Packages)
  | acknowledge (jobID : String) (d : Delivery)
  | execute (jobID : String) (x : Execution)
  | submit (i : ℕ) (d : Delivery)
  | checkin (c : CheckinCall)

namespace Site

/-- The package manager runs, and `packageResultToJob`: the delta is computed and dropped. -/
def packageResultToJob (x : Execution) (action : String) (s : Site) : JobResultSubmission × Site :=
  if x.result.success then
    ({ status := "completed", exitCode := x.result.exitCode, stdout := x.result.stdout
       stderr := x.result.stderr, message := action ++ " succeeded for " ++ x.pkgName },
      { s with host := x.packages, last := (computeDelta x.scan x.packages.1 s.last).2 })
  else
    ({ status := "failed", exitCode := x.result.exitCode, stdout := x.result.stdout
       stderr := x.result.stderr, message := x.result.error },
      { s with host := x.packages })

def execute (jobID : String) (x : Execution) (type : JobType) (s : Site) : Site :=
  let after : Submission × Site := match type with
    | .packageInstall =>
      let r := packageResultToJob x "install" s
      ({ jobID, body := r.1 }, r.2)
    | .packageRemove =>
      let r := packageResultToJob x "remove" s
      ({ jobID, body := r.1 }, r.2)
    | .packageUpdate =>
      let r := packageResultToJob x "update" s
      ({ jobID, body := r.1 }, r.2)
    | .inventoryFull =>
      ({ jobID, body := { status := "completed", stdout := x.data }
         inventory := some (x.hardware, s.host) }, s)
    | _ => ({ jobID, body := x.other }, s)
  { after.2 with results := after.2.results ++ [after.1] }

/-- The server reads back the inventory that was written. -/
def reads (r : Submission) (env : Env) : Env :=
  { env with
    unmarshalInventory := fun data =>
      if data = r.body.stdout then r.inventory.map fun inv => ⟨inv.1, inv.2.1⟩
      else env.unmarshalInventory data }

def request (c : CheckinCall) (s : Site) : CheckinRequest where
  sequence := c.sequence
  status := c.status
  inventoryDelta := (computeDelta c.scan s.host.1 s.last).1.map fun p => ⟨some p⟩

variable (who : AgentIdentity) (c : CheckinCall) (s : Site)

def served (d : Delivery) (s : Site) : Reply CheckinResponse × Db :=
  (serveHTTP d.env who (some (s.request c))).run d.faults s.db

def step : Event → Site
  | .change packages => { s with host := packages }
  | .acknowledge jobID d =>
    { s with db := ((acknowledge d.env who jobID).run d.faults s.db).2 }
  | .execute jobID x =>
    match s.db.job? jobID with
    | none => s
    | some j => s.execute jobID x j.type
  | .submit i d =>
    match s.results[i]? with
    | none => s
    | some r =>
      { s with
        db := ((submitResult (reads r d.env) who r.jobID (some r.body)).run
          d.faults s.db).2 }
  | .checkin c =>
    { s with
      last := (computeDelta c.scan s.host.1 s.last).2
      db := match c.delivery with
        | none => s.db
        | some d => (s.served who c d).2 }

/-- After a check-in that is answered with `200`, the server's rows are the packages collected for
it. -/
def Converges : Event → Prop
  | .checkin c => ∀ d ∈ c.delivery, (s.served who c d).1.status = 200 →
      Mirrors who.agentID s.host.1 (s.step who (.checkin c)).db
  | _ => True

def Unchanged (ps : List PackageRef) (last : Option Snapshot) : Prop :=
  ∀ prev ∈ last,
    (∀ p ∈ (snapshot ps).rows, (prev.get? (pkgKey p)).map (·.version) = some p.version) ∧
      ∀ q ∈ prev.rows, ((snapshot ps).get? (pkgKey q)).isSome
  deriving Decidable

def IsPackageJob (type : JobType) : Prop :=
  type = .packageInstall ∨ type = .packageRemove ∨ type = .packageUpdate
  deriving Decidable

/-- The request reaches the server, no statement fails, and the identifiers drawn for the rows that
are added are new. -/
def Arrives : Prop :=
  c.delivery.isSome ∧ ∀ d ∈ c.delivery, true ∉ d.faults ∧
    ({ last := s.last, db := s.db } : Pair).DrawsFresh
      { packages := s.host.1, scan := c.scan, env := d.env }
  deriving Decidable

/-- The condition on a step: a package job that succeeds, a full inventory that is delivered and
an empty, failing or lost check-in meet a device whose packages are those of the snapshot; a full
inventory has no name twice and is stored without a fault. -/
def Careful : Event → Prop
  | .change _ => True
  | .acknowledge _ _ => True
  | .execute jobID x => ∀ j ∈ s.db.job? jobID, IsPackageJob j.type → x.result.success = true →
      Unchanged x.packages.1 s.last
  | .submit i d => ∀ r ∈ s.results[i]?, ∀ inv ∈ r.inventory,
      Unchanged inv.2.1 s.last ∧ (inv.2.1.map nameKey).Nodup ∧ true ∉ d.faults ∧
        Fresh d.env inv.2.1.length s.db
  | .checkin c => Unchanged s.host.1 s.last ∨ (s.host.1 ≠ [] ∧ s.Arrives c)

instance (s : Site) : DecidablePred s.Careful := fun e => by
  unfold Careful
  split <;> infer_instance

end Site

variable {deviceID : String}

/-- The device stays, and so do the jobs with their types. -/
structure Stays (deviceID : String) (a b : Db) : Prop where
  device : (a.devices.get? deviceID).isSome → (b.devices.get? deviceID).isSome
  types : ∀ id j, a.job? id = some j → ∃ j', b.job? id = some j' ∧ j'.type = j.type

lemma Stays.trans {a b c : Db} (h : Stays deviceID a b) (h' : Stays deviceID b c) :
    Stays deviceID a c where
  device := fun hd => h'.device (h.device hd)
  types := by
    intro id j hj
    obtain ⟨j₁, hj₁, htype₁⟩ := h.types id j hj
    obtain ⟨j₂, hj₂, htype₂⟩ := h'.types id j₁ hj₁
    exact ⟨j₂, hj₂, htype₂.trans htype₁⟩

structure Keeps (deviceID : String) (a b : Db) : Prop extends Stays deviceID a b where
  packages : b.inventoryPackages = a.inventoryPackages

namespace Keeps

variable {a b c db : Db}

lemma refl (a : Db) : Keeps deviceID a a := ⟨⟨fun h => h, fun _ j h => ⟨j, h, rfl⟩⟩, rfl⟩

lemma trans (h : Keeps deviceID a b) (h' : Keeps deviceID b c) : Keeps deviceID a c :=
  ⟨h.toStays.trans h'.toStays, h'.packages.trans h.packages⟩

lemma of_eq (hp : b.inventoryPackages = a.inventoryPackages) (hd : b.devices = a.devices)
    (hj : b.jobs = a.jobs) : Keeps deviceID a b where
  packages := hp
  device := fun h => by rw [hd]; exact h
  types := fun id j h => ⟨j, by rw [job?_congr hj]; exact h, rfl⟩

lemma updateJobs (u : JobUpdate) (db : Db) : Keeps deviceID db (db.updateJobs u) where
  packages := rfl
  device := fun h => h
  types := by
    intro id j hj
    refine ⟨u.onRow j, ?_, (u.onRow_same j).type⟩
    rw [job?_updateJobs, hj]
    rfl

lemma updateDevice (now : Time) (req : CheckinRequest) (id tenantID : String) (db : Db) :
    Keeps deviceID db (db.updateDevice now req id tenantID) where
  packages := rfl
  device := by
    intro h
    simp only [Db.updateDevice, get?_update, Option.isSome_map]
    exact h
  types := fun id j h => ⟨j, h, rfl⟩

lemma log (db : Db) (log : Table AuditRow.id) : Keeps deviceID db { db with auditLog := log } :=
  of_eq rfl rfl rfl

lemma insertResult {row : JobResultRow} (h : db.insertResult row = some b) :
    Keeps deviceID db b := by
  obtain ⟨-, t, -, rfl⟩ := eq_some_of_guard h
  exact of_eq rfl rfl rfl

lemma insertHardware {row : HardwareRow} (h : db.insertHardware row = some b) :
    Keeps deviceID db b := by
  obtain ⟨-, t, -, rfl⟩ := eq_some_of_guard h
  exact of_eq rfl rfl rfl

lemma insertJob {row : JobRow} (h : db.insertJob row = some b) : Keeps deviceID db b := by
  obtain ⟨⟨jobs, hjobs, rfl⟩, -⟩ := insertJob_eq_some h
  refine ⟨⟨fun hd => hd, fun id j hj => ⟨j, ?_, rfl⟩⟩, rfl⟩
  exact get?_insert_of_some hjobs hj

lemma deleteHardware (id : String) (db : Db) : Keeps deviceID db (db.deleteHardware id) :=
  of_eq rfl rfl rfl

lemma of_each {α : Type} {p : Proc Db α} (h : p.Each (Keeps deviceID)) (fs : List Bool) (db : Db) :
    Keeps deviceID db (p.run fs db).2 :=
  wp_rel refl (fun _ _ _ => trans) (wp_of_each h db) fs

end Keeps

variable {ps : List PackageRef}

section

variable (env : Env) (who : AgentIdentity) (jobID : String) (req : JobResultSubmission)
  (target : JobStatus) (j : JobRow)

lemma keeps_reportFailedUpdate {req : CheckinRequest} :
    (reportFailedUpdate env who req.status).Each (Keeps deviceID) :=
  each_reportFailedUpdate .log fun u _ _ db => .updateJobs u db

lemma keeps_respond {jobs : List JobRow} : (respond env jobs).Each (Keeps deviceID) :=
  each_respond fun _ _ db => .updateJobs _ db

def afterDelta (req : CheckinRequest) : Proc Db (Except (Reply CheckinResponse) (List JobRow)) := do
  let _ ← exec (updateJobs (.requeueStale who.agentID who.tenantID (env.now - 60 * second)))
  match ← fetchDispatchableJobs env who req.status.cdmEnabled
      req.status.cdmSessionActive with
  | none => pure (.error (.err 500 "failed to fetch jobs"))
  | some jobs => pure (.ok jobs)

lemma afterReport_eq {req : CheckinRequest} : afterReport env who req =
    (processDelta env who req.inventoryDelta).bind fun _ => afterDelta env who req := rfl

lemma keeps_afterDelta {req : CheckinRequest} : (afterDelta env who req).Each (Keeps deviceID) := by
  have h : (afterReport env who { req with inventoryDelta := none }).Each (Keeps deviceID) :=
    each_afterReport .log (fun u _ _ db => .updateJobs u db) trivial
  exact h

lemma keeps_serveHTTP {req : CheckinRequest} (hdelta : req.inventoryDelta = none) :
    (serveHTTP env who (some req)).Each (Keeps deviceID) := by
  refine each_bind ?_ fun r => ?_
  · unfold fetch
    split
    · trivial
    · refine each_bind (each_exec fun db => .updateDevice _ _ _ _ db) fun ok => ?_
      cases ok
      · trivial
      · refine each_bind (keeps_reportFailedUpdate env who) fun _ => ?_
        rw [afterReport_eq, hdelta]
        exact keeps_afterDelta env who
  · rcases r with e | jobs
    · trivial
    · exact keeps_respond env

/-- A check-in without faults is the delta, with nothing around it that matters here. -/
lemma run_checkin {req : CheckinRequest} (hids : ¬ (who.agentID = "" ∨ who.tenantID = ""))
    {db : Db} : ∃ db₁, Keeps who.agentID db db₁ ∧
      Keeps who.agentID ((processDelta env who req.inventoryDelta).run [] db₁).2
        ((serveHTTP env who (some req)).run [] db).2 := by
  let db₁ := ((reportFailedUpdate env who req.status).run []
    (db.updateDevice env.now req who.agentID who.tenantID)).2
  have hbefore : Keeps who.agentID db db₁ :=
    (Keeps.updateDevice _ _ _ _ db).trans (.of_each (keeps_reportFailedUpdate env who) [] _)
  let db₂ := ((processDelta env who req.inventoryDelta).run [] db₁).2
  have hfetch : (fetch env who (some req)).run [] db = (afterDelta env who req).run [] db₂ := by
    simp only [fetch, if_neg hids, bind_eq, run_nil_bind, run_nil_exec, if_true,
      afterReport_eq, db₂, db₁]
  refine ⟨db₁, hbefore, ?_⟩
  have hafter : Keeps who.agentID db₂ ((fetch env who (some req)).run [] db).2 := by
    rw [hfetch]
    exact .of_each (keeps_afterDelta env who) [] db₂
  refine hafter.trans ?_
  rw [serveHTTP, bind_eq, run_nil_bind]
  cases ((fetch env who (some req)).run [] db).1 with
  | error r => exact .refl _
  | ok jobs => exact .of_each (keeps_respond env) [] _

def afterInventory (jobID : String) (target : JobStatus) (j : JobRow) : Proc Db (Reply Unit) := do
  logAction env who.tenantID who.agentID "agent" "job.result" "job" jobID
    [("status", target.text)]
  retryIfAllowed env who jobID target j
  pure (.ok 204 ())

lemma afterResult_eq : afterResult env who jobID req target j =
      (storeInventory env who req target j).bind fun _ =>
        afterInventory env who jobID target j := rfl

lemma keeps_afterInventory : (afterInventory env who jobID target j).Each (Keeps deviceID) := by
  refine each_bind (each_logAction .log) fun _ => ?_
  exact each_bind (each_retryIfAllowed .refl fun _ _ _ => .insertJob) fun _ => trivial

lemma keeps_recordResult {j : JobRow} (htype : j.type ≠ .inventoryFull) {jobID : String}
    {req : JobResultSubmission} {target : JobStatus} :
    (recordResult env who jobID req target j).Each (Keeps deviceID) := by
  refine each_bind (each_attempt .refl fun _ _ h => .insertResult h) fun ok => ?_
  cases ok
  · trivial
  refine each_bind (each_exec fun db => .updateJobs _ db) fun ok => ?_
  cases ok
  · trivial
  have hskip : storeInventory env who req target j = pure () := by
    simp only [storeInventory, htype, false_and, if_false]
  simp only [if_true, afterResult_eq, hskip]
  exact keeps_afterInventory env who jobID target j

lemma keeps_submitResult {jobID : String} {db : Db}
    (htype : ∀ j, db.job? jobID = some j → j.type ≠ .inventoryFull) (req : JobResultSubmission)
    (fs : List Bool) :
    Keeps deviceID db ((submitResult env who jobID (some req)).run fs db).2 := by
  refine wp_rel .refl (fun _ _ _ => .trans) (Q := fun _ _ => True) ?_ fs
  simp only [submitResult]
  cases targetStatus req.status with
  | none => trivial
  | some target =>
    simp only [bind_eq, wp_bind, wp_read]
    refine ⟨⟨.refl db, ?_⟩, trivial⟩
    rcases hj : agentJob who jobID db with _ | j
    · trivial
    · have hfound : db.job? jobID = some j := (Option.filter_eq_some_iff.mp hj).1
      dsimp only
      split
      · trivial
      · exact wp_of_each (keeps_recordResult env who (htype j hfound)) db

/-! ### Full inventories -/

lemma filter_nameKey_of_nodup (h : (ps.map nameKey).Nodup) {k : String × String} :
    (ps.filter fun p => nameKey p = k) = (listed ps k).toList := by
  have hnodup : ((ps.filter fun p => nameKey p = k).map nameKey).Nodup :=
    h.sublist (filter_sublist.map nameKey)
  have hkey : ∀ p ∈ ps.filter fun p => nameKey p = k, nameKey p = k := fun p hp => by
    simpa using (mem_filter.mp hp).2
  unfold listed
  rcases hl : ps.filter fun p => nameKey p = k with _ | ⟨p, _ | ⟨q, rest⟩⟩
  · rfl
  · rfl
  · -- two packages of one name
    rw [hl] at hnodup hkey
    have hp := hkey p mem_cons_self
    have hq := hkey q (mem_cons_of_mem _ mem_cons_self)
    simp [hp, hq] at hnodup

lemma isDiff_added (h : (ps.map nameKey).Nodup) :
    IsDiff (fun _ => none) (versionOf ps) (ps.map fun p => .add (nameKey p) p.version) := by
  intro k
  rw [filter_key_map (fun _ => rfl), filter_nameKey_of_nodup h, versionOf]
  cases hl : listed ps k with
  | none => rfl
  | some p => simp [between, (nameKey_of_listed hl).2]

lemma held_deletePackages {db : Db} : held deviceID (db.deletePackages deviceID) = fun _ => [] := by
  funext k
  simp only [held, deletePackages, select, delete, filter_filter,
    map_eq_nil_iff, filter_eq_nil_iff]
  intro r _ hr
  simp only [Bool.and_eq_true, decide_eq_true_eq, Bool.not_eq_true', decide_eq_false_iff_not] at hr
  exact hr.2 hr.1.1

lemma Fresh.deletePackages {n : ℕ} {db : Db} (h : Fresh env n db) :
    Fresh env n (db.deletePackages deviceID) := by
  unfold Fresh at h ⊢
  exact h.sublist ((Sublist.refl _).append (filter_sublist.map _))

lemma run_replacePackages {db : Db} (hnodup : (ps.map nameKey).Nodup)
    (hdevice : (db.devices.get? deviceID).isSome) (hfresh : Fresh env ps.length db) :
    ((replacePackages env deviceID ps).run [] db).2.devices = db.devices ∧
      (held deviceID ((replacePackages env deviceID ps).run [] db).2 = held deviceID db ∨
        Mirrors deviceID ps ((replacePackages env deviceID ps).run [] db).2) := by
  by_cases hps : ps = []
  · simp [replacePackages, hps]
  · have hfresh' : Fresh env ps.length (db.deletePackages deviceID) := hfresh.deletePackages env
    rw [Fresh, range_eq_range'] at hfresh'
    have hadd : ∀ row (db : Db), db.inventoryPackages.get? row.id = none →
        db.insertPackage row = db.addPackage row := by
      intro row db hnone
      obtain ⟨t, ht⟩ := exists_insert hnone
      simp [insertPackage, addPackage, ht]
    have hdevice' : ((db.deletePackages deviceID).devices.get? deviceID).isSome := hdevice
    obtain ⟨n, db', hrun, hdevices, hheld⟩ :=
      run_addPackages env (env.clock 2) hadd ps 0 hdevice' hfresh'
    have hend : ((replacePackages env deviceID ps).run [] db).2 = db' := by
      have hrun' : (insertPackages env deviceID ps).run []
          (db.deletePackages deviceID) = (.ok n, db') := hrun
      simp only [replacePackages, if_neg hps, bind_eq, run_nil_bind, run_nil_exec, hrun']
      rfl
    rw [hend]
    refine ⟨hdevices, .inr fun k => ?_⟩
    rw [hheld, held_deletePackages]
    exact congrFun (applyAll_of_isDiff (isDiff_added hnodup)) k

variable {env who}

lemma Fresh.of_keeps {n : ℕ} {a b : Db} (h : Fresh env n a) (hk : Keeps deviceID a b) :
    Fresh env n b := by
  unfold Fresh at h ⊢
  rw [hk.packages]
  exact h

lemma Keeps.held_eq {a b : Db} (h : Keeps deviceID a b) : held deviceID b = held deviceID a := by
  funext k
  simp only [held, h.packages]

/-- The rows of the device stay, or become those of a list. -/
structure Replaces (deviceID : String) (ps : List PackageRef) (a b : Db) : Prop
    extends Stays deviceID a b where
  rows : held deviceID b = held deviceID a ∨ Mirrors deviceID ps b

variable {a b c db : Db}

lemma Keeps.replaces (h : Keeps deviceID a b) : Replaces deviceID ps a b :=
  ⟨h.toStays, .inl h.held_eq⟩

lemma Replaces.trans_keeps (h : Replaces deviceID ps a b) (h' : Keeps deviceID b c) :
    Replaces deviceID ps a c := by
  refine ⟨h.toStays.trans h'.toStays, ?_⟩
  rcases h.rows with hsame | hmirrors
  · exact .inl (h'.held_eq.trans hsame)
  · refine .inr fun k => ?_
    rw [h'.held_eq]
    exact hmirrors k

lemma Keeps.trans_replaces (h : Keeps deviceID a b) (h' : Replaces deviceID ps b c) :
    Replaces deviceID ps a c :=
  ⟨h.toStays.trans h'.toStays, h'.rows.imp_left fun hsame => hsame.trans h.held_eq⟩

lemma replaces_replacePackages (hnodup : (ps.map nameKey).Nodup)
    (hdevice : (db.devices.get? deviceID).isSome) (hfresh : Fresh env ps.length db) :
    Replaces deviceID ps db ((replacePackages env deviceID ps).run [] db).2 := by
  obtain ⟨hdevices, hrows⟩ := run_replacePackages env hnodup hdevice hfresh
  refine ⟨⟨fun _ => ?_, fun id j hj => ⟨j, ?_, rfl⟩⟩, hrows⟩
  · rw [hdevices]
    exact hdevice
  · exact (job?_congr (jobs_run_of_quiet (quiet_of_inventory each_replacePackages) []) id).trans hj

variable {hw : Option FullInventoryHW}

lemma replaces_processFullInventory {data : String}
    (hread : env.unmarshalInventory data = some ⟨hw, ps⟩) (hnodup : (ps.map nameKey).Nodup)
    (hdevice : (db.devices.get? deviceID).isSome) (hfresh : Fresh env ps.length db) :
    Replaces deviceID ps db ((processFullInventory env deviceID data).run [] db).2 := by
  simp only [processFullInventory, hread]
  cases hw with
  | none => exact replaces_replacePackages hnodup hdevice hfresh
  | some hw =>
    have hreplace : (replaceHardware env deviceID hw).Each (Keeps deviceID) :=
      each_bind (each_exec fun db => .deleteHardware _ db) fun _ =>
        each_attempt .refl fun _ _ h => .insertHardware h
    have hkeeps := Keeps.of_each hreplace [] db
    simp only [bind_eq, run_nil_bind]
    cases ((replaceHardware env deviceID hw).run [] db).1 with
    | false => exact hkeeps.replaces
    | true =>
      exact hkeeps.trans_replaces
        (replaces_replacePackages hnodup (hkeeps.device hdevice) (hfresh.of_keeps hkeeps))

lemma replaces_submitResult {req : JobResultSubmission}
    (hread : env.unmarshalInventory req.stdout = some ⟨hw, ps⟩) (hnodup : (ps.map nameKey).Nodup)
    (hdevice : (db.devices.get? who.agentID).isSome) (hfresh : Fresh env ps.length db)
    (jobID : String) : Replaces who.agentID ps db
      ((submitResult env who jobID (some req)).run [] db).2 := by
  have hsame : Replaces who.agentID ps db db := (Keeps.refl db).replaces
  simp only [submitResult]
  cases targetStatus req.status with
  | none => exact hsame
  | some target =>
    simp only [bind_eq, run_nil_bind, run_nil_read]
    cases agentJob who jobID db with
    | none => exact hsame
    | some j =>
      dsimp only
      cases validateTransition (effectiveStatus j.status) target with
      | error msg => exact hsame
      | ok _ =>
        simp only [recordResult, bind_eq, run_nil_bind]
        generalize hrun : (attempt (insertResult _)).run [] db = inserted
        have hinsert : Keeps who.agentID db inserted.2 := by
          rw [← hrun]
          exact .of_each (each_attempt .refl fun _ _ h => .insertResult h) [] db
        obtain ⟨ok, db₁⟩ := inserted
        cases ok
        · exact hinsert.replaces
        have hkeeps : Keeps who.agentID db _ :=
          hinsert.trans (.updateJobs (.finish jobID target env.now req.message req.startedAt) db₁)
        simp only [if_true, run_nil_bind, run_nil_exec, afterResult_eq]
        refine Replaces.trans_keeps ?_ (.of_each (keeps_afterInventory env who jobID target j) [] _)
        refine hkeeps.trans_replaces ?_
        unfold storeInventory
        split
        · exact replaces_processFullInventory hread hnodup (hkeeps.device hdevice)
            (hfresh.of_keeps hkeeps)
        · exact (Keeps.refl _).replaces

end

lemma Pair.Agrees.keeps {last : Option Snapshot} {a b : Db}
    (h : ({ last, db := a } : Pair).Agrees deviceID ps) (hk : Keeps deviceID a b) :
    ({ last, db := b } : Pair).Agrees deviceID ps where
  plain := h.plain
  last := h.last
  device := hk.device h.device
  mirrors := by
    intro k
    rw [hk.held_eq]
    exact h.mirrors k

namespace Site

lemma isEmpty_diff {prev : Snapshot} (h : Unchanged ps (some prev)) {scan : Scan PackageRef} :
    isEmpty (diff scan prev (snapshot ps)) = true := by
  obtain ⟨hcurrent, hprev⟩ := h prev rfl
  have hversion : ∀ p ∈ scan.order (snapshot ps).rows,
      (prev.get? (pkgKey p)).map (·.version) = some p.version :=
    fun p hp => hcurrent p ((scan.mem_order _ p).mp hp)
  simp only [isEmpty, diff, Bool.and_eq_true, List.isEmpty_iff, List.filter_eq_nil_iff]
  refine ⟨⟨fun p hp hnone => ?_, fun p hp hnone => ?_⟩, fun p hp hother => ?_⟩
  · have hv := hversion p hp
    rw [Option.isNone_iff_eq_none.mp hnone] at hv
    cases hv
  · have hsome := hprev p ((scan.mem_order _ p).mp hp)
    rw [Option.isNone_iff_eq_none.mp hnone] at hsome
    cases hsome
  · obtain ⟨q, hq, hqv⟩ := Option.map_eq_some_iff.mp (hversion p hp)
    rw [hq] at hother
    simp [hqv] at hother

lemma computeDelta_of_unchanged {last : Option Snapshot} (h : Unchanged ps last)
    (scan : Scan PackageRef) : (computeDelta scan ps last).1 = none := by
  unfold computeDelta
  split
  · rfl
  · cases last with
    | none => rfl
    | some prev => simp [isEmpty_diff h]

lemma versionOf_of_unchanged {qs : List PackageRef} (hp : Plain ps) (hq : Plain qs)
    (h : Unchanged qs (some (snapshot ps))) : versionOf ps = versionOf qs := by
  have hdiff := isDiff_patches hp hq .heap
  rw [Pair.patches_of_isEmpty (isEmpty_diff h)] at hdiff
  exact eq_of_isDiff_nil hdiff

variable (who : AgentIdentity)

/-- The server has what the snapshot says, and the results on their way that carry no inventory
belong to jobs that ask for none. -/
structure Synced (s : Site) : Prop where
  agrees : ∃ ps, ({ last := s.last, db := s.db } : Pair).Agrees who.agentID ps
  results : ∀ r ∈ s.results, r.inventory = none →
    ∃ j, s.db.job? r.jobID = some j ∧ j.type ≠ .inventoryFull

variable {who} {s : Site}

variable {qs : List PackageRef} {x : Execution} {d : Delivery} {c : CheckinCall}

lemma Synced.mirrors_of_unchanged (h : s.Synced who) (hq : Plain qs) (hsame : Unchanged qs s.last) :
    Mirrors who.agentID qs s.db := by
  obtain ⟨ps, hagrees⟩ := h.agrees
  have hlast : s.last = some (snapshot ps) := hagrees.last
  rw [hlast] at hsame
  intro k
  rw [← versionOf_of_unchanged hagrees.plain hq hsame]
  exact hagrees.mirrors k

lemma Synced.agrees_of_unchanged (h : s.Synced who) (hq : Plain qs) (hsame : Unchanged qs s.last)
    (scan : Scan PackageRef) :
    ∃ ps, ({ last := (computeDelta scan qs s.last).2, db := s.db } : Pair).Agrees
      who.agentID ps := by
  have hmirrors := h.mirrors_of_unchanged hq hsame
  obtain ⟨ps, hagrees⟩ := h.agrees
  have hlast : s.last = some (snapshot ps) := hagrees.last
  by_cases hempty : qs = []
  · refine ⟨ps, ?_⟩
    simpa [computeDelta, hempty] using hagrees
  · refine ⟨qs, hq, ?_, hagrees.device, hmirrors⟩
    simp [computeDelta, hempty, hlast]

lemma results_of_stays {a b : Db} {rs : List Submission} (hs : Stays deviceID a b)
    (h : ∀ r ∈ rs, r.inventory = none → ∃ j, a.job? r.jobID = some j ∧ j.type ≠ .inventoryFull) :
    ∀ r ∈ rs, r.inventory = none → ∃ j, b.job? r.jobID = some j ∧ j.type ≠ .inventoryFull := by
  intro r hr hnone
  obtain ⟨j, hj, htype⟩ := h r hr hnone
  obtain ⟨j', hj', hsame⟩ := hs.types _ _ hj
  exact ⟨j', hj', hsame ▸ htype⟩

lemma Synced.of_keeps (h : s.Synced who) {db : Db} (hk : Keeps who.agentID s.db db) :
    ({ s with db } : Site).Synced who where
  agrees := by
    obtain ⟨ps, hagrees⟩ := h.agrees
    exact ⟨ps, hagrees.keeps hk⟩
  results := results_of_stays hk.toStays h.results

/-! ### One step -/

lemma Synced.packageResultToJob (h : s.Synced who) (action : String)
    (hsame : x.result.success = true → Unchanged x.packages.1 s.last) :
    (s.packageResultToJob x action).2.Synced who := by
  unfold Site.packageResultToJob
  split
  · rename_i hsuccess
    exact ⟨h.agrees_of_unchanged x.packages.2 (hsame hsuccess) x.scan, h.results⟩
  · exact ⟨h.agrees, h.results⟩

lemma Synced.addResult (h : s.Synced who) {r : Submission} (hr : r.inventory = none →
    ∃ j, s.db.job? r.jobID = some j ∧ j.type ≠ .inventoryFull) :
    ({ s with results := s.results ++ [r] } : Site).Synced who where
  agrees := h.agrees
  results := by
    intro r' hr' hnone
    rcases mem_append.mp hr' with hold | hnew
    · exact h.results r' hold hnone
    · cases mem_singleton.mp hnew
      exact hr hnone

lemma db_packageResultToJob {action : String} : (s.packageResultToJob x action).2.db = s.db := by
  unfold packageResultToJob
  split <;> rfl

lemma Synced.execute (h : s.Synced who) {jobID : String} {j : JobRow}
    (hj : s.db.job? jobID = some j)
    (hsame : IsPackageJob j.type → x.result.success = true → Unchanged x.packages.1 s.last) :
    (s.execute jobID x j.type).Synced who := by
  have hpackage : ∀ action, IsPackageJob j.type →
      ({ (s.packageResultToJob x action).2 with
          results := (s.packageResultToJob x action).2.results ++
            [{ jobID, body := (s.packageResultToJob x action).1 }] } : Site).Synced who := by
    intro action htype
    refine (h.packageResultToJob action (hsame htype)).addResult fun _ => ⟨j, ?_, ?_⟩
    · rw [db_packageResultToJob]
      exact hj
    · rcases htype with ht | ht | ht <;> simp [ht]
  have hother : ∀ body, j.type ≠ .inventoryFull →
      ({ s with results := s.results ++ [{ jobID, body }] } : Site).Synced who :=
    fun body htype => h.addResult fun _ => ⟨j, hj, htype⟩
  unfold Site.execute
  cases htype : j.type with
  | packageInstall => exact hpackage "install" (.inl htype)
  | packageRemove => exact hpackage "remove" (.inr (.inl htype))
  | packageUpdate => exact hpackage "update" (.inr (.inr htype))
  | inventoryFull => exact h.addResult nofun
  | exec | fileTransfer | agentUpdate | agentRollback => exact hother _ (by simp [htype])

lemma Synced.of_replaces (h : s.Synced who) (hq : Plain qs) (hsame : Unchanged qs s.last) {db : Db}
    (hr : Replaces who.agentID qs s.db db) :
    ({ s with db } : Site).Synced who where
  agrees := by
    obtain ⟨ps, hagrees⟩ := h.agrees
    have hlast : s.last = some (snapshot ps) := hagrees.last
    rw [hlast] at hsame
    have hversion := versionOf_of_unchanged hagrees.plain hq hsame
    refine ⟨ps, hagrees.plain, hagrees.last, hr.device hagrees.device, fun k => ?_⟩
    rcases hr.rows with hrows | hmirrors
    · change held who.agentID db k = _
      rw [hrows]
      exact hagrees.mirrors k
    · rw [hversion]
      exact hmirrors k
  results := results_of_stays hr.toStays h.results

lemma Synced.submit (h : s.Synced who) {i : ℕ} (hcareful : s.Careful (.submit i d)) :
    (s.step who (.submit i d)).Synced who := by
  simp only [step]
  cases hi : s.results[i]? with
  | none => exact h
  | some r =>
    have hmem : r ∈ s.results := mem_of_getElem? hi
    cases hinv : r.inventory with
    | none =>
      obtain ⟨j, hj, htype⟩ := h.results r hmem hinv
      refine h.of_keeps (keeps_submitResult _ who (fun j' hj' => ?_) r.body d.faults)
      cases hj.symm.trans hj'
      exact htype
    | some inv =>
      obtain ⟨hsame, hnodup, hclean, hfresh⟩ := hcareful r hi inv hinv
      obtain ⟨ps, hagrees⟩ := h.agrees
      have hread : (reads r d.env).unmarshalInventory r.body.stdout = some ⟨inv.1, inv.2.1⟩ := by
        simp [reads, hinv]
      dsimp only
      rw [run_of_clean hclean]
      exact h.of_replaces inv.2.2 hsame
        (replaces_submitResult hread hnodup hagrees.device hfresh r.jobID)

lemma Synced.arrives (h : s.Synced who) (hids : ¬ (who.agentID = "" ∨ who.tenantID = ""))
    (hd : c.delivery = some d) (hne : s.host.1 ≠ []) (harrives : s.Arrives c) :
    (s.step who (.checkin c)).Synced who ∧
      Mirrors who.agentID s.host.1 (s.step who (.checkin c)).db := by
  obtain ⟨ps, hagrees⟩ := h.agrees
  obtain ⟨hclean, hfresh⟩ := harrives.2 d hd
  obtain ⟨db₁, hbefore, hafter⟩ := run_checkin d.env who hids
  -- the delta meets the rows the agent believes in
  let collection : Collection := { packages := s.host.1, scan := c.scan, env := d.env }
  have hfresh₁ : ({ last := s.last, db := db₁ } : Pair).DrawsFresh collection :=
    fun p hp => (hfresh p hp).of_keeps hbefore
  have hdelivered := (hagrees.keeps hbefore).deliver hne s.host.2 hfresh₁
  have hprocess : ((processDelta d.env who (s.request c).inventoryDelta).run [] db₁).2 =
      Pair.process who.agentID d.env (computeDelta c.scan s.host.1 s.last).1 db₁ := by
    simp only [request]
    cases (computeDelta c.scan s.host.1 s.last).1 with
    | none => rfl
    | some p =>
      simp only [processDelta, Option.map_some, Option.bind_some, bind_eq, run_nil_bind]
      rfl
  rw [hprocess] at hafter
  have hdb : (s.step who (.checkin c)).db =
      ((serveHTTP d.env who (some (s.request c))).run [] s.db).2 := by
    simp only [step, hd, served, run_of_clean hclean]
  have hend : ({ last := (s.step who (.checkin c)).last, db := (s.step who (.checkin c)).db } :
      Pair).Agrees who.agentID s.host.1 := by
    rw [hdb]
    exact hdelivered.keeps hafter
  have hstays : Stays who.agentID s.db (s.step who (.checkin c)).db := by
    have hquiet := hprocess ▸ jobs_run_of_quiet (quiet_of_inventory each_processDelta) []
    rw [hdb]
    exact (hbefore.toStays.trans ⟨fun _ => hdelivered.device, fun _ j hj =>
      ⟨j, (job?_congr hquiet _).trans hj, rfl⟩⟩).trans hafter.toStays
  exact ⟨⟨⟨_, hend⟩, results_of_stays hstays h.results⟩, hend.mirrors⟩

lemma Synced.idle (h : s.Synced who) (hsame : Unchanged s.host.1 s.last) :
    (s.step who (.checkin c)).Synced who ∧
      Mirrors who.agentID s.host.1 (s.step who (.checkin c)).db := by
  have hkeeps : Keeps who.agentID s.db (s.step who (.checkin c)).db := by
    simp only [step]
    cases c.delivery with
    | none => exact .refl _
    | some d =>
      refine .of_each (keeps_serveHTTP d.env who ?_) d.faults s.db
      simp [request, computeDelta_of_unchanged hsame]
  obtain ⟨ps, hagrees⟩ := h.agrees_of_unchanged s.host.2 hsame c.scan
  refine ⟨⟨⟨ps, hagrees.keeps hkeeps⟩, results_of_stays hkeeps.toStays h.results⟩, fun k => ?_⟩
  rw [hkeeps.held_eq]
  exact h.mirrors_of_unchanged s.host.2 hsame k

lemma Synced.checkin (h : s.Synced who) (hids : ¬ (who.agentID = "" ∨ who.tenantID = ""))
    (hcareful : s.Careful (.checkin c)) : (s.step who (.checkin c)).Synced who ∧
      Mirrors who.agentID s.host.1 (s.step who (.checkin c)).db := by
  rcases hcareful with hsame | ⟨hne, harrives⟩
  · exact h.idle hsame
  · obtain ⟨d, hd⟩ := Option.isSome_iff_exists.mp harrives.1
    exact h.arrives hids hd hne harrives

lemma Synced.step (hids : ¬ (who.agentID = "" ∨ who.tenantID = "")) (s : Site) (e : Event)
    (hcareful : s.Careful e) (h : s.Synced who) : (s.step who e).Synced who := by
  cases e with
  | change packages => exact ⟨h.agrees, h.results⟩
  | acknowledge jobID d =>
    exact h.of_keeps (.of_each (each_acknowledge .log fun db => .updateJobs _ db) _ _)
  | execute jobID x =>
    simp only [Site.step]
    cases hj : s.db.job? jobID with
    | none => exact h
    | some j => exact h.execute hj (hcareful j hj)
  | submit i d => exact h.submit hcareful
  | checkin c => exact (h.checkin hids hcareful).1

end Site

/-- As long as no delta and no inventory goes astray, the server's rows are the packages of the
device after every check-in it answers. -/
theorem inventory_converges (who : AgentIdentity) (hagent : who.agentID ≠ "")
    (htenant : who.tenantID ≠ "") (ps : Packages) (host : Packages) (db : Db)
    (hdevice : (db.devices.get? who.agentID).isSome) (hstart : Mirrors who.agentID ps.1 db)
    (events : List Event)
    (hcareful : Along (Site.step who) Site.Careful events
      { host, last := some (snapshot ps.1), db }) :
    Along (Site.step who) (Site.Converges who) events
      { host, last := some (snapshot ps.1), db } := by
  have hids : ¬ (who.agentID = "" ∨ who.tenantID = "") := by
    rintro (h | h)
    · exact hagent h
    · exact htenant h
  have hsynced : ({ host, last := some (snapshot ps.1), db } : Site).Synced who :=
    ⟨⟨ps.1, ps.2, rfl, hdevice, hstart⟩, nofun⟩
  refine hcareful.imp_of_invariant (Site.Synced.step hids) (fun s e he hs => ?_) hsynced
  cases e with
  | checkin c => exact fun d _ _ => (hs.checkin hids he).2
  | change packages | acknowledge jobID d | execute jobID x | submit i d => trivial

namespace Sample

def agent : AgentIdentity := { agentID := "d", tenantID := "t" }

def plainList (ps : List PackageRef) (h : Plain ps) : Packages := ⟨ps, h⟩

def installed : Packages := plainList [package "a" "1", package "b" "1"] (by decide)

def extended : Packages :=
  plainList [package "a" "1", package "b" "1", package "c" "1"] (by decide)

def withJobs : Db :=
  { db with
    jobs := ⟨[
      { id := "install", tenantID := "t", deviceID := "d", type := .packageInstall
        status := .acknowledged, payload := "", createdAt := 0 },
      { id := "full", tenantID := "t", deviceID := "d", type := .inventoryFull
        status := .acknowledged, payload := "", createdAt := 0 }], by decide⟩ }

lemma mirrors_withJobs : Mirrors "d" installed.1 withJobs := mirrors_first

def site : Site := { host := installed, last := some (snapshot installed.1), db := withJobs }

def checkin (salt : String) : Event := .checkin { delivery := some { env := env salt } }

def careful : List Event :=
  [.change extended, checkin "x",
    .execute "full" { packages := extended, result := { success := true } },
    .submit 0 { env := env "y" }, .checkin { delivery := none }]

def careless : List Event :=
  [.execute "install" { packages := extended, result := { success := true } }, checkin "x"]

end Sample

theorem sample_inventory_converges :
    Along (Site.step Sample.agent) Site.Careful Sample.careful Sample.site ∧
      Mirrors "d" Sample.extended.1
        ((Sample.careful.take 2).foldl (Site.step Sample.agent) Sample.site).db := by
  have hcareful : Along (Site.step Sample.agent) Site.Careful Sample.careful Sample.site := by
    decide
  have hall := inventory_converges Sample.agent (by decide) (by decide) Sample.installed
    Sample.installed Sample.withJobs (by decide) Sample.mirrors_withJobs Sample.careful hcareful
  exact ⟨hcareful, hall.2.1 _ rfl (by decide)⟩

/-- The package that a job has installed never reaches the server, although the check-in that
follows is answered. -/
theorem installed_package_missing :
    Mirrors Sample.agent.agentID Sample.installed.1 Sample.withJobs ∧
      ¬ Along (Site.step Sample.agent) (Site.Converges Sample.agent) Sample.careless
        Sample.site := by
  refine ⟨Sample.mirrors_withJobs, fun h => ?_⟩
  have hmirrors := h.2.1 _ rfl (by decide) ("apt", "c")
  revert hmirrors
  decide

end Moebius.Inventory
