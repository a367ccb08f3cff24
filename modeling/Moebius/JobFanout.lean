import Moebius.OperatorRequests
import Moebius.Server
import Moebius.Targets

/-!
What `Create` leaves behind.

The target is resolved, narrowed to what the caller may reach, checked against the quota, and then
one job is inserted for each device that is left.
-/

namespace Moebius.Jobs

open Proc List Option

def queueLimit (quota : Option Defaults) (tenantID : String) (db : Db) : Option ℤ :=
  quota.bind fun d => (db.tenants.get? tenantID).map fun tenant =>
    ((tenant.quotas.map (applyOverride d)).getD d).maxQueuedJobs

def Room (quota : Option Defaults) (tenantID : String) (n : ℤ) (db : Db) : Prop :=
  ∀ limit ∈ queueLimit quota tenantID db, 0 ≤ limit → countQueuedJobs tenantID db + n ≤ limit

lemma queueLimit_of_tenant {d : Defaults} {tenantID : String} {tenant : TenantRow} {db : Db}
    (h : db.tenants.get? tenantID = some tenant) : queueLimit (some d) tenantID db =
      some ((tenant.quotas.map (applyOverride d)).getD d).maxQueuedJobs := by
  simp [queueLimit, h]

/-- The check lets `n` more jobs pass: where there is a quota, the tenant's row is there. -/
def Admitted (quota : Option Defaults) (tenantID : String) (n : ℤ) (db : Db) : Prop :=
  (quota.isSome → (db.tenants.get? tenantID).isSome) ∧ Room quota tenantID n db

lemma wp_checkQueuedJobs {quota : Option Defaults} {tenantID : String} {incr : ℤ} {db : Db}
    {R : Db → Db → Prop} {Q : Except QuotaError Unit → Db → Prop} (hrefl : R db db)
    (herr : ∀ e, Q (.error e) db)
    (hok : (0 < incr → Admitted quota tenantID incr db) → Q (.ok ()) db) :
    (checkQueuedJobs quota tenantID incr).wp R Q db := by
  unfold checkQueuedJobs
  split
  · rename_i hle
    exact hok fun hlt => absurd hlt (not_lt.mpr hle)
  cases quota with
  | none => exact hok fun _ => ⟨by simp, by simp [Room, queueLimit]⟩
  | some d =>
    simp only [checkCount, bind_eq, wp_bind, wp_read]
    refine ⟨⟨hrefl, ?_⟩, herr _⟩
    rcases htenant : db.tenants.get? tenantID with _ | tenant
    · exact herr _
    have hsome : (db.tenants.get? tenantID).isSome := by simp [htenant]
    have hlimit := queueLimit_of_tenant (d := d) htenant
    dsimp only
    split
    · rename_i hneg
      refine hok fun _ => ⟨fun _ => hsome, fun limit hl hnonneg => ?_⟩
      rw [hlimit, mem_def, some.injEq] at hl
      omega
    simp only [wp_bind, wp_read]
    refine ⟨⟨hrefl, ?_⟩, herr _⟩
    split
    · exact herr _
    · rename_i hcount
      refine hok fun _ => ⟨fun _ => hsome, fun limit hl _ => ?_⟩
      rw [hlimit, mem_def, some.injEq] at hl
      omega

lemma run_nil_checkQueuedJobs {quota : Option Defaults} {tenantID : String} {incr : ℤ} {db : Db}
    (h : Admitted quota tenantID incr db) :
    (checkQueuedJobs quota tenantID incr).run [] db = (.ok (), db) := by
  obtain ⟨htenant, hroom⟩ := h
  unfold checkQueuedJobs
  split
  · rfl
  cases quota with
  | none => rfl
  | some d =>
    obtain ⟨tenant, htenant⟩ := isSome_iff_exists.mp (htenant rfl)
    have hfits := hroom _ (queueLimit_of_tenant htenant)
    simp only [checkCount, bind_eq, run_nil_bind, run_nil_read, htenant]
    split
    · rfl
    · rename_i hnonneg
      have hcount := not_lt.mpr (hfits (not_lt.mp hnonneg))
      simp only [run_nil_bind, run_nil_read, gt_iff_lt, if_neg hcount]
      rfl

def Counted (tenantID : String) (j : JobRow) : Prop :=
  j.tenantID = tenantID ∧ (j.status = .queued ∨ j.status = .dispatched)
  deriving Decidable

lemma countQueuedJobs_eq (tenantID : String) (db : Db) :
    countQueuedJobs tenantID db = (db.jobs.rows.countP fun j => Counted tenantID j : ℕ) := by
  rw [countP_eq_length_filter]
  rfl

/-- The rows have been added for the devices, and nothing else has changed. -/
structure Inserted (row : ℕ → String → JobRow) (ds : List String) (a b : Db) : Prop where
  rows : b.jobs.rows = a.jobs.rows ++ ds.mapIdx row
  rest : b = { a with jobs := b.jobs }
  first : ∀ d ∈ ds.head?, (a.insertJob (row 0 d)).isSome

lemma Inserted.refl {row : ℕ → String → JobRow} {db : Db} : Inserted row [] db db :=
  ⟨by simp, rfl, by simp⟩

lemma Inserted.eq_of_nil {row : ℕ → String → JobRow} {a b : Db} (h : Inserted row [] a b) :
    b = a := by
  have hjobs : b.jobs = a.jobs := Table.eq_of_rows (by rw [h.rows, mapIdx_nil, append_nil])
  rw [h.rest, hjobs]

lemma Inserted.insertJob {row : ℕ → String → JobRow} {ds : List String} {d : String} {a b c : Db}
    (h : Inserted row ds a b) (hc : b.insertJob (row ds.length d) = some c) :
    Inserted row (ds ++ [d]) a c := by
  obtain ⟨⟨jobs, hjobs, rfl⟩, -⟩ := Db.insertJob_eq_some hc
  refine ⟨?_, ?_, fun d' hd' => ?_⟩
  · change jobs.rows = _
    rw [Table.rows_of_insert hjobs, h.rows, mapIdx_concat, append_assoc]
  · rw [h.rest]
  · rcases ds with _ | ⟨d₀, ds⟩
    · cases hd'
      exact h.eq_of_nil ▸ isSome_of_eq_some hc
    · exact h.first d' hd'

/-- The loop adds rows for a first part of the devices: all of them when it ends without an error,
and not all of them when it ends with one. -/
lemma wp_insertJobs_part (row : ℕ → String → JobRow) (ds : List String) (db : Db) :
    (insertJobs row ds).wp (fun _ _ => True)
      (fun r s => ∃ done, done <+: ds ∧ Inserted row done db s ∧
        (∀ ids, r = .ok ids → done = ds ∧ ids = (ds.mapIdx row).map (·.id)) ∧
        ∀ e, r = .error e → done.length < ds.length) db := by
  refine wp_loop
    (fun xs ids s => ∃ done, done ++ xs = ds ∧ Inserted row done db s ∧
      ids = (done.mapIdx row).map (·.id))
    (fun _ s => ∃ done, done <+: ds ∧ Inserted row done db s ∧ done.length < ds.length)
    (fun d xs ids s h => ?_) (fun ids s h => ?_) (fun e s h => ?_)
    ⟨[], rfl, .refl, rfl⟩
  · obtain ⟨done, hds, hins, hids⟩ := h
    have hlength : ids.length = done.length := by
      rw [hids, length_map, length_mapIdx]
    have hshort : done.length < ds.length := by
      rw [← hds, length_append, length_cons]
      omega
    simp only [bind_eq, wp_bind]
    refine wp_attempt _ _ trivial ⟨done, ⟨_, hds⟩, hins, hshort⟩ fun s' hs' => ⟨trivial, ?_⟩
    rw [hlength] at hs'
    refine ⟨done ++ [d], by rw [append_assoc]; exact hds, hins.insertJob hs', ?_⟩
    rw [mapIdx_concat, map_append, ← hids, hlength]
    rfl
  · obtain ⟨done, hds, hins, hids⟩ := h
    rw [append_nil] at hds
    refine ⟨done, hds ▸ prefix_refl _, hins, fun ids' h => ?_, fun e h => by cases h⟩
    cases h
    exact ⟨hds, hds ▸ hids⟩
  · obtain ⟨done, hds, hins, hshort⟩ := h
    exact ⟨done, hds, hins, fun ids h => (by cases h), fun _ _ => hshort⟩

section

variable (env : Env) (caller : Caller)

/-- The caller may reach the device: an administrator and a caller without a scope reach all. -/
def Reaches (db : Db) (d : String) : Prop :=
  ∀ s, caller.isAdmin = false → caller.scope = some s → db.InScope caller.tenantID s d

def reaches (db : Db) (d : String) : Bool :=
  caller.isAdmin || caller.scope.all fun s => d ∈ selected env caller.tenantID s db

lemma reaches_iff {db : Db} {d : String} :
    reaches env caller db d = true ↔ Reaches caller db d := by
  unfold reaches Reaches
  cases caller.isAdmin with
  | true => simp
  | false =>
    cases caller.scope with
    | none => simp
    | some s => simp [mem_selected]

def recipients (target : JobTarget) (db : Db) : List String :=
  (selected env caller.tenantID target.selection db).filter (reaches env caller db)

variable {R : Db → Db → Prop} {a b : Db} {req : CreateRequest} {jobType : JobType} {db : Db}

lemma filter_reaches_all {deviceIDs : List String}
    (h : caller.isAdmin = true ∨ caller.scope = none) :
    deviceIDs.filter (reaches env caller db) = deviceIDs := by
  refine filter_eq_self.mpr fun d _ => ?_
  rcases h with h | h <;> simp [reaches, h]

lemma filterDeviceIDs_selected {deviceIDs : List String} {s : APIScope}
    (hadmin : ¬ caller.isAdmin = true) (hs : caller.scope = some s) :
    filterDeviceIDs (some (selected env caller.tenantID s db)) deviceIDs =
      deviceIDs.filter (reaches env caller db) := by
  refine filter_congr fun d _ => ?_
  simp [reaches, hadmin, hs]

lemma wp_scopeTargets_eq {β : Type} {deviceIDs : List String}
    {Q : Except (Reply β) (List String) → Db → Prop} (hrefl : R db db) (hne : deviceIDs ≠ [])
    (herr : ∀ n code msg, Q (.error (.error n code msg)) db)
    (hok : deviceIDs.filter (reaches env caller db) ≠ [] →
      Q (.ok (deviceIDs.filter (reaches env caller db))) db) :
    (scopeTargets env caller deviceIDs).wp R Q db := by
  have hall : caller.isAdmin = true ∨ caller.scope = none → Q (.ok deviceIDs) db := by
    intro h
    rw [filter_reaches_all env caller h] at hok
    exact hok hne
  unfold scopeTargets
  split
  · rename_i hadmin
    exact hall (.inl hadmin)
  split
  · rename_i hnone
    exact hall (.inr (isNone_iff_eq_none.mp hnone))
  rename_i hadmin hsome
  rw [bind_eq, wp_bind]
  refine wp_resolveScope env hrefl (fun _ _ _ => herr _ _ _) (fun h => ?_) fun s hs => ?_
  · exact absurd (by rw [h]; rfl) hsome
  · dsimp only
    rw [filterDeviceIDs_selected env caller hadmin hs]
    split
    · exact herr _ _ _
    · rename_i hkept
      exact hok hkept

lemma run_nil_scopeTargets {β : Type} {deviceIDs : List String}
    (h : deviceIDs.filter (reaches env caller db) ≠ []) :
    (scopeTargets env caller deviceIDs : Proc Db (Except (Reply β) (List String))).run [] db =
      (.ok (deviceIDs.filter (reaches env caller db)), db) := by
  unfold scopeTargets
  split
  · rename_i hadmin
    rw [filter_reaches_all env caller (.inl hadmin)]
    rfl
  rename_i hadmin
  rcases hscope : caller.scope with _ | s
  · rw [filter_reaches_all env caller (.inr hscope)]
    rfl
  simp only [isNone_some, Bool.false_eq_true, if_false, resolveScope, bind_eq, run_nil_bind,
    run_nil_expandAll env caller.tenantID s, pure_eq, run_done,
    filterDeviceIDs_selected env caller hadmin hscope, if_neg h]

/-! ### Create -/

def createdRow (req : CreateRequest) (jobType : JobType) (i : ℕ) (d : String) : JobRow :=
  newJobRow env i caller jobType req.payload (req.retryPolicy.or (defaultRetryPolicy jobType)) d

/-- The insertions have been reached: a first part of the recipients has got a job, and all of them
when the answer is `201`, but not when it is an error. -/
structure Attempted (quota : Option Defaults) (req : CreateRequest) (jobType : JobType)
    (done : List String) (r : Reply CreateResponse) (a b : Db) : Prop where
  part : done <+: recipients env caller req.target a
  jobs : b.jobs.rows = a.jobs.rows ++ done.mapIdx (createdRow env caller req jobType)
  rest : b = { a with jobs := b.jobs, auditLog := b.auditLog }
  room : Room quota caller.tenantID (recipients env caller req.target a).length a
  answer : ∀ resp, r = .ok 201 resp → done = recipients env caller req.target a ∧
    resp.jobIDs = (done.mapIdx (createdRow env caller req jobType)).map (·.id) ∧
    resp.targetDeviceCount = done.length
  first : ∀ d ∈ done.head?, (a.insertJob (createdRow env caller req jobType 0 d)).isSome
  short : ∀ n code msg, r = .error n code msg →
    done.length < (recipients env caller req.target a).length

lemma wp_createFor {quota : Option Defaults}
    (hroom : Room quota caller.tenantID (recipients env caller req.target db).length db) :
    (createFor env caller jobType req (recipients env caller req.target db)).wp (fun _ _ => True)
      (fun r s => ∃ done, Attempted env caller quota req jobType done r db s) db := by
  simp only [createFor, bind_eq, wp_bind]
  refine wp_mono (fun _ _ _ => trivial) (fun r s h => ?_)
    (wp_insertJobs_part (createdRow env caller req jobType) _ db)
  obtain ⟨done, hpart, hins, hids, hshort⟩ := h
  have hrest : s = { db with jobs := s.jobs, auditLog := s.auditLog } := by
    rw [hins.rest]
  rcases r with e | ids
  · exact ⟨done, hpart, hins.rows, hrest, hroom, fun _ h => (by cases h), hins.first,
      fun _ _ _ _ => hshort e rfl⟩
  obtain ⟨rfl, hmade⟩ := hids ids rfl
  rw [wp_bind]
  refine wp_logAction fun log => ⟨_, hpart, hins.rows, ?_, hroom, fun resp h => ?_, hins.first,
    fun _ _ _ h => by cases h⟩
  · rw [hins.rest]
  · cases h
    exact ⟨rfl, hmade, rfl⟩

/-- The request has a known type, a payload and a recipient, and the quota has room. -/
structure Passes (quota : Option Defaults) (req : CreateRequest) (jobType : JobType) (db : Db) :
    Prop where
  type : validateType req.type = .ok jobType
  payload : req.payload ≠ ""
  reached : recipients env caller req.target db ≠ []
  admitted : Admitted quota caller.tenantID (recipients env caller req.target db).length db

/-- `Create` is refused before it has written anything, or it comes to the insertions for its
recipients. -/
lemma wp_create_rule {quota : Option Defaults} {body : Option CreateRequest}
    {Q : Reply CreateResponse → Db → Prop} (hrefl : R db db)
    (hrefused : ∀ n code msg, Q (.error n code msg) db)
    (hfor : ∀ req jobType, body = some req → Passes env caller quota req jobType db →
      (createFor env caller jobType req (recipients env caller req.target db)).wp R Q db) :
    (create env quota caller body).wp R Q db := by
  rcases body with _ | req
  · exact hrefused _ _ _
  rcases htype : validateType req.type with msg | jobType
  · simp only [create, htype]
    exact hrefused _ _ _
  simp only [create, htype, createTyped]
  split
  · exact hrefused _ _ _
  rename_i hpayload
  rw [bind_eq, wp_bind]
  have htargets : resolveTargets env caller.tenantID req.target =
      expandAll env caller.tenantID req.target.selection.deviceIDs
        req.target.selection.groupIDs req.target.selection.tagIDs
        req.target.selection.siteIDs := rfl
  rw [htargets]
  refine wp_expandAll env hrefl (fun _ => hrefused _ _ _) ?_
  rcases hfound : selected env caller.tenantID req.target.selection db with _ | ⟨d, ds⟩
  · exact hrefused _ _ _
  dsimp only
  rw [bind_eq, wp_bind]
  refine wp_scopeTargets_eq env caller hrefl (cons_ne_nil d ds) hrefused fun hkept => ?_
  rw [← hfound] at hkept ⊢
  dsimp only
  rw [bind_eq, wp_bind]
  refine wp_checkQueuedJobs hrefl (fun e => ?_) fun hadmitted => ?_
  · cases e <;> exact hrefused _ _ _
  have hpositive : (0 : ℤ) < (recipients env caller req.target db).length :=
    Int.natCast_pos.mpr (length_pos_iff.mpr hkept)
  exact hfor req jobType rfl ⟨htype, hpayload, hkept, hadmitted hpositive⟩

variable {env caller} in
/-- A request that passes comes to its insertions, and these may fail in any way. -/
lemma Passes.exists_run {quota : Option Defaults} (h : Passes env caller quota req jobType db)
    (fs : List Bool) : ∃ gs, (create env quota caller (some req)).run gs db =
      (createFor env caller jobType req (recipients env caller req.target db)).run fs db := by
  obtain ⟨htype, hpayload, hkept, hadmitted⟩ := h
  have htargets : (resolveTargets env caller.tenantID req.target).run [] db =
      (.ok (selected env caller.tenantID req.target.selection db), db) :=
    run_nil_expandAll env caller.tenantID req.target.selection
  simp only [create, htype, createTyped, if_neg hpayload, bind_eq]
  refine exists_run_bind htargets ?_
  rcases hfound : selected env caller.tenantID req.target.selection db with _ | ⟨d, ds⟩
  · exact absurd (by simp [recipients, hfound]) hkept
  dsimp only
  rw [← hfound]
  refine exists_run_bind (run_nil_scopeTargets env caller hkept) ?_
  exact exists_run_bind (run_nil_checkQueuedJobs hadmitted) ⟨fs, rfl⟩

lemma wp_create_cases (quota : Option Defaults) (body : Option CreateRequest) (db : Db) :
    (create env quota caller body).wp (fun _ _ => True)
      (fun r s => (s = db ∧ ∀ resp, r ≠ .ok 201 resp) ∨
        ∃ req jobType done, body = some req ∧ Passes env caller quota req jobType db ∧
          Attempted env caller quota req jobType done r db s) db := by
  refine wp_create_rule env caller trivial
    (fun n code msg => .inl ⟨rfl, nofun⟩) fun req jobType hbody hpasses => ?_
  refine wp_mono (fun _ _ _ => trivial) (fun r s h => ?_)
    (wp_createFor env caller hpasses.admitted.2)
  obtain ⟨done, hdone⟩ := h
  exact .inr ⟨req, jobType, done, hbody, hpasses, hdone⟩

/-- The request has been answered with an error after some of its insertions, not all; a first
insertion that the table refuses is none. -/
structure LeftPart (req : CreateRequest) (jobType : JobType) (done : List String) (a b : Db) :
    Prop where
  part : done <+: recipients env caller req.target a
  short : done.length < (recipients env caller req.target a).length
  rows : b.jobs.rows = a.jobs.rows ++ done.mapIdx (createdRow env caller req jobType)
  first : ∀ d ∈ done.head?, (a.insertJob (createdRow env caller req jobType 0 d)).isSome

/-! ### The count -/

lemma countQueuedJobs_append {tenantID : String} {rows : List JobRow}
    (h : b.jobs.rows = a.jobs.rows ++ rows) (hrows : ∀ j ∈ rows, Counted tenantID j) :
    countQueuedJobs tenantID b = countQueuedJobs tenantID a + rows.length := by
  have hcount : rows.countP (fun j => Counted tenantID j) = rows.length :=
    countP_eq_length.mpr fun j hj => decide_eq_true (hrows j hj)
  rw [countQueuedJobs_eq, countQueuedJobs_eq, h, countP_append, hcount]
  exact Int.natCast_add _ _

lemma counted_createdRows (ds : List String) :
    ∀ j ∈ ds.mapIdx (createdRow env caller req jobType), Counted caller.tenantID j := by
  intro j hj
  obtain ⟨i, hi, rfl⟩ := mem_mapIdx.mp hj
  exact ⟨rfl, .inl rfl⟩

variable {env caller} in
lemma Attempted.room_after {quota : Option Defaults}
    {done : List String} {r : Reply CreateResponse}
    (h : Attempted env caller quota req jobType done r a b) : Room quota caller.tenantID 0 b := by
  intro limit hlimit hnonneg
  have htenants : b.tenants = a.tenants := by rw [h.rest]
  have hsame : queueLimit quota caller.tenantID b = queueLimit quota caller.tenantID a := by
    simp only [queueLimit, htenants]
  rw [hsame] at hlimit
  have hfits := h.room limit hlimit hnonneg
  have hlength : done.length ≤ (recipients env caller req.target a).length := h.part.length_le
  rw [countQueuedJobs_append h.jobs (counted_createdRows env caller _), length_mapIdx]
  omega

/-- What has become of the database when `Create` has answered `201`. -/
structure Created (quota : Option Defaults) (req : CreateRequest) (jobType : JobType)
    (resp : CreateResponse) (a b : Db) : Prop where
  /-- One queued job for each recipient, in order, and no other job. -/
  jobs : b.jobs.rows = a.jobs.rows ++ (recipients env caller req.target a).mapIdx fun i d =>
    newJobRow env i caller jobType req.payload (req.retryPolicy.or (defaultRetryPolicy jobType)) d
  /-- Besides the jobs, only the audit log has been written. -/
  rest : b = { a with jobs := b.jobs, auditLog := b.auditLog }
  jobIDs : resp.jobIDs = ((recipients env caller req.target a).mapIdx fun i d =>
    newJobRow env i caller jobType req.payload (req.retryPolicy.or (defaultRetryPolicy jobType))
      d).map (·.id)
  count : resp.targetDeviceCount = (recipients env caller req.target a).length
  room : Room quota caller.tenantID 0 b

variable {env caller} in
lemma Attempted.created {quota : Option Defaults}
    {done : List String} {resp : CreateResponse}
    (h : Attempted env caller quota req jobType done (.ok 201 resp) a b) :
    Created env caller quota req jobType resp a b := by
  have hroom := h.room_after
  obtain ⟨rfl, hids, hcount⟩ := h.answer resp rfl
  exact ⟨h.jobs, h.rest, hids, hcount, hroom⟩

lemma recipients_spec (target : JobTarget) (db : Db) :
    (recipients env caller target db).Nodup ∧
      ((recipients env caller target db).Pairwise fun a b =>
        (met env caller.tenantID target.selection db).idxOf a <
          (met env caller.tenantID target.selection db).idxOf b) ∧
      ∀ d, d ∈ recipients env caller target db ↔
        db.InScope caller.tenantID target.selection d ∧ Reaches caller db d := by
  refine ⟨(nodup_selected _ _ _ _).filter _, ?_, fun d => ?_⟩
  · have hpairwise := pairwise_union (met env caller.tenantID target.selection db)
    rw [← selected_eq] at hpairwise
    exact hpairwise.filter _
  · rw [recipients, mem_filter, mem_selected, reaches_iff]

/-- When `Create` answers `201`, it has added one queued job for each device that the target stands
for and the caller reaches, in the order of the target, and no other; it has returned their
identifiers, and the tenant is within its quota. -/
theorem create_fans_out (quota : Option Defaults) (body : Option CreateRequest)
    (fs : List Bool) (db db' : Db) (resp : CreateResponse)
    (h : (create env quota caller body).run fs db = (.ok 201 resp, db')) :
    ∃ req jobType, body = some req ∧ validateType req.type = .ok jobType ∧
      ((recipients env caller req.target db).Nodup ∧
        ((recipients env caller req.target db).Pairwise fun a b =>
          (met env caller.tenantID req.target.selection db).idxOf a <
            (met env caller.tenantID req.target.selection db).idxOf b) ∧
        ∀ d, d ∈ recipients env caller req.target db ↔
          db.InScope caller.tenantID req.target.selection d ∧ Reaches caller db d) ∧
      Created env caller quota req jobType resp db db' := by
  have hcases := wp_run (wp_create_cases env caller quota body db) fs
  rw [h] at hcases
  rcases hcases with ⟨-, hrefused⟩ | ⟨req, jobType, done, hbody, hpasses, hdone⟩
  · exact absurd rfl (hrefused resp)
  · exact ⟨req, jobType, hbody, hpasses.type, recipients_spec env caller _ _, hdone.created⟩

end

namespace Sample

def world : Env := { Moebius.Sample.env 5 "" with rand := fun _ i => toString i }

def quota : Defaults :=
  { maxDevices := -1, maxQueuedJobs := 2, maxAPIKeys := -1, maxFileSizeBytes := -1 }

def request : CreateRequest where
  type := "exec"
  target := { deviceIDs := ["e", "d", "e"] }
  payload := "run"
  retryPolicy := none

end Sample

open Moebius.Sample in
theorem sample_create_fans_out :
    Created Sample.world caller (some Sample.quota) Sample.request .exec
      { jobIDs := ["job_0", "job_1"], targetDeviceCount := 2 } db
      ((create Sample.world (some Sample.quota) caller (some Sample.request)).run []
        db).2 := by
  obtain ⟨req, jobType, hbody, htype, -, hcreated⟩ :=
    create_fans_out Sample.world caller (some Sample.quota) (some Sample.request)
      [] db _ { jobIDs := ["job_0", "job_1"], targetDeviceCount := 2 }
      (Prod.ext rfl rfl)
  cases hbody
  cases htype
  exact hcreated

section

variable {env : Env} {caller : Caller} {quota : Option Defaults} {req : CreateRequest}
  {jobType : JobType} {db : Db}

/-- The second of several insertions fails. -/
lemma Passes.exists_partial (h : Passes env caller quota req jobType db) {d d' : String}
    {ds : List String} (hds : recipients env caller req.target db = d :: d' :: ds)
    (hins : (db.insertJob (createdRow env caller req jobType 0 d)).isSome) :
    ∃ fs n code msg db', (create env quota caller (some req)).run fs db = (.error n code msg, db') ∧
      db'.jobs ≠ db.jobs := by
  obtain ⟨db', hdb'⟩ := isSome_iff_exists.mp hins
  obtain ⟨fs, hfs⟩ := h.exists_run [false, true]
  refine ⟨fs, 500, "internal_error", "failed to create job", db', ?_, fun hjobs => ?_⟩
  · rw [hfs, hds]
    unfold createdRow at hdb'
    simp only [createFor, insertJobs, loop, bind_eq, Proc.bind_assoc, run_attempt_bind, length_nil,
      hdb']
    rfl
  · have hrows := (Inserted.refl.insertJob hdb').rows
    rw [hjobs] at hrows
    simpa using congrArg length hrows

end

/-- What an error of `Create` leaves: the jobs as they were, or a first part of those asked for. It
leaves the jobs as they were, whatever fails, just when the request is refused before the first
insertion, or the table refuses the first insertion, or there is only one. -/
theorem create_error_leaves_part (env : Env) (caller : Caller) (quota : Option Defaults)
    (body : Option CreateRequest) (db : Db) :
    (∀ fs n code msg db', (create env quota caller body).run fs db = (.error n code msg, db') →
      db'.jobs = db.jobs ∨ ∃ req jobType done, body = some req ∧
        validateType req.type = .ok jobType ∧ LeftPart env caller req jobType done db db') ∧
    ((∀ fs n code msg db', (create env quota caller body).run fs db = (.error n code msg, db') →
        db'.jobs = db.jobs) ↔
      ∀ req jobType d ds, body = some req → Passes env caller quota req jobType db →
        recipients env caller req.target db = d :: ds →
          ds = [] ∨ db.insertJob (createdRow env caller req jobType 0 d) = none) := by
  have hcases := fun fs => wp_run (wp_create_cases env caller quota body db) fs
  refine ⟨fun fs n code msg db' h => ?_, fun hkeeps req jobType d ds hbody hpasses hds => ?_,
    fun hfirst fs n code msg db' h => ?_⟩
  · have hcase := hcases fs
    rw [h] at hcase
    rcases hcase with ⟨rfl, -⟩ | ⟨req, jobType, done, hbody, hpasses, hleft⟩
    · exact .inl rfl
    · exact .inr ⟨req, jobType, done, hbody, hpasses.type, hleft.part, hleft.short _ _ _ rfl,
        hleft.jobs, hleft.first⟩
  · subst hbody
    rcases ds with _ | ⟨d', ds⟩
    · exact .inl rfl
    refine .inr (not_isSome_iff_eq_none.mp fun hins => ?_)
    obtain ⟨fs, n, code, msg, db', hrun, hne⟩ := hpasses.exists_partial hds hins
    exact hne (hkeeps fs n code msg db' hrun)
  · have hcase := hcases fs
    rw [h] at hcase
    rcases hcase with ⟨rfl, -⟩ | ⟨req, jobType, done, hbody, hpasses, hleft⟩
    · rfl
    -- no insertion has gone through
    have hnone : done = [] := by
      rcases done with _ | ⟨d, done⟩
      · rfl
      obtain ⟨more, hds⟩ := hleft.part
      rcases hfirst req jobType d _ hbody hpasses hds.symm with hnil | hrefused
      · have hnil : done ++ more = [] := hnil
        have hshort := hleft.short _ _ _ rfl
        rw [← hds, cons_append, hnil, (append_eq_nil_iff.mp hnil).1] at hshort
        exact absurd hshort (lt_irrefl _)
      · have hins := hleft.first d rfl
        rw [hrefused] at hins
        cases hins
    refine Table.eq_of_rows ?_
    rw [hleft.jobs, hnone, mapIdx_nil, append_nil]

def Sample.mistaken (deviceIDs : List String) : CreateRequest :=
  { request with target := { deviceIDs } }

open Moebius.Sample in
theorem sample_create_error :
    ((create Sample.world none caller (some (Sample.mistaken ["x", "d"]))).run []
      db).2.jobs = db.jobs := by
  refine (create_error_leaves_part Sample.world caller none
    (some (Sample.mistaken ["x", "d"])) db).2.mpr ?_ [] 500 "internal_error"
    "failed to create job" _ (Prod.ext rfl rfl)
  rintro req jobType d ds ⟨⟩ - hds
  cases hds
  exact .inr rfl

open Moebius.Sample in
/-- The job for the first device stays when the second device turns out not to exist. -/
theorem create_error_leaves_job :
    let result := (create Sample.world none caller
      (some (Sample.mistaken ["d", "x"]))).run [] db
    (∃ n code msg, result.1 = .error n code msg) ∧ result.2.jobs ≠ db.jobs := by
  refine ⟨⟨_, _, _, rfl⟩, fun h => ?_⟩
  have hlength := congrArg (fun jobs => jobs.rows.length) h
  revert hlength
  decide

end Moebius.Jobs
