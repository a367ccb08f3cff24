import Moebius.FailClosed

/-!
What a failing query lets through.

For every request that is not `Closed` there is a database, and for most of them a failing query of
the scope check, with which the request touches a device outside the scope.
-/

namespace Moebius.Api

open Proc List Jobs Table Db Option

/-- Some outcome of the database lets the request touch a device outside the scope. -/
def Exposes (cfg : Config) (caller : Caller) (s : APIScope) (req : Request) : Prop :=
  ∃ env faults db d, ¬ db.InScope caller.tenantID s d ∧
    Touches d db ((handler cfg env req caller).run faults db)

variable {caller : Caller} {s : APIScope}

section

variable {db : Db} {d : String}

lemma run_outOfScope_fault {β : Type} {env : Env} (hadmin : caller.isAdmin = false)
    (hscope : caller.scope = some s) (hqueries : s.Queries) {f : Bool → Proc Db β}
    {fs : List Bool} :
    ((outOfScope env caller d).bind f).run (true :: fs) db = (f false).run fs db := by
  unfold outOfScope
  rw [if_neg (by simp [hadmin]), hscope]
  obtain ⟨groupIDs, tagIDs, siteIDs, deviceIDs⟩ := s
  rcases groupIDs with _ | ⟨g, gs⟩
  · rcases tagIDs with _ | ⟨t, ts⟩
    · rcases siteIDs with _ | ⟨x, xs⟩
      · obtain ⟨o, ho⟩ := hqueries
        cases o <;> exact absurd rfl ho
      · rfl
    · rfl
  · rfl

lemma not_inScope (hd : d ∉ s.deviceIDs)
    (h : ∀ (o : Owner), ∀ id ∈ o.idsOf s, ¬ db.Linked o caller.tenantID id d) :
    ¬ db.InScope caller.tenantID s d := by
  rintro (hlisted | ⟨o, id, hid, hlinked⟩)
  · exact hd hlisted
  · exact h o id hid hlinked

lemma queries_and_unlisted (h : ¬ Settled s d) : s.Queries ∧ d ∉ s.deviceIDs := by
  unfold Settled at h
  tauto

lemma exists_unlisted {ids : List String} : ∃ d, d ∉ ids := by
  obtain ⟨d, hd⟩ := Infinite.exists_notMem_finset ids.toFinset
  exact ⟨d, by simpa using hd⟩

end

/-! ### A device with everything that can be touched -/

def single (tenantID d : String) : Db where
  tenants := ⟨[{ id := tenantID, quotas := some ⟨-1, -1, -1, -1⟩ }], nodup_singleton _⟩
  devices := ⟨[{ id := d, tenantID }], nodup_singleton _⟩

variable {tenantID d : String}

@[simp] lemma get?_single_devices :
    (single tenantID d).devices.get? d = some { id := d, tenantID } := by
  simp [single, get?]

@[simp] lemma get?_single_tenants (tenantID d : String) :
    (single tenantID d).tenants.get? tenantID =
      some { id := tenantID, quotas := some ⟨-1, -1, -1, -1⟩ } := by
  simp [single, get?]

@[simp] lemma deviceOf_single :
    (single tenantID d).deviceOf tenantID d = some { id := d, tenantID } := by
  simp [deviceOf, Option.filter]

variable {cfg : Config}

section

lemma not_inScope_single (hd : d ∉ s.deviceIDs) :
    ¬ (single caller.tenantID d).InScope caller.tenantID s d := by
  refine not_inScope hd fun o id _ hlinked => ?_
  cases o <;> cases hlinked.1

variable (hadmin : caller.isAdmin = false) (hscope : caller.scope = some s)

include hadmin hscope

lemma exposes_get {x : String} (hx : ¬ Settled s x) : Exposes cfg caller s (.device (.get x)) := by
  obtain ⟨hq, hx⟩ := queries_and_unlisted hx
  refine ⟨.plain 0 "", [true], single caller.tenantID x, x, not_inScope_single hx, .inl ?_⟩
  rw [handler, deviceHandler, run_answer, Devices.get, bind_eq,
    run_outOfScope_fault hadmin hscope hq]
  simp only [Bool.false_eq_true, if_false, Devices.getDevice, bind_eq, run_nil_bind, run_nil_read,
    deviceOf_single]
  exact ⟨_, _, rfl, rfl⟩

lemma exposes_inventory {x : String} (hx : ¬ Settled s x) :
    Exposes cfg caller s (.device (.inventory x)) := by
  obtain ⟨hq, hx⟩ := queries_and_unlisted hx
  refine ⟨.plain 0 "", [true], single caller.tenantID x, x, not_inScope_single hx, .inl ?_⟩
  rw [handler, deviceHandler, run_answer, Inventory.getDeviceInventory, bind_eq,
    run_outOfScope_fault hadmin hscope hq]
  simp only [Bool.false_eq_true, if_false, bind_eq, run_nil_bind, run_nil_read, deviceOf_single,
    isSome_some]
  exact ⟨_, _, rfl, rfl⟩

lemma exposes_update {x hostname : String} (hx : ¬ Settled s x)
    (hne : hostname ≠ "") : Exposes cfg caller s (.device (.update x (some hostname))) := by
  obtain ⟨hq, hx⟩ := queries_and_unlisted hx
  refine ⟨.plain 0 "", [true], single caller.tenantID x, x, not_inScope_single hx, .inr ?_⟩
  have hcount : ((single caller.tenantID x).renameDevice caller.tenantID x hostname).1 ≠ 0 := by
    simp [renameDevice, single, select]
  have hafter : ((handler cfg (.plain 0 "") (.device (.update x (some hostname))) caller).run
      [true] (single caller.tenantID x)).2 =
      ((single caller.tenantID x).renameDevice caller.tenantID x hostname).2 := by
    rw [handler, deviceHandler, run_answer, Devices.update, bind_eq,
      run_outOfScope_fault hadmin hscope hq]
    simp only [Bool.false_eq_true, if_false, if_neg hne, bind_eq]
    rw [run_nil_bind, run_nil_query]
    simp only [map_some, getD_some, if_neg hcount]
    refine run_of_readOnly (readOnly_bind (readOnly_getDevice _ _ _) fun r => ?_) [] _
    rcases r with _ | _ | v <;> trivial
  rw [hafter]
  intro hsame
  have hdevice := hsame.device
  simp [renameDevice, single, get?, update] at hdevice
  exact hne hdevice

lemma exposes_revoke {x reason : String} (hx : ¬ Settled s x) :
    Exposes cfg caller s (.device (.revoke x (some reason))) := by
  obtain ⟨hq, hx⟩ := queries_and_unlisted hx
  refine ⟨.plain 0 "", [true, false, true], single caller.tenantID x, x, not_inScope_single hx,
    .inr ?_⟩
  have hrevoke : ∀ now r, ∃ after,
      (single caller.tenantID x).revokeDevice now caller.tenantID x r = some after ∧
        after.devices.get? x ≠ (single caller.tenantID x).devices.get? x := by
    intro now r
    refine ⟨_, if_pos (by simp [single]), ?_⟩
    simp [revokeRows, updateJobs, single, get?, update]
  obtain ⟨after, hafter, hdiff⟩ :=
    hrevoke (Env.plain 0 "").now (if reason = "" then "operator_revoked" else reason)
  have hrun : ((handler cfg (.plain 0 "") (.device (.revoke x (some reason))) caller).run
      [true, false, true] (single caller.tenantID x)).2 = after := by
    rw [handler, deviceHandler, run_answer, revoke, bind_eq, run_outOfScope_fault hadmin hscope hq]
    simp only [Bool.false_eq_true, if_false, bind_eq, run_attempt_bind, hafter]
    rfl
  rw [hrun]
  exact fun hsame => hdiff hsame.device

end

section

variable (hadmin : caller.isAdmin = false) (hscope : caller.scope = some s)
  (tenantID d tag : String)

def untagged : Db :=
  { single tenantID d with tags := ⟨[{ id := tag, tenantID }], nodup_singleton _⟩ }

def foreign : Db :=
  { single (tenantID ++ "x") d with
    tags := ⟨[{ id := tag, tenantID }], nodup_singleton _⟩
    deviceTags := ⟨[⟨d, tag⟩], nodup_singleton _⟩ }

variable {tag x : String}

lemma not_inScope_foreign {d : String} (hd : d ∉ s.deviceIDs) :
    ¬ (foreign caller.tenantID d tag).InScope caller.tenantID s d := by
  refine not_inScope hd fun o id _ hlinked => ?_
  obtain ⟨row, hrow, htenant⟩ := hlinked.2
  have hget : (foreign caller.tenantID d tag).devices.get? d =
      some { id := d, tenantID := caller.tenantID ++ "x" } := get?_single_devices
  cases hget.symm.trans hrow
  have hlength := congrArg String.length htenant
  rw [String.length_append] at hlength
  have hone : "x".length = 1 := rfl
  omega

include hadmin hscope

lemma exposes_addToDevice {tags : List String} (hx : ¬ Settled s x) :
    Exposes cfg caller s (.tag (.addToDevice x (some (tag :: tags)))) := by
  obtain ⟨hq, hx⟩ := queries_and_unlisted hx
  refine ⟨.plain 0 "", [true, false, true], untagged caller.tenantID x tag, x, ?_, .inr ?_⟩
  · refine not_inScope hx fun o id _ hlinked => ?_
    cases o <;> cases hlinked.1
  have hlink : ∃ after, (untagged caller.tenantID x tag).addLink .tag x tag = some after ∧
      ⟨x, tag⟩ ∈ after.deviceTags.rows := by
    have hkeys : ((untagged caller.tenantID x tag).devices.get? x).isSome ∧
        ((Owner.tag.rows (untagged caller.tenantID x tag)).get? tag).isSome := by
      simp [untagged, Owner.rows, single, get?]
    refine ⟨_, if_pos hkeys, ?_⟩
    exact mem_singleton.mpr rfl
  obtain ⟨after, hafter, hmem⟩ := hlink
  have hrun : ((handler cfg (.plain 0 "") (.tag (.addToDevice x (some (tag :: tags)))) caller).run
      [true, false, true] (untagged caller.tenantID x tag)).2 = after := by
    rw [handler, tagHandler, run_answer, Tags.addToDevice, bind_eq,
      run_outOfScope_fault hadmin hscope hq]
    simp only [Bool.false_eq_true, if_false, reduceCtorEq, Tags.addTags, loop, bind_eq,
      Proc.bind_assoc, run_attempt_bind, hafter]
    rcases tags with _ | ⟨t, ts⟩ <;> rfl
  rw [hrun]
  intro hsame
  have hbefore := (hsame.tags tag).mp hmem
  cases hbefore

lemma exposes_removeFromDevice (hx : ¬ Settled s x) :
    Exposes cfg caller s (.tag (.removeFromDevice x tag)) := by
  obtain ⟨hq, hx⟩ := queries_and_unlisted hx
  refine ⟨.plain 0 "", [true, false, true], foreign caller.tenantID x tag, x,
    not_inScope_foreign hx, .inr ?_⟩
  have hrun : ((handler cfg (.plain 0 "") (.tag (.removeFromDevice x tag)) caller).run
      [true, false, true] (foreign caller.tenantID x tag)).2 =
      (foreign caller.tenantID x tag).removeLink .tag x tag := by
    rw [handler, tagHandler, run_answer, Tags.removeFromDevice, bind_eq,
      run_outOfScope_fault hadmin hscope hq]
    rfl
  rw [hrun]
  intro hsame
  have hafter := (hsame.tags tag).mpr mem_cons_self
  have hgone := (mem_filter.mp hafter).2
  simp at hgone

lemma exposes_deleteTag (hfield : s.tagIDs = [] ∨ tag ∈ s.tagIDs) :
    Exposes cfg caller s (.tag (.delete tag)) := by
  obtain ⟨d, hd⟩ := exists_unlisted
  refine ⟨.plain 0 "", [false, true], foreign caller.tenantID d tag, d, not_inScope_foreign hd,
    .inr ?_⟩
  have houtside : Owners.outsideField .tag caller tag = false :=
    (outsideField_eq_false hadmin hscope).mpr hfield
  have hcount : ((foreign caller.tenantID d tag).deleteOwner .tag caller.tenantID tag).1 ≠ 0 := by
    simp [deleteOwner, foreign, Owner.rows, select, ownOwner]
  have hrun : ((handler cfg (.plain 0 "") (.tag (.delete tag)) caller).run [false, true]
      (foreign caller.tenantID d tag)).2 =
      ((foreign caller.tenantID d tag).deleteOwner .tag caller.tenantID tag).2 := by
    rw [handler, tagHandler, run_answer, Tags.delete, Owners.delete, houtside]
    simp only [Bool.false_eq_true, if_false, bind_eq, run_query_bind, headD_cons,
      map_some, getD_some, if_neg hcount]
    rfl
  rw [hrun]
  intro hsame
  have hafter := (hsame.tags tag).mpr mem_cons_self
  have hgone := (mem_filter.mp hafter).2
  simp [foreign, Owner.rows, select, ownOwner] at hgone

end

section

def inOwner (o : Owner) (tenantID d id : String) : Db :=
  o.setMembers ⟨[⟨d, id⟩], nodup_singleton _⟩ (single tenantID d)

variable (caller) in
lemma exposes_listDevices (o : Owner) {id : String} (hid : id ∉ o.idsOf s) :
    ∃ env db d, ¬ db.InScope caller.tenantID s d ∧
      ∃ n rows, ((Owners.listDevices o env caller id).run [] db).1 = .ok n rows ∧
        ∃ r ∈ rows, r.id = d := by
  obtain ⟨d, hd⟩ := exists_unlisted
  refine ⟨.plain 0 "", inOwner o caller.tenantID d id, d, ?_, 200, _, rfl, ?_⟩
  · refine not_inScope hd fun o' id' hid' hlinked => ?_
    have hmem := hlinked.1
    by_cases ho : o' = o
    · subst ho
      rw [inOwner, Owner.members_setMembers, mem_singleton, Membership.mk.injEq] at hmem
      exact hid (hmem.2 ▸ hid')
    · rw [inOwner, Owner.members_setMembers_of_ne _ _ ho] at hmem
      cases o' <;> cases hmem
  · have hrow : ({ id := d, tenantID := caller.tenantID } : DeviceRow) ∈
        (inOwner o caller.tenantID d id).linkedDevices o caller.tenantID id := by
      refine mem_filter.mpr ⟨?_, ?_⟩
      · simp [inOwner, single]
      · simp [inOwner]
    have hscan := (Scan.mem_order (Env.plain 0 "").scanDevices _ _).mpr hrow
    exact ⟨_, mem_map_of_mem (mem_orderBy.mpr hscan), rfl⟩

variable {id : String}

lemma exposes_group (hid : id ∉ s.groupIDs) : Exposes cfg caller s (.group (.listDevices id)) := by
  obtain ⟨env, db, d, hout, n, rows, hrun, hshows⟩ := exposes_listDevices caller .group hid
  refine ⟨env, [], db, d, hout, .inl ⟨n, .devices rows, ?_, hshows⟩⟩
  rw [handler, groupHandler, run_answer, Groups.listDevices, hrun]
  rfl

lemma exposes_site (hid : id ∉ s.siteIDs) : Exposes cfg caller s (.site (.listDevices id)) := by
  obtain ⟨env, db, d, hout, n, rows, hrun, hshows⟩ := exposes_listDevices caller .site hid
  refine ⟨env, [], db, d, hout, .inl ⟨n, .devices rows, ?_, hshows⟩⟩
  rw [handler, siteHandler, run_answer, Sites.listDevices, hrun]
  rfl

end

section

variable (hadmin : caller.isAdmin = false) (hscope : caller.scope = some s)

def withJob (j : JobRow) : Db :=
  { single j.tenantID j.deviceID with jobs := ⟨[j], nodup_singleton _⟩ }

def someJob (tenantID d jobID : String) (status : JobStatus) : JobRow :=
  { id := jobID, tenantID, deviceID := d, type := .exec, status, payload := "", createdAt := 0 }

variable {j : JobRow}

lemma job?_withJob {id : String} : (withJob j).job? id = if j.id = id then some j else none := by
  by_cases h : j.id = id <;> simp [withJob, job?, get?, h]

lemma tenantJob_withJob : tenantJob j.tenantID j.id (withJob j) = some j := by
  rw [tenantJob, job?_withJob, if_pos rfl]
  simp [Option.filter]

lemma not_inScope_withJob (hd : j.deviceID ∉ s.deviceIDs) :
    ¬ (withJob j).InScope caller.tenantID s j.deviceID := by
  refine not_inScope hd fun o id _ hlinked => ?_
  cases o <;> cases hlinked.1

include hadmin hscope

variable {jobID : String}

lemma exposes_getJob (hq : s.Queries) : Exposes cfg caller s (.job (.get jobID)) := by
  obtain ⟨d, hd⟩ := exists_unlisted
  let j : JobRow :=
    { someJob caller.tenantID d jobID .queued with lastError := some "", createdBy := some "" }
  have hread : Jobs.tenantJob caller.tenantID jobID (withJob j) = some j := tenantJob_withJob
  refine ⟨.plain 0 "", [false, true], withJob j, d, not_inScope_withJob hd, .inl ?_⟩
  rw [handler, jobHandler, run_answer, Jobs.get, bind_eq, run_read_bind]
  simp only [headD_cons, Bool.false_eq_true, if_false, tail_cons, hread, bind_eq]
  have hscans : (!Jobs.scans j) = false := rfl
  rw [hscans]
  simp only [Bool.false_eq_true, if_false, run_outOfScope_fault hadmin hscope hq]
  exact ⟨_, _, rfl, rfl⟩

lemma exposes_cancel (hq : s.Queries) : Exposes cfg caller s (.job (.cancel jobID)) := by
  obtain ⟨d, hd⟩ := exists_unlisted
  let j : JobRow := someJob caller.tenantID d jobID .queued
  have hread : tenantJob caller.tenantID jobID (withJob j) = some j := tenantJob_withJob
  refine ⟨.plain 0 "", [false, true, false, true], withJob j, d, not_inScope_withJob hd, .inr ?_⟩
  have hrun : ((handler cfg (.plain 0 "") (.job (.cancel jobID)) caller).run
      [false, true, false, true] (withJob j)).2 =
      (withJob j).updateJobs (.markCancelled jobID 0) := by
    rw [handler, jobHandler, run_answer, cancel, cancelCheck]
    simp only [bind_eq, Proc.bind_assoc, run_read_bind, headD_cons, Bool.false_eq_true,
      if_false, tail_cons, hread, run_outOfScope_fault hadmin hscope hq]
    rfl
  rw [hrun]
  intro hsame
  have hj : (withJob j).job? jobID = some j := job?_withJob.trans (if_pos rfl)
  have hkept := hsame.jobs jobID j hj rfl
  rw [job?_updateJobs, hj] at hkept
  simp [JobUpdate.onRow, j, someJob] at hkept

omit hadmin hscope in
/-- Nothing limits the jobs of the tenant. -/
lemma run_checkQueuedJobs_withJob {quota : Option Defaults} :
    ∃ fs, ∀ (f : Except QuotaError Unit → Proc Db (Reply String)) rest,
      ((checkQueuedJobs quota j.tenantID 1).bind f).run (fs ++ rest) (withJob j) =
        (f (.ok ())).run rest (withJob j) := by
  rcases quota with _ | q
  · exact ⟨[], fun _ _ => rfl⟩
  · refine ⟨[false], fun f rest => ?_⟩
    have htenant : (withJob j).tenants.get? j.tenantID =
        some { id := j.tenantID, quotas := some ⟨-1, -1, -1, -1⟩ } :=
      get?_single_tenants j.tenantID j.deviceID
    have hincr : ¬ (1 : ℤ) ≤ 0 := by decide
    simp only [checkQueuedJobs, checkCount, if_neg hincr, bind_eq, Proc.bind_assoc, run_read_bind,
      singleton_append, headD_cons, Bool.false_eq_true, if_false, tail_cons, htenant]
    rfl

lemma exposes_retry (hq : s.Queries) : Exposes cfg caller s (.job (.retry jobID)) := by
  obtain ⟨d, hd⟩ := exists_unlisted
  let j : JobRow := someJob caller.tenantID d jobID .failed
  let row := retryRow (.plain 0 jobID) caller jobID j
  have hread : tenantJob caller.tenantID jobID (withJob j) = some j := tenantJob_withJob
  have hj : (withJob j).job? jobID = some j := job?_withJob.trans (if_pos rfl)
  have hne : row.id ≠ jobID := by
    intro he
    have hlen := congrArg String.length he
    have hpfx : ("job" ++ "_").length = 4 := rfl
    rw [show row.id = "job" ++ "_" ++ jobID from rfl, String.length_append, hpfx] at hlen
    omega
  have hfresh : (withJob j).job? row.id = none := job?_withJob.trans (if_neg hne.symm)
  obtain ⟨jobs, hjobs⟩ := exists_insert hfresh
  have hinsert : (withJob j).insertJob row = some { withJob j with jobs := jobs } := by
    have htenant : ((withJob j).tenants.get? row.tenantID).isSome := by
      rw [show (withJob j).tenants.get? row.tenantID = _ from get?_single_tenants _ d]
      rfl
    have hdevice : ((withJob j).devices.get? row.deviceID).isSome := by
      rw [show (withJob j).devices.get? row.deviceID = _ from get?_single_devices]
      rfl
    have hparent : row.parentJobID.all fun p => ((withJob j).jobs.get? p).isSome := by
      change ((withJob j).job? jobID).isSome
      rw [hj]
      rfl
    have hcount : Int4 row.retryCount := show Int4 (0 + 1) by decide
    have hmax : Int4 row.maxRetries := show Int4 0 by decide
    rw [insertJob, if_pos ⟨htenant, hdevice, hparent, rfl, hcount, hmax⟩, hjobs]
    rfl
  obtain ⟨fs, hquota⟩ := run_checkQueuedJobs_withJob
  refine ⟨.plain 0 jobID, false :: true :: (fs ++ [false, true]), withJob j, d,
    not_inScope_withJob hd, .inr ?_⟩
  have hrun : ((handler cfg (.plain 0 jobID) (.job (.retry jobID)) caller).run
      (false :: true :: (fs ++ [false, true])) (withJob j)).2 =
      { withJob j with jobs := jobs } := by
    have hretryable : isRetryable j.status = true := rfl
    rw [handler, jobHandler, run_answer, retry]
    simp only [bind_eq, run_read_bind, headD_cons, Bool.false_eq_true,
      if_false, tail_cons, hread, run_outOfScope_fault hadmin hscope hq, hretryable, if_true]
    rw [show caller.tenantID = j.tenantID from rfl, hquota]
    rw [run_attempt_bind]
    change (Proc.run _ _ (((withJob j).insertJob row).getD _)).2 = _
    rw [hinsert]
    rfl
  rw [hrun]
  intro hsame
  have hnew : job? { withJob j with jobs := jobs } row.id = some row :=
    (get?_insert hjobs row.id).trans (if_pos rfl)
  exact hsame.retries row.id row hfresh hnew jobID j rfl hj rfl

end

/-! ### Which requests fail closed -/

lemma exposes_of_not_safe (hadmin : caller.isAdmin = false) (hscope : caller.scope = some s)
    {req : Request} (h : ¬ Safe s req) : Exposes cfg caller s req := by
  cases req with
  | group r =>
    cases r with
    | listDevices id => exact exposes_group h
    | list | get | create | update | delete | addDevices | removeDevice => exact absurd trivial h
  | site r =>
    cases r with
    | listDevices id => exact exposes_site h
    | list | get | create | update | delete | addDevices | removeDevice => exact absurd trivial h
  | tag r =>
    cases r with
    | delete tag =>
      refine exposes_deleteTag hadmin hscope ?_
      simp only [Safe] at h
      tauto
    | addToDevice x body =>
      simp only [Safe, not_or] at h
      obtain ⟨hsome, hcons, hunsettled⟩ := h
      rcases body with _ | _ | ⟨tag, tags⟩
      · exact absurd rfl hsome
      · exact absurd rfl hcons
      · exact exposes_addToDevice hadmin hscope hunsettled
    | removeFromDevice x tag => exact exposes_removeFromDevice hadmin hscope h
    | list | create => exact absurd trivial h
  | device r =>
    cases r with
    | get x => exact exposes_get hadmin hscope h
    | inventory x => exact exposes_inventory hadmin hscope h
    | update x body =>
      simp only [Safe, not_or] at h
      obtain ⟨hsome, hname, hunsettled⟩ := h
      rcases body with _ | hostname
      · exact absurd rfl hsome
      · exact exposes_update hadmin hscope hunsettled fun he => hname (congrArg some he)
    | revoke x body =>
      simp only [Safe, not_or] at h
      obtain ⟨hsome, hunsettled⟩ := h
      rcases body with _ | reason
      · exact absurd rfl hsome
      · exact exposes_revoke hadmin hscope hunsettled
    | list | rollback => exact absurd trivial h
  | job r =>
    cases r with
    | get jobID => exact exposes_getJob hadmin hscope (not_not.mp h)
    | cancel jobID => exact exposes_cancel hadmin hscope (not_not.mp h)
    | retry jobID => exact exposes_retry hadmin hscope (not_not.mp h)
    | list | create => exact absurd trivial h
  | schedule r => exact absurd trivial h

/-- A request with a scoped key leaves the devices outside the scope alone, whatever the database
holds and whichever statements fail, exactly when the scope needs no query or lists the device
itself, and the request neither lists the devices of a group or site outside the scope nor deletes a
tag. -/
theorem failsClosed_iff (cfg : Config) (caller : Caller) (s : APIScope)
    (hadmin : caller.isAdmin = false) (hscope : caller.scope = some s) (req : Request) :
    FailsClosed cfg caller s req ↔ Closed caller s req := by
  refine ⟨fun hfails => ?_, failsClosed_of_closed hadmin hscope⟩
  by_contra hopen
  obtain ⟨hperm, hunsafe⟩ := not_or.mp hopen
  obtain ⟨env, faults, db, d, hout, htouch⟩ := exposes_of_not_safe hadmin hscope hunsafe
  refine hfails env faults db d hout ?_
  rw [serve_of_permission hadmin (not_not.mp hperm)]
  exact htouch

theorem failsClosed_iff_sample :
    FailsClosed Sample.cfg Sample.caller Sample.scope (.group (.listDevices "g")) ↔
      Closed Sample.caller Sample.scope (.group (.listDevices "g")) :=
  failsClosed_iff Sample.cfg Sample.caller Sample.scope rfl rfl (.group (.listDevices "g"))

/-- The query of the scope's group fails, and the key reads a device outside the group. -/
theorem get_failsOpen : "e" ∉ reach Sample.env "t" Sample.scope Sample.db ∧ Touches "e" Sample.db
      ((serve Sample.cfg Sample.env Sample.caller (.device (.get "e"))).run [true] Sample.db) := by
  refine ⟨by decide, .inl ⟨200, _, rfl, rfl⟩⟩

end Moebius.Api
