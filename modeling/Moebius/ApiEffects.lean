import Moebius.EnrollSteps
import Moebius.ApiSteps

/-!
What one write of the fleet endpoints changes, as far as devices, memberships and jobs go, and runs
of requests.

`Delta e a b` collects it for all writes at once: devices stay with their tenants, a membership is
new only if the write adds it, an owner goes only with its memberships, and a job is new only if the
write inserts it.
-/

namespace Moebius.Api

open Proc Db.Owner Db Table List Option

structure Delta (e : Effect) (a b : Db) : Prop where
  devices : ∀ id, (b.devices.get? id).map (·.tenantID) = (a.devices.get? id).map (·.tenantID)
  members : ∀ o, ∀ m ∈ (Owner.members o b).rows,
    m ∈ (o.members a).rows ∨ e = .addLink o m.deviceID m.ownerID
  owners : ∀ o id r, (rows o a).get? id = some r →
    (∃ r', (o.rows b).get? id = some r' ∧ r'.tenantID = r.tenantID) ∨
      ∀ m ∈ (o.members b).rows, m.ownerID ≠ id
  jobs : ∀ j ∈ b.jobs.rows, (∃ j' ∈ a.jobs.rows, JobUpdate.SameJob j' j) ∨ e = .insertJob j

section

variable {e : Effect} {a b : Db}

lemma delta_of_same (hdevices : b.devices = a.devices)
    (hmembers : ∀ o, Owner.members o b = o.members a)
    (howners : ∀ o, rows o b = o.rows a) (hjobs : b.jobs = a.jobs) : Delta e a b where
  devices id := by rw [hdevices]
  members o m hm := .inl (hmembers o ▸ hm)
  owners o id r hr := .inl ⟨r, by rw [howners o, hr], rfl⟩
  jobs j hj := .inl ⟨j, hjobs ▸ hj, .refl j⟩

lemma delta_audit {row : AuditRow} (h : a.insertAudit row = some b) : Delta (.audit row) a b := by
  have hsame := SameFleet.insertAudit h
  have hjobs := (quiet_insertAudit rfl h).jobs
  refine delta_of_same hsame.devices hsame.members (fun o => ?_) hjobs
  have hothers := (quiet_insertAudit rfl h).rest.others
  cases o
  · exact (congrArg groups hothers :)
  · exact (congrArg tags hothers :)
  · exact (congrArg sites hothers :)

variable {o : Owner} {deviceID ownerID : String}

lemma delta_insertOwner {row : OwnerRow} (h : a.insertOwner o row = some b) :
    Delta (.insertOwner o row) a b := by
  obtain ⟨-, t, ht, rfl⟩ := eq_some_of_guard h
  refine ⟨fun id => by simp, fun o' m hm => .inl (by simpa using hm), fun o' id r hr => .inl ?_,
    fun j hj => .inl ⟨j, by simpa using hj, .refl j⟩⟩
  by_cases ho : o' = o
  · subst ho
    refine ⟨r, ?_, rfl⟩
    have hne : row.id ≠ id := by
      rintro rfl
      rw [fresh_of_insert ht] at hr
      cases hr
    rw [rows_setRows, get?_insert ht, if_neg hne, hr]
  · exact ⟨r, by rw [rows_setRows_of_ne _ _ ho, hr], rfl⟩

variable {tenantID id : String}

lemma delta_updateOwner {body : Owners.Body} : Delta (.updateOwner o tenantID id body) a
      (a.updateOwner o tenantID id (Owners.setRow o body) (Owners.setRow_id o body)).2 := by
  refine ⟨fun id => by simp [updateOwner],
    fun o' m hm => .inl (by simpa [updateOwner] using hm), fun o' id' r hr => .inl ?_,
    fun j hj => .inl ⟨j, by simpa [updateOwner] using hj, .refl j⟩⟩
  have htenant : (Owners.setRow o body r).tenantID = r.tenantID := by cases o <;> rfl
  by_cases ho : o' = o
  · subst ho
    simp only [updateOwner, rows_setRows, get?_update, hr, map_some,
      some.injEq, exists_eq_left']
    split
    · exact htenant
    · rfl
  · exact ⟨r, by rw [updateOwner, rows_setRows_of_ne _ _ ho, hr], rfl⟩

lemma delta_deleteOwner : Delta (.deleteOwner o tenantID id) a (a.deleteOwner o tenantID id).2 := by
  refine ⟨fun id => by simp [deleteOwner], fun o' m hm => .inl ?_, fun o' id' r hr => ?_,
    fun j hj => .inl ⟨j, by simpa [deleteOwner] using hj, .refl j⟩⟩
  · by_cases ho : o' = o
    · subst ho
      rw [deleteOwner, members_setMembers] at hm
      exact (mem_filter.mp hm).1
    · rwa [deleteOwner, members_setMembers_of_ne _ _ ho, members_setRows] at hm
  · by_cases ho : o' = o
    · subst ho
      by_cases hown : ownOwner tenantID id r = true
      · refine .inr fun m hm he => ?_
        rw [deleteOwner, members_setMembers] at hm
        have hkept : (!((o'.rows a).select (ownOwner tenantID id)).any
            (fun r => r.id = m.ownerID)) = true := (mem_filter.mp hm).2
        have hgone : r ∈ (o'.rows a).select (ownOwner tenantID id) :=
          mem_filter.mpr ⟨mem_of_get? hr, hown⟩
        have hid : r.id = m.ownerID := (key_of_get? hr : r.id = id').trans he.symm
        have hany : ((o'.rows a).select (ownOwner tenantID id)).any
            (fun r => r.id = m.ownerID) = true :=
          any_eq_true.mpr ⟨r, hgone, by simpa using hid⟩
        rw [hany] at hkept
        cases hkept
      · refine .inl ⟨r, ?_, rfl⟩
        rw [deleteOwner, rows_setMembers, rows_setRows, get?_delete, hr]
        simp [Option.filter, hown]
    · refine .inl ⟨r, ?_, rfl⟩
      rw [deleteOwner, rows_setMembers, rows_setRows_of_ne _ _ ho, hr]

lemma addLink_eq_some (h : a.addLink o deviceID ownerID = some b) :
    b = a ∨ ∃ t, (o.members a).insert ⟨deviceID, ownerID⟩ = some t ∧ b = o.setMembers t a ∧
      (a.devices.get? deviceID).isSome ∧ ((o.rows a).get? ownerID).isSome := by
  unfold addLink at h
  split at h
  · cases h
    exact .inl rfl
  · split at h
    · rename_i t ht hkeys
      cases h
      exact .inr ⟨t, ht, rfl, hkeys⟩
    · cases h

lemma delta_addLink (h : a.addLink o deviceID ownerID = some b) :
    Delta (.addLink o deviceID ownerID) a b := by
  rcases addLink_eq_some h with rfl | ⟨t, ht, rfl, -⟩
  · exact delta_of_same rfl (fun _ => rfl) (fun _ => rfl) rfl
  · refine ⟨fun id => by simp, fun o' m hm => ?_,
      fun o' id r hr => .inl ⟨r, by simpa using hr, rfl⟩,
      fun j hj => .inl ⟨j, by simpa using hj, .refl j⟩⟩
    by_cases ho : o' = o
    · subst ho
      rw [members_setMembers, rows_of_insert ht, mem_append, mem_singleton] at hm
      rcases hm with hm | rfl
      · exact .inl hm
      · exact .inr rfl
    · rw [members_setMembers_of_ne _ _ ho] at hm
      exact .inl hm

lemma delta_removeLink :
    Delta (.removeLink o deviceID ownerID) a (a.removeLink o deviceID ownerID) := by
  refine ⟨fun id => by simp [removeLink], fun o' m hm => .inl ?_,
    fun o' id r hr => .inl ⟨r, by simpa [removeLink] using hr, rfl⟩,
    fun j hj => .inl ⟨j, by simpa [removeLink] using hj, .refl j⟩⟩
  by_cases ho : o' = o
  · subst ho
    rw [removeLink, members_setMembers] at hm
    exact (mem_filter.mp hm).1
  · rwa [removeLink, members_setMembers_of_ne _ _ ho] at hm

lemma tenants_update {t : Table DeviceRow.id} {f : DeviceRow → DeviceRow}
    (hf : ∀ d, (f d).id = d.id) (h : ∀ d, (f d).tenantID = d.tenantID) :
    ((t.update f hf).get? id).map (·.tenantID) = (t.get? id).map (·.tenantID) := by
  rw [get?_update, Option.map_map]
  have hcomp : DeviceRow.tenantID ∘ f = DeviceRow.tenantID := funext h
  rw [hcomp]

lemma delta_renameDevice (tenantID deviceID hostname : String) :
    Delta (.renameDevice tenantID deviceID hostname) a
      (a.renameDevice tenantID deviceID hostname).2 := by
  refine ⟨fun id => ?_, fun o m hm => .inl ?_,
    fun o id r hr => .inl ?_, fun j hj => .inl ⟨j, hj, .refl j⟩⟩
  · exact tenants_update (fun d => by split <;> rfl) (fun d => by split <;> rfl)
  · cases o <;> exact hm
  · cases o <;> exact ⟨r, hr, rfl⟩

lemma jobs_updateJobs {u : JobUpdate} {j : JobRow} (h : j ∈ (a.updateJobs u).jobs.rows) :
    ∃ j' ∈ a.jobs.rows, JobUpdate.SameJob j' j := by
  obtain ⟨j', hj', rfl⟩ := mem_map.mp h
  exact ⟨j', hj', u.onRow_same j'⟩

lemma delta_revokeDevice {now : Time} {reason : String}
    (h : a.revokeDevice now tenantID deviceID reason = some b) :
    Delta (.revokeDevice now tenantID deviceID reason) a b := by
  obtain ⟨-, rfl⟩ := revokeDevice_eq_some h
  refine ⟨fun id => ?_, fun o m hm => .inl ?_, fun o id r hr => .inl ?_, fun j hj => .inl ?_⟩
  · exact tenants_update (fun d => by split <;> rfl) (fun d => by split <;> rfl)
  · cases o <;> exact hm
  · cases o <;> exact ⟨r, hr, rfl⟩
  · exact jobs_updateJobs hj

lemma delta_cancelJob {now : Time} {jobID : String} :
    Delta (.cancelJob now jobID) a (a.updateJobs (.markCancelled jobID now)) := by
  refine ⟨fun _ => rfl, fun o m hm => .inl ?_, fun o id r hr => .inl ?_,
    fun j hj => .inl (jobs_updateJobs hj)⟩
  · cases o <;> exact hm
  · cases o <;> exact ⟨r, hr, rfl⟩

lemma delta_insertJob {row : JobRow} (h : a.insertJob row = some b) :
    Delta (.insertJob row) a b := by
  obtain ⟨⟨jobs, hjobs, rfl⟩, -⟩ := insertJob_eq_some h
  refine ⟨fun _ => rfl, fun o m hm => .inl ?_, fun o id r hr => .inl ?_, fun j hj => ?_⟩
  · cases o <;> exact hm
  · cases o <;> exact ⟨r, hr, rfl⟩
  · have hj : j ∈ jobs.rows := hj
    rcases (mem_insert hjobs).mp hj with hj | rfl
    · exact .inl ⟨j, hj, .refl j⟩
    · exact .inr rfl

lemma delta_schedules {t : Table ScheduledJob.id} : Delta e a { a with scheduledJobs := t } :=
  delta_of_same rfl (fun o => by cases o <;> rfl) (fun o => by cases o <;> rfl) rfl

lemma Effect.delta (h : e.apply a = some b) : Delta e a b := by
  cases e with
  | audit row => exact delta_audit h
  | insertOwner o row => exact delta_insertOwner h
  | updateOwner o tenantID id body =>
    cases h
    exact delta_updateOwner
  | deleteOwner o tenantID id =>
    cases h
    exact delta_deleteOwner
  | addLink o deviceID ownerID => exact delta_addLink h
  | removeLink o deviceID ownerID =>
    cases h
    exact delta_removeLink
  | renameDevice tenantID deviceID hostname =>
    cases h
    exact delta_renameDevice tenantID deviceID hostname
  | revokeDevice now tenantID deviceID reason => exact delta_revokeDevice h
  | cancelJob now jobID =>
    cases h
    exact delta_cancelJob
  | insertJob row => exact delta_insertJob h
  | insertSchedule row =>
    obtain ⟨-, t, -, rfl⟩ := eq_some_of_guard h
    exact delta_schedules
  | updateSchedule tenantID id u | setEnabled tenantID id enabled | deleteSchedule tenantID id =>
    cases h
    exact delta_schedules

end

/-! ### Runs -/

/-- A request with everything its outcome depends on besides the database. -/
structure Call where
  caller : Caller
  req : Request
  env : Env
  faults : List Bool := []

def mapBody {β : Type} (f : β → Body) : Reply β → Reply Body
  | .ok status body => .ok status (f body)
  | .error status code message => .error status code message

lemma run_answer {β : Type} (f : β → Body) (p : Proc Db (Reply β)) (fs : List Bool) (db : Db) :
    (answer f p).run fs db = (mapBody f (p.run fs db).1, (p.run fs db).2) := by
  have hanswer : answer f p = p.bind fun r => done (mapBody f r) := by
    rw [answer, bind_eq]
    congr 1
    funext r
    cases r <;> rfl
  rw [hanswer, run_map]

variable (cfg : Config) (db : Db) (c : Call)

def Call.result : Reply Body × Db :=
  (serve cfg c.env c.caller c.req).run c.faults db

def Call.after : Db := (c.result cfg db).2

lemma run_serve_denied {caller : Caller} {req : Request} (hadmin : caller.isAdmin = false)
    (hperm : req.permission ∉ caller.permissions) (env : Env) (faults : List Bool) (db : Db) :
    (serve cfg env caller req).run faults db =
      (.error 403 "forbidden" "You do not have permission to perform this action", db) := by
  unfold serve ApiAuth.require
  rw [if_neg (by simp [hadmin]), if_neg hperm, pure_eq, run_done]

def run (calls : List Call) : Db := calls.foldl (Call.after cfg) db

variable {cfg} in
lemma after_invariant {c : Call} {db : Db} {I : Db → Prop}
    (hI : ∀ a b e, Issues c.caller db a c.req e → e.apply a = some b → I a → I b) (h : I db) :
    I (c.after cfg db) := by
  refine wp_invariant (fun a b hstep ha => ?_) (wp_serve cfg c.env db c.req) h c.faults
  rcases hstep with rfl | ⟨e, hissue, happly⟩
  · exact ha
  · exact hI a b e hissue happly ha

end Moebius.Api
