import Moebius.OperatorRequests
import Moebius.Schedules

/-!
What a tick of the scheduler writes.

The schedules that are due are read once, at the start. Devices and memberships do not change
during a tick, so the targets of all of them can be looked up in the database it starts from.
-/

namespace Moebius.Scheduler

open Proc List

/-- What one statement of a tick may write; `db` is the database the tick starts from. -/
inductive TickStep (cron : Cron) (env : Env) (db a : Db) : Db → Prop
  | same : TickStep cron env db a a
  | fire {sj : ScheduledJob} {target : JobTarget} {d : String} {k i : ℕ} {b : Db}
      (hdue : sj ∈ listDue env db) (htarget : sj.target = some target)
      (hd : db.InScope sj.tenantID target.selection d)
      (h : a.insertJob (scheduledRow (draw env k) i sj d) = some b) : TickStep cron env db a b
  | mark {sj : ScheduledJob} {next : Time → Time} (hdue : sj ∈ listDue env db)
      (hparse : cron.parse sj.cronExpr = .ok next) :
      TickStep cron env db a (a.markScheduledJobRun sj.id env.now (next env.now))
  | reap (u : JobUpdate) : TickStep cron env db a (a.updateJobs u)
  | reapTokens : TickStep cron env db a (a.reapTokens env.now)

/-- The target of the schedule resolves to the device, among others. -/
def Resolves (db : Db) (sj : ScheduledJob) (d : String) : Prop :=
  ∃ target, sj.target = some target ∧ db.InScope sj.tenantID target.selection d

/-- The constraints of the table of jobs, on a job of the schedule for the device. The author of the
job stands for a user. -/
structure Insertable (db : Db) (sj : ScheduledJob) (d : String) : Prop where
  tenant : (db.tenants.get? sj.tenantID).isSome
  device : (db.devices.get? d).isSome
  author : (db.users.get? ("scheduler:" ++ sj.id)).isSome
  retries : Int4 ((sj.retryPolicy.map (·.maxRetries)).getD 0)

variable {i : ℕ} {sj : ScheduledJob} {d : String}

lemma insertable_of_insertJob {env : Env} {a b : Db}
    (h : a.insertJob (scheduledRow env i sj d) = some b) : Insertable a sj d := by
  obtain ⟨⟨htenant, hdevice, -, hauthor, -, hretries⟩, -⟩ := eq_some_of_guard h
  exact ⟨htenant, hdevice, by simpa [scheduledRow] using hauthor, hretries⟩

lemma insertJob_of_insertable {env : Env} {a : Db} (h : Insertable a sj d)
    (hfresh : a.job? (env.newJobID i) = none) :
    ∃ jobs, a.jobs.insert (scheduledRow env i sj d) = some jobs ∧
      a.insertJob (scheduledRow env i sj d) = some { a with jobs } := by
  obtain ⟨jobs, hjobs⟩ := Table.exists_insert (r := scheduledRow env i sj d) hfresh
  refine ⟨jobs, hjobs, ?_⟩
  have hauthor : (scheduledRow env i sj d).createdBy.all fun u => (a.users.get? u).isSome := by
    simpa [scheduledRow] using h.author
  have hcount : Int4 0 := by decide
  have hc : (a.tenants.get? (scheduledRow env i sj d).tenantID).isSome ∧
      (a.devices.get? (scheduledRow env i sj d).deviceID).isSome ∧
      (scheduledRow env i sj d).parentJobID.all (fun p => (a.jobs.get? p).isSome) ∧
      (scheduledRow env i sj d).createdBy.all (fun u => (a.users.get? u).isSome) ∧
      Int4 (scheduledRow env i sj d).retryCount ∧ Int4 (scheduledRow env i sj d).maxRetries :=
    ⟨h.tenant, h.device, rfl, hauthor, hcount, h.retries⟩
  rw [Db.insertJob, if_pos hc, hjobs]
  rfl

/-- Tenants, users, devices and memberships are as they were. -/
structure SameParties (a b : Db) : Prop where
  tenants : b.tenants = a.tenants
  users : b.users = a.users
  places : SamePlaces a b

namespace SameParties

variable {a b c : Db}

lemma refl (a : Db) : SameParties a a := ⟨rfl, rfl, .refl a⟩

lemma trans (h : SameParties a b) (h' : SameParties b c) : SameParties a c :=
  ⟨h'.tenants.trans h.tenants, h'.users.trans h.users, h.places.trans h'.places⟩

lemma insertable_iff (h : SameParties a b) : Insertable b sj d ↔ Insertable a sj d := by
  constructor
  · rintro ⟨ht, hd, hu, hr⟩
    rw [h.tenants] at ht
    rw [h.places.devices] at hd
    rw [h.users] at hu
    exact ⟨ht, hd, hu, hr⟩
  · rintro ⟨ht, hd, hu, hr⟩
    rw [← h.tenants] at ht
    rw [← h.places.devices] at hd
    rw [← h.users] at hu
    exact ⟨ht, hd, hu, hr⟩

lemma of_jobs (a : Db) (jobs : Table JobRow.id) : SameParties a { a with jobs } :=
  ⟨rfl, rfl, rfl, fun o => by cases o <;> rfl, fun o => by cases o <;> rfl⟩

lemma of_schedules (a : Db) (scheduledJobs : Table ScheduledJob.id) :
    SameParties a { a with scheduledJobs } :=
  ⟨rfl, rfl, rfl, fun o => by cases o <;> rfl, fun o => by cases o <;> rfl⟩

end SameParties

lemma mem_listDue {env : Env} {db : Db} :
    sj ∈ listDue env db ↔ sj ∈ db.scheduledJobs.rows ∧ due env.now sj = true := by
  unfold listDue
  rw [(perm_insertionSort _ _).mem_iff, Scan.mem_order]
  exact mem_filter

section

variable {cron : Cron} {env : Env} {db a b : Db}

lemma TickStep.parties (h : TickStep cron env db a b) : SameParties a b := by
  cases h with
  | same => exact .refl a
  | fire hdue htarget hd h =>
    obtain ⟨⟨jobs, -, rfl⟩, -⟩ := Db.insertJob_eq_some h
    exact .of_jobs a jobs
  | mark => exact .of_schedules a _
  | reap u => exact .of_jobs a _
  | reapTokens => exact ⟨rfl, rfl, rfl, fun o => by cases o <;> rfl, fun o => by cases o <;> rfl⟩

lemma TickStep.places (h : TickStep cron env db a b) : SamePlaces a b := h.parties.places

variable {k : ℕ}

lemma wp_dispatch (hdue : sj ∈ listDue env db) (ha : SamePlaces db a) :
    (dispatchScheduledJob (draw env k) sj).wp (TickStep cron env db) (fun _ _ => True) a := by
  refine wp_scheduled (draw env k) .same trivial fun target htarget => wp_of_each ?_ a
  refine each_loop (fun ids d hmem => ?_) []
  refine each_bind (each_attempt (fun _ => .same) fun s s' hs => ?_) fun ok => ?_
  · exact .fire hdue htarget (ha.inScope_iff.mp ((mem_selected (draw env k)).mp hmem)) hs
  · split <;> trivial

lemma wp_runScheduled (hdue : sj ∈ listDue env db) (ha : SamePlaces db a) :
    (runScheduled cron env k sj).wp (TickStep cron env db) (fun _ _ => True) a := by
  unfold runScheduled
  refine wp_seq (wp_dispatch hdue ha) fun ok _ _ => ?_
  cases ok
  · trivial
  simp only [if_true, advance]
  rcases hparse : cron.parse sj.cronExpr with msg | next
  · trivial
  · simp only [bind_eq, wp_bind, wp_exec]
    exact ⟨⟨.mark hdue hparse, trivial⟩, trivial⟩

lemma wp_evaluate :
    (evaluateScheduledJobs cron env).wp (TickStep cron env db) (fun _ _ => True) db := by
  simp only [evaluateScheduledJobs, bind_eq, wp_bind, wp_read]
  refine ⟨⟨.same, ?_⟩, trivial⟩
  refine wp_loop (fun xs _ a => (∀ sj ∈ xs, sj ∈ listDue env db) ∧ SamePlaces db a)
    (fun _ _ => True) (fun sj xs k a hI => ?_) (fun _ _ _ => trivial) (fun _ _ _ => trivial)
    ⟨fun _ h => h, .refl db⟩
  obtain ⟨hdue, ha⟩ := hI
  rw [wp_bind]
  refine wp_post (fun _ _ h => ?_)
    (wp_carry (fun _ _ h ha => ha.trans h.places) ha
      (wp_runScheduled (hdue sj mem_cons_self) ha))
  exact ⟨fun sj' h' => hdue sj' (mem_cons_of_mem sj h'), h.1⟩

lemma wp_runTick (cron : Cron) (cfg : Config) (env : Env) (db : Db) :
    (runTick cron cfg env).wp (TickStep cron env db) (fun _ _ => True) db := by
  simp only [runTick, bind_eq, wp_bind]
  refine wp_post (fun _ a _ => ?_) wp_evaluate
  refine wp_of_each ?_ a
  refine each_bind (each_bind (each_exec fun _ => .reap _) fun _ =>
    each_bind (each_exec fun _ => .reap _) fun _ => trivial) fun _ => ?_
  exact each_bind (each_exec fun _ => .reapTokens) fun _ => trivial

lemma fired_of_new (cron : Cron) (cfg : Config) (env : Env) (faults : List Bool) (db : Db) :
    ∀ row ∈ ((runTick cron cfg env).run faults db).2.jobs.rows, db.job? row.id = none →
      ∃ sj ∈ listDue env db, row.createdBy = some ("scheduler:" ++ sj.id) ∧
        Resolves db sj row.deviceID ∧ Insertable db sj row.deviceID := by
  have hinv := wp_invariant
    (I := fun a => SameParties db a ∧ ∀ row ∈ a.jobs.rows, db.job? row.id = none →
      ∃ sj ∈ listDue env db, row.createdBy = some ("scheduler:" ++ sj.id) ∧
        Resolves db sj row.deviceID ∧ Insertable db sj row.deviceID)
    (fun a b hstep ha => ⟨ha.1.trans hstep.parties, fun row hrow hnew => ?_⟩)
    (wp_runTick cron cfg env db) ⟨.refl db, fun row hrow hnew => ?_⟩ faults
  · exact hinv.2
  · cases hstep with
    | same | mark | reapTokens => exact ha.2 row hrow hnew
    | @fire sj target d k i _ hdue htarget hd h =>
      have hins := ha.1.insertable_iff.mp (insertable_of_insertJob h)
      obtain ⟨⟨jobs, hjobs, rfl⟩, -⟩ := Db.insertJob_eq_some h
      have hrow : row ∈ jobs.rows := hrow
      rcases (Table.mem_insert hjobs).mp hrow with hold | rfl
      · exact ha.2 row hold hnew
      · exact ⟨sj, hdue, rfl, ⟨target, htarget, hd⟩, hins⟩
    | reap u =>
      obtain ⟨row', hrow', rfl⟩ := mem_map.mp hrow
      have hsame := u.onRow_same row'
      rw [hsame.id] at hnew
      rw [hsame.createdBy, hsame.deviceID]
      exact ha.2 row' hrow' hnew
  · exact absurd hnew (Table.get?_ne_none_of_mem hrow)

end

end Moebius.Scheduler
