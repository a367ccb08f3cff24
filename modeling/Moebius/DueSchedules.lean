import Moebius.Ticks

/-!
What a tick does for one schedule, when no statement fails.

The schedules that are due run one after the other. What the others write stands beside what the
schedule writes: their jobs have other authors and other identifiers, and their rows are their own.
So the tick is cut in three: the schedules before, the schedule itself, and the schedules after it.
-/

namespace Moebius.Scheduler

open Proc List JobUpdate Table Function Nat

/-! ### Running -/

def afterTick (cron : Cron) (cfg : Config) (env : Env) (faults : List Bool) (db : Db) : Db :=
  ((runTick cron cfg env).run faults db).2

def jobsOf (id : String) (db db' : Db) : List JobRow :=
  db'.jobs.rows.filter fun j =>
    (db.job? j.id).isNone ∧ j.createdBy = some ("scheduler:" ++ id)

/-- The job waits for its device, and is what the schedule says. -/
structure Queued (sj : ScheduledJob) (j : JobRow) : Prop where
  status : j.status = .queued
  tenantID : j.tenantID = sj.tenantID
  type : j.type = sj.jobType
  payload : j.payload = sj.payload
  retryPolicy : j.retryPolicy = sj.retryPolicy
  maxRetries : j.maxRetries = (sj.retryPolicy.map (·.maxRetries)).getD 0

/-- One job was added for each device the target of the schedule resolves to, and no others. -/
structure OneEach (sj : ScheduledJob) (db db' : Db) : Prop where
  one : ∀ d, Resolves db sj d → ∃! j, j ∈ jobsOf sj.id db db' ∧ j.deviceID = d
  each : ∀ j ∈ jobsOf sj.id db db', Resolves db sj j.deviceID ∧ Queued sj j

/-- The schedule has run, and its next run is still to come. -/
structure Ran (now : Time) (sj : ScheduledJob) (db db' : Db) : Prop
    extends OneEach sj db db' where
  next : ∃ sj', db'.scheduledJobs.get? sj.id = some sj' ∧ ∃ t, sj'.nextRunAt = some t ∧ now < t

/-- What the server leaves to chance: jobs can be inserted in the name of the schedule, if there are
any to insert, and the library has a next run. -/
structure Runnable (cron : Cron) (now : Time) (db : Db) (sj : ScheduledJob) : Prop where
  target : sj.target ≠ none
  author : ∀ d, Resolves db sj d → (db.users.get? ("scheduler:" ++ sj.id)).isSome ∧
    Int4 ((sj.retryPolicy.map (·.maxRetries)).getD 0)
  next : ∃ next, cron.parse sj.cronExpr = .ok next ∧ now < next now

/-- The identifiers the tick draws for jobs are distinct and not in use. -/
structure NewIDs (env : Env) (db : Db) : Prop where
  fresh : ∀ i, db.job? (env.newJobID i) = none
  distinct : Injective env.newJobID

lemma mem_jobsOf {id : String} {db db' : Db} {j : JobRow} : j ∈ jobsOf id db db' ↔
      j ∈ db'.jobs.rows ∧ db.job? j.id = none ∧ j.createdBy = some ("scheduler:" ++ id) := by
  simp [jobsOf, mem_filter]

lemma author_inj {id id' : String} (h : some ("scheduler:" ++ id) = some ("scheduler:" ++ id')) :
    id = id' :=
  (String.append_right_inj _).mp (Option.some.inj h)

variable {sj : ScheduledJob} {id : String} {n : ℕ}

section

variable {cron : Cron} {env : Env} {a b c db : Db}

/-- What a schedule writes that is not the one with this identifier and number. -/
structure Beside (env : Env) (id : String) (n : ℕ) (a b : Db) : Prop where
  parties : SameParties a b
  schedule : b.scheduledJobs.get? id = a.scheduledJobs.get? id
  jobs : ∃ rows, b.jobs.rows = a.jobs.rows ++ rows ∧ ∀ r ∈ rows,
    r.createdBy ≠ some ("scheduler:" ++ id) ∧ ∃ k i, k ≠ n ∧ r.id = env.newJobID (pair k i)

namespace Beside

lemma refl (a : Db) : Beside env id n a a :=
  ⟨.refl a, rfl, [], (append_nil _).symm, fun _ h => by cases h⟩

lemma trans (h : Beside env id n a b) (h' : Beside env id n b c) : Beside env id n a c := by
  obtain ⟨rows, hrows, hall⟩ := h.jobs
  obtain ⟨rows', hrows', hall'⟩ := h'.jobs
  refine ⟨h.parties.trans h'.parties, h'.schedule.trans h.schedule, rows ++ rows', ?_,
    fun r hr => ?_⟩
  · rw [hrows', hrows, append_assoc]
  · rcases mem_append.mp hr with hr | hr
    · exact hall r hr
    · exact hall' r hr

lemma fire {k i : ℕ} {d : String} (hid : sj.id ≠ id) (hk : k ≠ n)
    (h : a.insertJob (scheduledRow (draw env k) i sj d) = some b) : Beside env id n a b := by
  obtain ⟨⟨jobs, hjobs, rfl⟩, -⟩ := Db.insertJob_eq_some h
  refine ⟨.of_jobs a jobs, rfl, [scheduledRow (draw env k) i sj d], rows_of_insert hjobs,
    fun r hr => ?_⟩
  cases mem_singleton.mp hr
  exact ⟨fun h => hid (author_inj h), k, i, hk, rfl⟩

lemma mark {t t' : Time} (hid : sj.id ≠ id) :
    Beside env id n a (a.markScheduledJobRun sj.id t t') := by
  refine ⟨.of_schedules a _, ?_, [], (append_nil _).symm, fun _ h => by cases h⟩
  unfold Db.markScheduledJobRun
  rw [get?_update]
  rcases hrow : a.scheduledJobs.get? id with _ | row
  · rfl
  · have hne : row.id ≠ sj.id := by
      rw [key_of_get? hrow]
      exact hid.symm
    simp [hne]

end Beside

variable {target : JobTarget} {k : ℕ}

lemma each_runScheduled (hid : sj.id ≠ id) (hk : k ≠ n) :
    (runScheduled cron env k sj).Each (Beside env id n) := by
  refine each_bind (each_dispatchScheduledJob _ .refl fun _ _ _ _ => .fire hid hk) fun ok => ?_
  cases ok
  · trivial
  simp only [if_true, advance]
  split
  · trivial
  · exact each_bind (each_exec fun s => .mark hid) fun _ => trivial

def round (cron : Cron) (env : Env) (a : Db) (x : ScheduledJob × ℕ) : Db :=
  ((runScheduled cron env x.2 x.1).run [] a).2

lemma beside_rounds {xs : List (ScheduledJob × ℕ)} (h : ∀ x ∈ xs, x.1.id ≠ id ∧ x.2 ≠ n) (a : Db) :
    Beside env id n a (xs.foldl (round cron env) a) := by
  induction xs generalizing a with
  | nil => exact .refl a
  | cons x xs ih =>
    obtain ⟨hid, hk⟩ := h x mem_cons_self
    have hstep : Beside env id n a (round cron env a x) :=
      wp_rel .refl (fun _ _ _ => .trans) (wp_of_each (each_runScheduled hid hk) a) []
    exact hstep.trans (ih (fun y hy => h y (mem_cons_of_mem x hy)) _)

lemma run_nil_rounds {xs : List ScheduledJob} : ((loop (fun k sj => do
      runScheduled cron env k sj
      pure (.ok (k + 1) : Except Unit ℕ)) xs k).run [] a).2 =
      (xs.zipIdx k).foldl (round cron env) a := by
  induction xs generalizing k a with
  | nil => rfl
  | cons sj xs ih =>
    rw [loop, run_nil_bind, bind_eq, run_nil_bind, zipIdx_cons, foldl_cons, ← ih]
    rfl

lemma run_nil_evaluate (cron : Cron) (env : Env) (db : Db) :
    ((evaluateScheduledJobs cron env).run [] db).2 =
      (listDue env db).zipIdx.foldl (round cron env) db := by
  rw [← run_nil_rounds]
  simp only [evaluateScheduledJobs, bind_eq, run_nil_bind, run_nil_read]
  rfl

/-! ### The schedule itself -/

/-- The jobs of a schedule for these devices, the first of them with number `i`. -/
def scheduledRows (env : Env) (sj : ScheduledJob) (ds : List String) (i : ℕ) : List JobRow :=
  (ds.zipIdx i).map fun x => scheduledRow env x.2 sj x.1

lemma run_nil_insertJobs {ds acc : List String} (hins : ∀ d ∈ ds, Insertable a sj d)
    (hfresh : ∀ i, acc.length ≤ i → a.job? (env.newJobID i) = none)
    (hdistinct : Injective env.newJobID) :
    ∃ ids jobs, (loop (fun (ids : List String) deviceID => do
        if ← attempt (Db.insertJob (scheduledRow env ids.length sj deviceID)) then
          pure (.ok (ids ++ [(scheduledRow env ids.length sj deviceID).id]))
        else pure (.error ())) ds acc).run [] a = (Except.ok ids, { a with jobs }) ∧
      jobs.rows = a.jobs.rows ++ scheduledRows env sj ds acc.length := by
  induction ds generalizing acc a with
  | nil => exact ⟨acc, a.jobs, rfl, (append_nil _).symm⟩
  | cons d ds ih =>
    obtain ⟨jobs, hjobs, hinsert⟩ :=
      insertJob_of_insertable (hins d mem_cons_self) (hfresh acc.length le_rfl)
    have hparties : SameParties a { a with jobs } := .of_jobs a jobs
    have hfresh' : ∀ i, (acc ++ [(scheduledRow env acc.length sj d).id]).length ≤ i →
        Db.job? { a with jobs } (env.newJobID i) = none := by
      intro i hi
      rw [length_append, length_singleton] at hi
      have hne : (scheduledRow env acc.length sj d).id ≠ env.newJobID i := fun h => by
        have := hdistinct h
        omega
      have hget := get?_insert hjobs (env.newJobID i)
      rw [if_neg hne] at hget
      exact hget.trans (hfresh i (by omega))
    obtain ⟨ids, jobs', hrun, hrows⟩ := ih
      (fun d' hd' => hparties.insertable_iff.mpr (hins d' (mem_cons_of_mem d hd'))) hfresh'
    refine ⟨ids, jobs', ?_, ?_⟩
    · rw [loop, run_nil_bind, bind_eq, run_nil_bind, run_nil_attempt, hinsert]
      exact hrun
    · rw [hrows, rows_of_insert hjobs, length_append, length_singleton, append_assoc]
      rfl

lemma run_nil_resolveTargets (env : Env) (tenantID : String) (target : JobTarget) (a : Db) :
    (resolveTargets env tenantID target).run [] a =
      (.ok (selected env tenantID target.selection a), a) :=
  run_nil_expandAll env tenantID target.selection

lemma mem_selected_iff_resolves (env : Env) (htarget : sj.target = some target) {d : String} :
    d ∈ selected env sj.tenantID target.selection a ↔ Resolves a sj d := by
  rw [mem_selected, Resolves, htarget]
  constructor
  · exact fun hd => ⟨target, rfl, hd⟩
  · rintro ⟨_, ⟨⟩, hd⟩
    exact hd

lemma run_nil_dispatch (htarget : sj.target = some target)
    (hins : ∀ d, Resolves a sj d → Insertable a sj d) (hfresh : ∀ i, a.job? (env.newJobID i) = none)
    (hdistinct : Injective env.newJobID) :
    ∃ jobs, (dispatchScheduledJob env sj).run [] a = (true, { a with jobs }) ∧
      jobs.rows = a.jobs.rows ++
        scheduledRows env sj (selected env sj.tenantID target.selection a) 0 := by
  have hall : ∀ d ∈ selected env sj.tenantID target.selection a, Insertable a sj d :=
    fun d hd => hins d ((mem_selected_iff_resolves env htarget).mp hd)
  simp only [dispatchScheduledJob, htarget, bind_eq, run_nil_bind, run_nil_resolveTargets]
  generalize selected env sj.tenantID target.selection a = ds at hall
  rcases ds with _ | ⟨d, ds⟩
  · exact ⟨a.jobs, rfl, (append_nil _).symm⟩
  have hstart : ∀ i, ([] : List String).length ≤ i → a.job? (env.newJobID i) = none :=
    fun i _ => hfresh i
  obtain ⟨ids, jobs, hrun, hrows⟩ := run_nil_insertJobs hall hstart hdistinct
  refine ⟨jobs, ?_, hrows⟩
  have hrun : (Jobs.insertJobs (fun i d => scheduledRow env i sj d) (d :: ds)).run [] a =
      (.ok ids, { a with jobs }) := hrun
  simp only [run_nil_bind, hrun]
  rfl

/-- The schedule does not fire: it has no target, or the first of its jobs is refused already. -/
lemma run_nil_dispatch_stuck (h : ∀ target, sj.target = some target → ∃ d, Resolves a sj d)
    (hins : ∀ d, Resolves a sj d → ¬ Insertable a sj d) :
    (dispatchScheduledJob env sj).run [] a = (false, a) := by
  rcases htarget : sj.target with _ | target
  · simp only [dispatchScheduledJob, htarget]
    rfl
  obtain ⟨d₀, hd₀⟩ := h target htarget
  rw [← mem_selected_iff_resolves env htarget] at hd₀
  simp only [dispatchScheduledJob, htarget, bind_eq, run_nil_bind, run_nil_resolveTargets]
  have hnone : ∀ d ∈ selected env sj.tenantID target.selection a,
      a.insertJob (scheduledRow env 0 sj d) = none := by
    intro d hd
    by_contra hsome
    obtain ⟨b, hb⟩ := Option.ne_none_iff_exists'.mp hsome
    exact hins d ((mem_selected_iff_resolves env htarget).mp hd) (insertable_of_insertJob hb)
  generalize selected env sj.tenantID target.selection a = ds at hd₀ hnone
  rcases ds with _ | ⟨d, ds⟩
  · cases hd₀
  have hfirst := hnone d mem_cons_self
  have hrun : (Jobs.insertJobs (fun i d => scheduledRow env i sj d) (d :: ds)).run [] a =
      (.error (), a) := by
    rw [Jobs.insertJobs, loop, run_nil_bind, bind_eq, run_nil_bind, run_nil_attempt]
    simp only [length_nil, hfirst]
    rfl
  simp only [run_nil_bind, hrun]
  rfl

lemma resolves_iff (h : SameParties a b) {d : String} : Resolves b sj d ↔ Resolves a sj d := by
  simp only [Resolves, h.places.inScope_iff]

def advanced (cron : Cron) (now : Time) (sj : ScheduledJob) : ScheduledJob :=
  match cron.parse sj.cronExpr with
  | .error _ => sj
  | .ok next => { sj with lastRunAt := some now, nextRunAt := some (next now) }

lemma get?_mark (hsj : a.scheduledJobs.get? sj.id = some sj) (t t' : Time) :
    (a.markScheduledJobRun sj.id t t').scheduledJobs.get? sj.id =
      some { sj with lastRunAt := some t, nextRunAt := some t' } := by
  unfold Db.markScheduledJobRun
  rw [get?_update, hsj]
  simp

variable (cron) in
lemma round_fires (hsj : a.scheduledJobs.get? sj.id = some sj) (htarget : sj.target = some target)
    (hins : ∀ d, Resolves a sj d → Insertable a sj d)
    (hfresh : ∀ i, a.job? (env.newJobID (pair n i)) = none)
    (hdistinct : Injective env.newJobID) :
    (round cron env a (sj, n)).jobs.rows = a.jobs.rows ++ scheduledRows (draw env n) sj
        (selected (draw env n) sj.tenantID target.selection a) 0 ∧
      (round cron env a (sj, n)).scheduledJobs.get? sj.id = some (advanced cron env.now sj) := by
  have hinj : Injective (draw env n).newJobID := fun i i' h =>
    (pair_eq_pair.mp (hdistinct h)).2
  have hfresh : ∀ i, a.job? ((draw env n).newJobID i) = none := hfresh
  obtain ⟨jobs, hrun, hrows⟩ := run_nil_dispatch htarget hins hfresh hinj
  simp only [round, runScheduled, bind_eq, run_nil_bind, hrun, if_true, advance, advanced]
  rcases cron.parse sj.cronExpr with msg | next
  · exact ⟨hrows, hsj⟩
  · exact ⟨hrows, get?_mark (a := { a with jobs }) hsj env.now (next env.now)⟩

lemma round_stuck (h : ∀ target, sj.target = some target → ∃ d, Resolves a sj d)
    (hins : ∀ d, Resolves a sj d → ¬ Insertable a sj d) : round cron env a (sj, n) = a := by
  simp only [round, runScheduled, bind_eq, run_nil_bind, run_nil_dispatch_stuck h hins]
  rfl

end

section

variable {cron : Cron} {cfg : Config} {env : Env} {db : Db}

lemma nodup_listDue (env : Env) (db : Db) : ((listDue env db).map (·.id)).Nodup := by
  have hperm : (listDue env db).Perm (db.scheduledJobs.select (due env.now)) :=
    (perm_insertionSort _ _).trans (env.scanSchedules.perm _)
  rw [(hperm.map _).nodup_iff]
  exact db.scheduledJobs.nodup.sublist (filter_sublist.map _)

lemma cut_tick (cron : Cron) (hdue : sj ∈ listDue env db) :
    ∃ n a₁ a₂, Beside env sj.id n db a₁ ∧ round cron env a₁ (sj, n) = a₂ ∧
      Beside env sj.id n a₂ ((evaluateScheduledJobs cron env).run [] db).2 := by
  obtain ⟨pre, post, hsplit⟩ := append_of_mem hdue
  have hnodup := nodup_listDue env db
  rw [hsplit, map_append, map_cons] at hnodup
  obtain ⟨-, htail, hdisj⟩ := nodup_append.mp hnodup
  refine ⟨pre.length, pre.zipIdx.foldl (round cron env) db, _, beside_rounds (fun x hx => ?_) db,
    rfl, ?_⟩
  · obtain ⟨-, hlt, hget⟩ := mem_zipIdx hx
    refine ⟨hdisj _ (mem_map.mpr ⟨x.1, ?_, rfl⟩) _ mem_cons_self, by omega⟩
    rw [hget]
    exact getElem_mem _
  · rw [run_nil_evaluate, hsplit, zipIdx_append, foldl_append, zipIdx_cons,
      foldl_cons, zero_add]
    refine beside_rounds (fun x hx => ?_) _
    obtain ⟨hle, -, hget⟩ := mem_zipIdx hx
    refine ⟨fun h => (nodup_cons.mp htail).1 (mem_map.mpr ⟨x.1, ?_, h⟩), by omega⟩
    rw [hget]
    exact getElem_mem _

def reaped (cfg : Config) (now : Time) (j : JobRow) : JobRow :=
  (reapInflight now (now - (timeouts cfg).inflightTimeout)).onRow
    ((reapDispatched (now - (timeouts cfg).dispatchedTimeout)).onRow j)

variable {j : JobRow} {now : Time}

lemma reaped_of_queued (h : j.status = .queued) : reaped cfg now j = j := by
  simp [reaped, onRow, h]

lemma reaped_same : SameJob j (reaped cfg now j) := (onRow_same _ j).trans (onRow_same _ _)

lemma jobs_afterTick : (afterTick cron cfg env [] db).jobs.rows =
      ((evaluateScheduledJobs cron env).run [] db).2.jobs.rows.map (reaped cfg env.now) := by
  have hrun : (afterTick cron cfg env [] db).jobs.rows =
      (((evaluateScheduledJobs cron env).run [] db).2.jobs.rows.map
        (reapDispatched (env.now - (timeouts cfg).dispatchedTimeout)).onRow).map
        (reapInflight env.now (env.now - (timeouts cfg).inflightTimeout)).onRow := by
    simp only [afterTick, runTick, bind_eq, run_nil_bind]
    rfl
  rw [hrun, map_map]
  rfl

lemma schedules_afterTick (cron : Cron) (cfg : Config) (env : Env) (db : Db) :
    (afterTick cron cfg env [] db).scheduledJobs =
      ((evaluateScheduledJobs cron env).run [] db).2.scheduledJobs := by
  simp only [afterTick, runTick, bind_eq, run_nil_bind]
  generalize ((evaluateScheduledJobs cron env).run [] db).2 = a
  rfl

lemma jobsOf_afterTick
    (h : ∀ j ∈ jobsOf id db ((evaluateScheduledJobs cron env).run [] db).2, j.status = .queued)
    (j : JobRow) : j ∈ jobsOf id db (afterTick cron cfg env [] db) ↔
      j ∈ jobsOf id db ((evaluateScheduledJobs cron env).run [] db).2 := by
  constructor
  · intro hj
    obtain ⟨hrow, hnew, hby⟩ := mem_jobsOf.mp hj
    rw [jobs_afterTick] at hrow
    obtain ⟨j', hj', rfl⟩ := mem_map.mp hrow
    rw [(reaped_same).id] at hnew
    rw [(reaped_same).createdBy] at hby
    have hmem := mem_jobsOf.mpr ⟨hj', hnew, hby⟩
    rwa [reaped_of_queued (h j' hmem)]
  · intro hj
    obtain ⟨hrow, hnew, hby⟩ := mem_jobsOf.mp hj
    refine mem_jobsOf.mpr ⟨?_, hnew, hby⟩
    rw [jobs_afterTick]
    exact mem_map.mpr ⟨j, hrow, reaped_of_queued (h j hj)⟩

lemma mem_jobsOf_of_beside {a b c : Db} {rows : List JobRow} (hbefore : Beside env id n db a)
    (hrows : b.jobs.rows = a.jobs.rows ++ rows) (hafter : Beside env id n b c)
    (hnew : ∀ j ∈ rows, db.job? j.id = none ∧ j.createdBy = some ("scheduler:" ++ id))
    (j : JobRow) : j ∈ jobsOf id db c ↔ j ∈ rows := by
  obtain ⟨rows₁, hrows₁, hother₁⟩ := hbefore.jobs
  obtain ⟨rows₂, hrows₂, hother₂⟩ := hafter.jobs
  rw [mem_jobsOf, hrows₂, hrows, hrows₁]
  constructor
  · rintro ⟨hj, hfresh, hby⟩
    rcases mem_append.mp hj with hj | hj
    · rcases mem_append.mp hj with hj | hj
      · rcases mem_append.mp hj with hj | hj
        · exact absurd hfresh (get?_ne_none_of_mem hj)
        · exact absurd hby (hother₁ j hj).1
      · exact hj
    · exact absurd hby (hother₂ j hj).1
  · intro hj
    exact ⟨mem_append_left _ (mem_append_right _ hj), hnew j hj⟩

lemma Beside.fresh {a : Db} (h : Beside env id n db a) (hids : NewIDs env db) (i : ℕ) :
    a.job? (env.newJobID (pair n i)) = none := by
  obtain ⟨rows, hrows, hother⟩ := h.jobs
  by_contra hsome
  obtain ⟨r, hr⟩ := Option.ne_none_iff_exists'.mp hsome
  have hid : r.id = env.newJobID (pair n i) := key_of_get? hr
  have hmem : r ∈ a.jobs.rows := mem_of_get? hr
  rw [hrows] at hmem
  rcases mem_append.mp hmem with hold | hnew
  · have hfresh : db.job? r.id = none := hid ▸ hids.fresh _
    exact absurd hfresh (get?_ne_none_of_mem hold)
  · obtain ⟨-, k, i', hk, hid'⟩ := hother r hnew
    exact hk (pair_eq_pair.mp (hids.distinct (hid'.symm.trans hid))).1

lemma devices_scheduledRows (env : Env) (sj : ScheduledJob) (ds : List String) (i : ℕ) :
    (scheduledRows env sj ds i).map (·.deviceID) = ds := by
  rw [scheduledRows, map_map]
  exact zipIdx_map_fst i ds

lemma queued_of_mem {ds : List String} {i : ℕ} (h : j ∈ scheduledRows env sj ds i) :
    Queued sj j ∧ j.createdBy = some ("scheduler:" ++ sj.id) ∧ ∃ i', j.id = env.newJobID i' := by
  obtain ⟨x, -, rfl⟩ := mem_map.mp h
  exact ⟨⟨rfl, rfl, rfl, rfl, rfl, rfl⟩, rfl, x.2, rfl⟩

/-- All that a tick does for a schedule that is due and whose jobs can be inserted. -/
structure Fired (cron : Cron) (now : Time) (sj : ScheduledJob) (db db' : Db) : Prop
    extends OneEach sj db db' where
  schedule : db'.scheduledJobs.get? sj.id = some (advanced cron now sj)

lemma tick_fires (cron : Cron) (cfg : Config) (hids : NewIDs env db) (hdue : sj ∈ listDue env db)
    (htarget : sj.target ≠ none) (hins : ∀ d, Resolves db sj d → Insertable db sj d) :
    Fired cron env.now sj db (afterTick cron cfg env [] db) := by
  obtain ⟨n, a₁, a₂, hbefore, hround, hafter⟩ := cut_tick cron hdue
  have hsj : a₁.scheduledJobs.get? sj.id = some sj :=
    hbefore.schedule.trans (get?_of_mem (mem_listDue.mp hdue).1)
  obtain ⟨target, ht⟩ := Option.ne_none_iff_exists'.mp htarget
  obtain ⟨hrows, hschedule⟩ := round_fires cron hsj ht
    (fun d hd => hbefore.parties.insertable_iff.mpr (hins d ((resolves_iff hbefore.parties).mp hd)))
    (hbefore.fresh hids) hids.distinct
  rw [hround] at hrows hschedule
  have hmem : ∀ d, d ∈ selected (draw env n) sj.tenantID target.selection a₁ ↔ Resolves db sj d :=
    fun d => (mem_selected_iff_resolves _ ht).trans (resolves_iff hbefore.parties)
  have hnodup := nodup_selected (draw env n) sj.tenantID target.selection a₁
  generalize selected (draw env n) sj.tenantID target.selection a₁ = ds at hmem hrows hnodup
  -- the jobs of the schedule are the rows its own round has inserted
  have hjobs : ∀ j, j ∈ jobsOf sj.id db ((evaluateScheduledJobs cron env).run [] db).2 ↔
      j ∈ scheduledRows (draw env n) sj ds 0 := by
    refine mem_jobsOf_of_beside hbefore hrows hafter fun j hj => ?_
    obtain ⟨-, hby, i, hid⟩ := queued_of_mem hj
    rw [hid]
    exact ⟨hids.fresh _, hby⟩
  have hfinal : ∀ j, j ∈ jobsOf sj.id db (afterTick cron cfg env [] db) ↔
      j ∈ scheduledRows (draw env n) sj ds 0 := by
    intro j
    rw [jobsOf_afterTick fun j hj => (queued_of_mem ((hjobs j).mp hj)).1.status, hjobs]
  have hdevices := devices_scheduledRows (draw env n) sj ds 0
  refine ⟨⟨fun d hd => ?_, fun j hj => ?_⟩, ?_⟩
  · rw [← hmem, ← hdevices] at hd
    obtain ⟨j, hj, rfl⟩ := mem_map.mp hd
    refine ⟨j, ⟨(hfinal j).mpr hj, rfl⟩, fun j' hj' => ?_⟩
    exact inj_on_of_nodup_map (hdevices.symm ▸ hnodup) ((hfinal j').mp hj'.1) hj hj'.2
  · rw [hfinal] at hj
    refine ⟨?_, (queued_of_mem hj).1⟩
    rw [← hmem, ← hdevices]
    exact mem_map_of_mem hj
  · rw [schedules_afterTick, hafter.schedule]
    exact hschedule

lemma tick_stuck (cron : Cron) (cfg : Config) (hdue : sj ∈ listDue env db)
    (h : ∀ target, sj.target = some target → ∃ d, Resolves db sj d)
    (hins : ∀ d, Resolves db sj d → ¬ Insertable db sj d) :
    (afterTick cron cfg env [] db).scheduledJobs.get? sj.id = some sj := by
  obtain ⟨n, a₁, a₂, hbefore, hround, hafter⟩ := cut_tick cron hdue
  have hstuck : round cron env a₁ (sj, n) = a₁ := by
    refine round_stuck (fun target ht => ?_) fun d hd => ?_
    · obtain ⟨d, hd⟩ := h target ht
      exact ⟨d, (resolves_iff hbefore.parties).mpr hd⟩
    · rw [hbefore.parties.insertable_iff]
      exact hins d ((resolves_iff hbefore.parties).mp hd)
  rw [schedules_afterTick, hafter.schedule, ← hround, hstuck, hbefore.schedule]
  exact get?_of_mem (mem_listDue.mp hdue).1

lemma next_of_due {t : Time} (h : due now sj = true) (ht : sj.nextRunAt = some t) : t ≤ now := by
  simp only [due, ht, Bool.and_eq_true, Option.any_some, decide_eq_true_eq] at h
  exact h.2

lemma jobsOf_eq_nil (cron : Cron) (cfg : Config) (env : Env) (faults : List Bool)
    (hsj : sj ∈ db.scheduledJobs.rows) (hdue : due env.now sj = false) :
    jobsOf sj.id db (afterTick cron cfg env faults db) = [] := by
  refine eq_nil_iff_forall_not_mem.mpr fun j hj => ?_
  obtain ⟨hrow, hnew, hby⟩ := mem_jobsOf.mp hj
  obtain ⟨sj', hdue', hby', -⟩ := fired_of_new cron cfg env faults db j hrow hnew
  obtain ⟨hsj', hdue'⟩ := mem_listDue.mp hdue'
  have heq : sj' = sj := eq_of_key_eq hsj' hsj (author_inj (hby'.symm.trans hby))
  rw [heq, hdue] at hdue'
  cases hdue'

end

/-- **When a schedule that is due really runs.** A schedule that is due and whose devices are there
runs exactly if its jobs have an author and it has a next run; and schedules that are not due get no
jobs. -/
theorem tick_runs_iff (cron : Cron) (cfg : Config) (env : Env) (db : Db)
    (hkeys : ∀ sj ∈ db.scheduledJobs.rows, (db.tenants.get? sj.tenantID).isSome)
    (hids : NewIDs env db) (sj : ScheduledJob) (hsj : sj ∈ db.scheduledJobs.rows) :
    (due env.now sj = true → (∀ d, Resolves db sj d → (db.devices.get? d).isSome) →
      (Ran env.now sj db (afterTick cron cfg env [] db) ↔ Runnable cron env.now db sj)) ∧
    (due env.now sj = false → jobsOf sj.id db (afterTick cron cfg env [] db) = []) := by
  refine ⟨fun hdue hdevices => ⟨fun hran => ?_, fun h => ?_⟩, jobsOf_eq_nil cron cfg env [] hsj⟩
  · obtain ⟨sj', hsj', t, ht, hlt⟩ := hran.next
    by_cases hready : sj.target ≠ none ∧ ∀ d, Resolves db sj d → Insertable db sj d
    · obtain ⟨htarget, hins⟩ := hready
      have hfired := (tick_fires cron cfg hids (mem_listDue.mpr ⟨hsj, hdue⟩) htarget hins).schedule
      refine ⟨htarget, fun d hd => ⟨(hins d hd).author, (hins d hd).retries⟩, ?_⟩
      obtain rfl := Option.some.inj (hsj'.symm.trans hfired)
      unfold advanced at ht
      rcases hparse : cron.parse sj.cronExpr with msg | next
      · simp only [hparse] at ht
        exact absurd hlt (not_lt.mpr (next_of_due hdue ht))
      · simp only [hparse, Option.some.injEq] at ht
        exact ⟨next, rfl, ht ▸ hlt⟩
    · -- all jobs of the schedule are refused, since they differ in the device only
      have hnone : ∀ d, Resolves db sj d → ¬ Insertable db sj d := by
        intro d hd hins
        refine hready ⟨?_, fun d' hd' => ⟨hins.tenant, hdevices d' hd', hins.author, hins.retries⟩⟩
        obtain ⟨target, htarget, -⟩ := hd
        exact htarget ▸ Option.some_ne_none target
      have hsome : ∀ target, sj.target = some target → ∃ d, Resolves db sj d := by
        intro target htarget
        by_contra hempty
        refine hready ⟨htarget ▸ Option.some_ne_none target, fun d hd => absurd ⟨d, hd⟩ hempty⟩
      have hstuck := tick_stuck cron cfg (mem_listDue.mpr ⟨hsj, hdue⟩) hsome hnone
      obtain rfl := Option.some.inj (hsj'.symm.trans hstuck)
      exact absurd hlt (not_lt.mpr (next_of_due hdue ht))
  · have hins : ∀ d, Resolves db sj d → Insertable db sj d := fun d hd =>
      ⟨hkeys sj hsj, hdevices d hd, (h.author d hd).1, (h.author d hd).2⟩
    have hfired := tick_fires cron cfg hids (mem_listDue.mpr ⟨hsj, hdue⟩) h.target hins
    obtain ⟨next, hparse, hlt⟩ := h.next
    refine ⟨hfired.toOneEach, _, hfired.schedule, next env.now, ?_, hlt⟩
    simp only [advanced, hparse]

namespace Sample

def tenant : TenantRow := { id := "t" }

def device (id : String) : DeviceRow := { id, tenantID := "t" }

def schedule : ScheduledJob where
  id := "s"
  tenantID := "t"
  name := "nightly"
  jobType := .exec
  payload := "run"
  target := some { deviceIDs := ["d"] }
  cronExpr := "* * * * *"
  retryPolicy := none
  enabled := true
  lastRunAt := none
  nextRunAt := some 0

def author : UserRow := { id := "scheduler:s", tenantID := "t" }

def authors : Table UserRow.id := ⟨[author], by decide⟩

def db (users : Table UserRow.id) : Db where
  tenants := ⟨[tenant], by decide⟩
  users := users
  devices := ⟨[device "d", device "e"], by decide⟩
  scheduledJobs := ⟨[schedule], by decide⟩

def cron : Cron := ⟨fun _ => .ok fun t => t + second⟩

def cfg : Config := ⟨60, 300, 3600⟩

/-- Every identifier is one character longer than the one before; the first ends in `n` of them. -/
def env (now : Time) (n : ℕ) : Env where
  clock _ := now
  rand _ i := String.ofList (replicate (n + i) 'x')

lemma newIDs (now : Time) (n : ℕ) (users : Table UserRow.id) : NewIDs (env now n) (db users) where
  fresh _ := rfl
  distinct i i' h := by
    have hrand := congrArg String.length ((String.append_right_inj _).mp h)
    simpa [env] using hrand

variable {users : Table UserRow.id}

lemma tenant_of_schedule :
    ∀ sj ∈ (db users).scheduledJobs.rows, ((db users).tenants.get? sj.tenantID).isSome := by
  intro sj hsj
  obtain rfl := mem_singleton.mp hsj
  rfl

lemma device_of_resolves {d : String} (h : Resolves (db users) schedule d) :
    ((db users).devices.get? d).isSome := by
  obtain ⟨target, ⟨⟩, hd | ⟨o, id, hid, -⟩⟩ := h
  · obtain rfl := mem_singleton.mp hd
    rfl
  · cases o <;> cases hid

end Sample

open Scheduler.Sample in
theorem tick_runs_sample : Ran (env 0 0).now schedule (db authors)
      (afterTick cron cfg (env 0 0) [] (db authors)) := by
  refine ((tick_runs_iff cron cfg (env 0 0) (db authors)
    tenant_of_schedule (newIDs 0 0 _) schedule mem_cons_self).1 rfl
    fun _ => device_of_resolves).mpr ⟨?_, fun _ _ => ⟨rfl, by decide⟩, ?_⟩
  · exact Option.some_ne_none _
  · exact ⟨fun t => t + second, rfl, by decide⟩

open Scheduler.Sample in
/-- Without its author the tick creates no job for the device and leaves the schedule where it is.
-/
theorem tick_skips_schedule : due (env 0 0).now schedule = true ∧
    Resolves (db .empty) schedule "d" ∧ ((db .empty).devices.get? "d").isSome ∧
    ¬ Ran (env 0 0).now schedule (db .empty)
      (afterTick cron cfg (env 0 0) [] (db .empty)) := by
  refine ⟨rfl, ⟨_, rfl, .inl mem_cons_self⟩, rfl, fun h => ?_⟩
  obtain ⟨j, ⟨hj, -⟩, -⟩ := h.one "d" ⟨_, rfl, .inl mem_cons_self⟩
  have hnone : (afterTick cron cfg (env 0 0) [] (db .empty)).jobs.rows = [] := rfl
  obtain ⟨hrow, -⟩ := mem_jobsOf.mp hj
  rw [hnone] at hrow
  cases hrow

end Moebius.Scheduler
