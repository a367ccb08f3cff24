import Moebius.Concurrent

/-!
What the revocation of a device does to the jobs.

The transaction cancels the jobs of the device by one update with a list of statuses of its own.
It is compared with `IsCancellable` and with the fields that `Cancel` sets.
-/

namespace Moebius

open Proc JobUpdate Option Jobs

/-- A `Cancel` that is answered with 204 would leave the job as `j'`. -/
def CancelLeaves (db : Db) (id : String) (j' : JobRow) : Prop :=
  ∃ (env : Env) (caller : Caller) (fs : List Bool) (db' : Db),
    (cancel env caller id).run fs db = (.ok 204 (), db') ∧ db'.job? id = some j'

lemma wp_cancel_row (env : Env) (caller : Caller) (jobID : String) (db : Db) :
    (cancel env caller jobID).wp (fun _ _ => True) (fun r db' => r = .ok 204 () →
        db'.job? jobID = (db.job? jobID).map (markCancelled jobID env.now).onRow) db := by
  simp only [cancel, bind_eq, wp_bind]
  refine wp_mono (fun _ _ _ => trivial) (fun r db' hr => ?_)
    (wp_of_returns (wp_cancelCheck env caller jobID db) (returns_cancelCheck env caller jobID))
  obtain ⟨⟨rfl, -⟩, hrefuses⟩ := hr
  rcases r with r | _
  · rintro rfl
    obtain ⟨n, code, msg, h, -⟩ := hrefuses _ rfl
    cases h
  · simp only [cancelWrite, bind_eq, wp_bind, wp_exec, if_true]
    refine ⟨⟨trivial, wp_logAction fun _ _ => ?_⟩, fun h => by cases h⟩
    exact Db.job?_updateJobs _ _ _

lemma run_cancel {db : Db} {id : String} {j : JobRow} (hj : db.job? id = some j)
    (hc : isCancellable j.status = true) {env : Env} {caller : Caller} (hadmin : caller.isAdmin)
    (htenant : caller.tenantID = j.tenantID) :
    ((cancel env caller id).run [] db).1 = .ok 204 () := by
  have hrow : tenantJob caller.tenantID id db = some j := by
    rw [tenantJob, hj, filter_some, if_pos (decide_eq_true htenant.symm)]
  have hcheck : (cancelCheck env caller id).run [] db = (.ok (), db) := by
    simp [cancelCheck, run_nil_bind, hrow, outOfScope, hadmin, hc]
  simp [cancel, run_nil_bind, hcheck, cancelWrite]

lemma cancelLeaves_iff {db : Db} {id : String} {j j' : JobRow} (hj : db.job? id = some j)
    (hc : isCancellable j.status = true) :
    CancelLeaves db id j' ↔
      ∃ now, j' = { j with status := .cancelled, completedAt := some now } := by
  have hrow (now : Time) : (markCancelled id now).onRow j =
      { j with status := .cancelled, completedAt := some now } := if_pos (Table.key_of_get? hj)
  constructor
  · rintro ⟨env, caller, fs, db', hrun, hj'⟩
    have hwp := wp_run (wp_cancel_row env caller id db) fs
    rw [hrun] at hwp
    have hleft := hwp rfl
    rw [hj', hj, map_some, hrow] at hleft
    exact ⟨env.now, some.inj hleft⟩
  · rintro ⟨now, rfl⟩
    let caller : Caller :=
      { tenantID := j.tenantID, userID := "", isAdmin := true, scope := none }
    have hok : ((cancel (.plain now "") caller id).run [] db).1 = .ok 204 () :=
      run_cancel hj hc rfl rfl
    have hleft := wp_run (wp_cancel_row (.plain now "") caller id db) [] hok
    refine ⟨.plain now "", caller, [], _, Prod.ext hok rfl, ?_⟩
    rw [hleft, hj, map_some]
    exact congrArg some (hrow now)

/-! ### What a revocation leaves -/

/-- No job of the device is left that can be cancelled, those that were cancelled are left as
`Cancel` would leave them, and no other job is touched. -/
structure CancelsAll (deviceID : String) (db db' : Db) : Prop where
  none_left : ∀ j ∈ db'.jobs.rows, j.deviceID = deviceID → isCancellable j.status = false
  like_cancel : ∀ (id : String) (j j' : JobRow), db.job? id = some j → db'.job? id = some j' →
    j.status ≠ .cancelled → j'.status = .cancelled → CancelLeaves db id j'
  others : ∀ id : String,
    (∀ j, db.job? id = some j → j.deviceID = deviceID → isCancellable j.status = false) →
      db'.job? id = db.job? id

section

variable {db db' : Db} {now : Time} {tenantID deviceID reason : String}

lemma jobs_revokeDevice (h : db.revokeDevice now tenantID deviceID reason = some db') :
    db'.jobs = (db.updateJobs (.cancelDevice deviceID tenantID)).jobs := by
  obtain ⟨-, rfl⟩ := Db.revokeDevice_eq_some h
  rfl

lemma job?_revokeDevice (h : db.revokeDevice now tenantID deviceID reason = some db')
    {id : String} :
    db'.job? id = (db.job? id).map (cancelDevice deviceID tenantID).onRow := by
  rw [← Db.job?_updateJobs, Db.job?, jobs_revokeDevice h, Db.job?]

lemma mem_revokeDevice (h : db.revokeDevice now tenantID deviceID reason = some db') {j' : JobRow} :
    j' ∈ db'.jobs.rows ↔
      ∃ j ∈ db.jobs.rows, (cancelDevice deviceID tenantID).onRow j = j' := by
  rw [jobs_revokeDevice h]
  exact List.mem_map

lemma cancelDevice_of_open {j : JobRow} (hd : j.deviceID = deviceID) (ht : j.tenantID = tenantID)
    (hc : isCancellable j.status = true) (hheld : j.status ≠ .cdmHold) :
    (cancelDevice deviceID tenantID).onRow j = { j with status := .cancelled } := by
  have hmem : j.status ∈ cancellableStatuses := of_decide_eq_true hc
  exact if_pos ⟨hd, ht, by simpa [cancellableStatuses, hheld] using hmem⟩

lemma cancelDevice_cases {j : JobRow} : (cancelDevice deviceID tenantID).onRow j = j ∨
      j.deviceID = deviceID ∧ j.tenantID = tenantID ∧ isCancellable j.status = true ∧
        j.status ≠ .cdmHold ∧
        (cancelDevice deviceID tenantID).onRow j = { j with status := .cancelled } := by
  by_cases hc : j.deviceID = deviceID ∧ j.tenantID = tenantID ∧
      (j.status = .pending ∨ j.status = .queued ∨ j.status = .dispatched)
  · refine .inr ⟨hc.1, hc.2.1, ?_, ?_, if_pos hc⟩
    · rcases hc.2.2 with hs | hs | hs <;> rw [hs] <;> rfl
    · rcases hc.2.2 with hs | hs | hs <;> rw [hs] <;> decide
  · exact .inl (if_neg hc)

lemma others_revokeDevice (h : db.revokeDevice now tenantID deviceID reason = some db')
    {id : String}
    (hid : ∀ j, db.job? id = some j → j.deviceID = deviceID → isCancellable j.status = false) :
    db'.job? id = db.job? id := by
  rw [job?_revokeDevice h]
  rcases hj : db.job? id with _ | j
  · rfl
  · rcases cancelDevice_cases with hsame | ⟨hd, -, hc, -⟩
    · rw [map_some, hsame]
    · rw [hid j hj hd] at hc
      cases hc

/-- **What a revocation cancels.** It cancels everything cancellable, as `Cancel` does, exactly if
every cancellable job of the device is of the tenant, is not held and has a time of completion
already. Whatever the database, no other job is touched. -/
theorem revocation_cancels_all_iff (now : Time) (tenantID deviceID reason : String) (db db' : Db)
    (h : db.revokeDevice now tenantID deviceID reason = some db') : (CancelsAll deviceID db db' ↔
      ∀ j ∈ db.jobs.rows, j.deviceID = deviceID → isCancellable j.status = true →
        j.tenantID = tenantID ∧ j.status ≠ .cdmHold ∧ j.completedAt.isSome) ∧ ∀ id : String,
        (∀ j, db.job? id = some j → j.deviceID = deviceID → isCancellable j.status = false) →
          db'.job? id = db.job? id := by
  refine ⟨⟨fun hall j hj hd hc => ?_, fun hopen => ⟨?_, ?_, ?_⟩⟩, fun id => others_revokeDevice h⟩
  · have hrow : db.job? j.id = some j := Table.get?_of_mem hj
    rcases cancelDevice_cases with hsame | ⟨-, ht, -, hheld, hset⟩
    -- the job is still there and cancellable
    · have hleft := hall.none_left j ((mem_revokeDevice h).mpr ⟨j, hj, hsame⟩) hd
      cases hc.symm.trans hleft
    -- its time of completion is what it was before
    · have hrow' : db'.job? j.id = some { j with status := .cancelled } := by
        rw [job?_revokeDevice h, hrow, map_some, hset]
      have hne : j.status ≠ .cancelled := fun hs => by rw [hs] at hc; cases hc
      obtain ⟨t, htime⟩ := (cancelLeaves_iff hrow hc).mp (hall.like_cancel _ _ _ hrow hrow' hne rfl)
      have htime : j.completedAt = some t := congrArg JobRow.completedAt htime
      exact ⟨ht, hheld, by rw [htime]; rfl⟩
  · intro j' hj' hd
    obtain ⟨j, hj, rfl⟩ := (mem_revokeDevice h).mp hj'
    rcases cancelDevice_cases with hsame | ⟨-, -, -, -, hset⟩
    · rw [hsame] at hd ⊢
      by_contra hc
      rw [Bool.not_eq_false] at hc
      obtain ⟨ht, hheld, -⟩ := hopen j hj hd hc
      rw [cancelDevice_of_open hd ht hc hheld] at hsame
      rw [← hsame] at hc
      cases hc
    · rw [hset]
      rfl
  · intro id j j' hj hj' hne hs
    rw [job?_revokeDevice h, hj, map_some, some.injEq] at hj'
    subst hj'
    rcases cancelDevice_cases with hsame | ⟨hd, -, hc, -, hset⟩
    · rw [hsame] at hs
      exact absurd hs hne
    · obtain ⟨-, -, htime⟩ := hopen j (Table.mem_of_get? hj) hd hc
      obtain ⟨t, ht⟩ := isSome_iff_exists.mp htime
      rw [hset]
      exact (cancelLeaves_iff hj hc).mpr ⟨t, by rw [← ht]⟩
  · exact fun id => others_revokeDevice h

end

namespace Sample

def jobOf (id device : String) (status : JobStatus) (completedAt : Option Time := none) : JobRow :=
  { id, tenantID := "t", deviceID := device, type := .exec, status, payload := "run", completedAt
    createdAt := 0 }

def twoJobs (status : JobStatus) (completedAt : Option Time := none) : Db :=
  { db with
    jobs := ⟨[jobOf "j" "d" status completedAt, jobOf "k" "e" .queued],
      (by decide : ["j", "k"].Nodup)⟩ }

def afterRevocation (status : JobStatus) (completedAt : Option Time := none) : Db :=
  ((twoJobs status completedAt).revokeDevice 5 "t" "d" "lost").getD (twoJobs status completedAt)

end Sample

open Sample

/-- The queued job already has a time of completion. -/
theorem stamped_job_revocation_cancels :
    (twoJobs .queued (some 3)).revokeDevice 5 "t" "d" "lost" =
        some (afterRevocation .queued (some 3)) ∧
      (afterRevocation .queued (some 3)).job? "j" = some (jobOf "j" "d" .cancelled (some 3)) ∧
      CancelsAll "d" (twoJobs .queued (some 3)) (afterRevocation .queued (some 3)) := by
  refine ⟨rfl, rfl, (revocation_cancels_all_iff 5 "t" "d" "lost" _ _ rfl).1.mpr ?_⟩
  decide

/-- A held job of a revoked device stays held; a queued one is cancelled without a time of
completion. -/
theorem revocation_leaves_held_job :
    (twoJobs .cdmHold).revokeDevice 5 "t" "d" "lost" = some (afterRevocation .cdmHold) ∧
      (afterRevocation .cdmHold).job? "j" = some (jobOf "j" "d" .cdmHold) ∧
      ¬ CancelsAll "d" (twoJobs .cdmHold) (afterRevocation .cdmHold) ∧
    (twoJobs .queued).revokeDevice 5 "t" "d" "lost" = some (afterRevocation .queued) ∧
      (afterRevocation .queued).job? "j" = some (jobOf "j" "d" .cancelled) ∧
      ¬ CancelsAll "d" (twoJobs .queued) (afterRevocation .queued) := by
  refine ⟨rfl, rfl, fun h => ?_, rfl, rfl, fun h => ?_⟩
  · have hleft := h.none_left (jobOf "j" "d" .cdmHold) (List.mem_cons_self ..) rfl
    cases hleft
  · have hleaves := h.like_cancel "j" (jobOf "j" "d" .queued) (jobOf "j" "d" .cancelled) rfl rfl
      (by decide) rfl
    obtain ⟨now, hrow⟩ := (cancelLeaves_iff rfl rfl).mp hleaves
    cases congrArg JobRow.completedAt hrow

end Moebius
