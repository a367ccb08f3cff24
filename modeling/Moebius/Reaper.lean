import Moebius.ServerSteps

/-!
The reaper misses no job.

Its two statements compare nullable timestamps with a cutoff, and a comparison with `NULL`
skips the row. They are complete because of an invariant of every run: a dispatched job carries
the time of its dispatch, an acknowledged job the time of its acknowledgement, and no job that
is still going has a start time, although agents may send one with the result.
-/

namespace Moebius

open Proc Scheduler JobUpdate Option

/-- The timestamps that go with a status. -/
structure Stamped (j : JobRow) : Prop where
  notRunning : j.status ≠ .running
  dispatched : j.status = .dispatched → j.dispatchedAt ≠ none
  acknowledged : j.status = .acknowledged → j.acknowledgedAt ≠ none
  notStarted : isTerminalStatus j.status = false → j.startedAt = none

lemma Fresh.stamped {j : JobRow} (h : Fresh j) : Stamped j := by
  refine ⟨?_, ?_, ?_, fun _ => h.startedAt⟩ <;> rw [h.status] <;> simp

lemma stamped_of_terminal {j : JobRow} (h : isTerminalStatus j.status = true) : Stamped j := by
  refine ⟨?_, ?_, ?_, fun hf => by rw [h] at hf; cases hf⟩
  all_goals
    intro hs
    rw [hs] at h
    cases h

lemma Move.stamped {reported : Option String} {j j' : JobRow} (h : Move reported j j')
    (hj : Stamped j) : Stamped j' := by
  have hstart : ∀ s, j.status = s → isTerminalStatus s = false → j.startedAt = none :=
    fun s hs ht => hj.notStarted (hs ▸ ht)
  cases h with
  | stay => exact hj
  | reportFailed => exact stamped_of_terminal rfl
  | requeue hs | hold hs | release hs => exact ⟨nofun, nofun, nofun, fun _ => hstart _ hs rfl⟩
  | dispatch _ hs => exact ⟨nofun, fun _ => nofun, nofun, fun _ => hstart _ hs rfl⟩
  | acknowledge _ hs => exact ⟨nofun, nofun, fun _ => nofun, fun _ => hstart _ hs rfl⟩
  | finish _ _ _ _ _ ht => rcases ht with rfl | rfl | rfl <;> exact stamped_of_terminal rfl
  | cancel | timeOut => exact stamped_of_terminal rfl

variable (t : Timeouts) (now : Time) (j : JobRow)

def PastCutoff : Prop :=
  j.status = .dispatched ∧ (∃ d, j.dispatchedAt = some d ∧ d < now - t.dispatchedTimeout) ∨
    j.status = .acknowledged ∧ ∃ a, j.acknowledgedAt = some a ∧ a < now - t.inflightTimeout

def reapRow : JobRow :=
  (reapInflight now (now - t.inflightTimeout)).onRow
    ((reapDispatched (now - t.dispatchedTimeout)).onRow j)

lemma sqlLt_eq_true {o : Option Time} {v : Time} : sqlLt o v = true ↔ ∃ t, o = some t ∧ t < v := by
  cases o <;> simp [sqlLt]

variable {t : Timeouts} {now : Time} {j : JobRow} {cutoff : Time} {db : Db}

lemma onRow_reapDispatched : (j.status = .dispatched ∧ (∃ d, j.dispatchedAt = some d ∧ d < cutoff) ∧
      (reapDispatched cutoff).onRow j =
        { j with status := .queued, dispatchedAt := none }) ∨
    (¬ (j.status = .dispatched ∧ ∃ d, j.dispatchedAt = some d ∧ d < cutoff) ∧
      (reapDispatched cutoff).onRow j = j) := by
  simp only [onRow, sqlLt_eq_true]
  split
  · rename_i h; exact .inl ⟨h.1, h.2, rfl⟩
  · rename_i h; exact .inr ⟨h, rfl⟩

lemma onRow_reapInflight (hj : Stamped j) :
    (j.status = .acknowledged ∧ (∃ a, j.acknowledgedAt = some a ∧ a < cutoff) ∧
      (reapInflight now cutoff).onRow j =
        { j with
          status := .timedOut, completedAt := some now
          lastError := some reaperError }) ∨
    (¬ (j.status = .acknowledged ∧ ∃ a, j.acknowledgedAt = some a ∧ a < cutoff) ∧
      (reapInflight now cutoff).onRow j = j) := by
  simp only [onRow, sqlLt_eq_true]
  split
  · rename_i h
    have hs : j.status = .acknowledged := h.1.resolve_right hj.notRunning
    have hn : j.startedAt = none := hj.notStarted (by rw [hs]; rfl)
    exact .inl ⟨hs, by simpa [hn] using h.2, rfl⟩
  · rename_i h
    refine .inr ⟨fun hc => h ⟨.inl hc.1, ?_⟩, rfl⟩
    have hn : j.startedAt = none := hj.notStarted (by rw [hc.1]; rfl)
    simpa [hn] using hc.2

lemma reapRow_stamped (hj : Stamped j) : Stamped (reapRow t now j) := by
  have h1 : Move none j ((reapDispatched (now - t.dispatchedTimeout)).onRow j) :=
    move_ite fun hc => .requeue hc.1
  have h2 : ∀ k, Move none k ((reapInflight now (now - t.inflightTimeout)).onRow k) :=
    fun k => move_ite fun hc => .timeOut _ _ hc.1
  exact (h2 _).stamped (h1.stamped hj)

lemma reapRow_eq_self (hj : Stamped j) (h : ¬ PastCutoff t now j) : reapRow t now j = j := by
  unfold reapRow
  rcases onRow_reapDispatched with ⟨hs, hd, -⟩ | ⟨-, he⟩
  · exact absurd (.inl ⟨hs, hd⟩) h
  rw [he]
  rcases onRow_reapInflight hj with ⟨hs, ha, -⟩ | ⟨-, he'⟩
  · exact absurd (.inr ⟨hs, ha⟩) h
  · exact he'

lemma not_pastCutoff_reapRow (hj : Stamped j) : ¬ PastCutoff t now (reapRow t now j) := by
  unfold reapRow
  rcases onRow_reapDispatched with ⟨hs, -, he⟩ | ⟨hd, he⟩
  · -- the job went back to the queue, where the second statement does not look
    have hq : Stamped { j with status := .queued, dispatchedAt := none } :=
      (Move.requeue hs : Move none j _).stamped hj
    rw [he]
    rcases onRow_reapInflight hq with ⟨hs', -⟩ | ⟨-, he'⟩
    · cases hs'
    · rw [he']
      rintro (⟨hs', -⟩ | ⟨hs', -⟩) <;> cases hs'
  · rw [he]
    rcases onRow_reapInflight hj with ⟨-, -, he'⟩ | ⟨ha, he'⟩
    · rw [he']
      rintro (⟨hs', -⟩ | ⟨hs', -⟩) <;> cases hs'
    · rw [he']
      exact not_or.mpr ⟨hd, ha⟩

/-! ### After a tick -/

/-- The database `db'` is `db` after the two statements of a tick at `now`. -/
structure Reaped (t : Timeouts) (now : Time) (db db' : Db) : Prop where
  dispatched : ∀ {id j}, db'.job? id = some j → j.status = .dispatched →
    ∃ d, j.dispatchedAt = some d ∧ now - t.dispatchedTimeout ≤ d
  acknowledged : ∀ {id j}, db'.job? id = some j → j.status = .acknowledged →
    ∃ a, j.acknowledgedAt = some a ∧ now - t.inflightTimeout ≤ a
  kept : ∀ {id j}, db.job? id = some j → ¬ PastCutoff t now j → db'.job? id = some j
  again : ((reapStuckJobs t now).run [] db').2 = db'

lemma job?_reapStuckJobs {id : String} :
    ((reapStuckJobs t now).run [] db).2.job? id = (db.job? id).map (reapRow t now) := by
  have hrun : ((reapStuckJobs t now).run [] db).2 =
      (db.updateJobs (.reapDispatched (now - t.dispatchedTimeout))).updateJobs
        (.reapInflight now (now - t.inflightTimeout)) := rfl
  rw [hrun, Db.job?_updateJobs, Db.job?_updateJobs, map_map]
  rfl

lemma reapStuckJobs_eq_self (h : ∀ id j, db.job? id = some j → Stamped j)
    (hpast : ∀ id j, db.job? id = some j → ¬ PastCutoff t now j) :
    ((reapStuckJobs t now).run [] db).2 = db := by
  have hrow : ∀ j ∈ db.jobs.rows, db.job? j.id = some j := fun j hj => Table.get?_of_mem hj
  have h1 : db.updateJobs (.reapDispatched (now - t.dispatchedTimeout)) = db := by
    have ht : db.jobs.update (reapDispatched (now - t.dispatchedTimeout)).onRow
        (onRow_id _) = db.jobs := by
      refine Table.update_eq_self fun j hj => ?_
      rcases onRow_reapDispatched with ⟨hs, hd, -⟩ | ⟨-, he⟩
      · exact absurd (.inl ⟨hs, hd⟩) (hpast _ j (hrow j hj))
      · exact he
    rw [Db.updateJobs, ht]
  have h2 : db.updateJobs (.reapInflight now (now - t.inflightTimeout)) = db := by
    have ht : db.jobs.update (reapInflight now (now - t.inflightTimeout)).onRow
        (onRow_id _) = db.jobs := by
      refine Table.update_eq_self fun j hj => ?_
      rcases onRow_reapInflight (h _ j (hrow j hj)) with
        ⟨hs, ha, -⟩ | ⟨-, he⟩
      · exact absurd (.inr ⟨hs, ha⟩) (hpast _ j (hrow j hj))
      · exact he
    rw [Db.updateJobs, ht]
  calc ((reapStuckJobs t now).run [] db).2
      = (db.updateJobs (.reapDispatched (now - t.dispatchedTimeout))).updateJobs
          (.reapInflight now (now - t.inflightTimeout)) := rfl
    _ = db := by rw [h1, h2]

lemma reaped_of_stamped (h : ∀ id j, db.job? id = some j → Stamped j) :
    Reaped t now db ((reapStuckJobs t now).run [] db).2 := by
  -- every row afterwards is a reaped row
  have hrow : ∀ {id j}, ((reapStuckJobs t now).run [] db).2.job? id = some j →
      Stamped j ∧ ¬ PastCutoff t now j := by
    intro id j hj
    rw [job?_reapStuckJobs] at hj
    obtain ⟨k, hk, rfl⟩ := map_eq_some_iff.mp hj
    exact ⟨reapRow_stamped (h id k hk), not_pastCutoff_reapRow (h id k hk)⟩
  refine ⟨fun {id j} hj hs => ?_, fun {id j} hj hs => ?_, fun {id j} hj hp => ?_,
    reapStuckJobs_eq_self (fun id j hj => (hrow hj).1) fun id j hj => (hrow hj).2⟩
  · obtain ⟨hst, hpast⟩ := hrow hj
    obtain ⟨d, hd⟩ := ne_none_iff_exists'.mp (hst.dispatched hs)
    exact ⟨d, hd, not_lt.mp fun hlt => hpast (.inl ⟨hs, d, hd, hlt⟩)⟩
  · obtain ⟨hst, hpast⟩ := hrow hj
    obtain ⟨a, ha⟩ := ne_none_iff_exists'.mp (hst.acknowledged hs)
    exact ⟨a, ha, not_lt.mp fun hlt => hpast (.inr ⟨hs, a, ha, hlt⟩)⟩
  · rw [job?_reapStuckJobs, hj, map_some, reapRow_eq_self (h id j hj) hp]

/-- **No job escapes the reaper.** After any run from a server without jobs, dispatched and
acknowledged jobs carry their timestamps, and a tick leaves none of them past its cutoff, touches
no other job, and has nothing left to do when it is repeated. -/
theorem reaper_complete (cfg : ServerConfig) (db : Db) (hdb : db.jobs = .empty)
    (calls : List Call) (now : Time) : (∀ id j, (runCalls cfg db calls).job? id = some j →
      (j.status = .dispatched → j.dispatchedAt ≠ none) ∧
        (j.status = .acknowledged → j.acknowledgedAt ≠ none ∧ j.startedAt = none)) ∧
      Reaped (timeouts cfg.scheduler) now (runCalls cfg db calls)
        ((reapStuckJobs (timeouts cfg.scheduler) now).run [] (runCalls cfg db calls)).2 := by
  have hst : ∀ id j, (runCalls cfg db calls).job? id = some j → Stamped j :=
    runCalls_all hdb (fun _ _ _ _ hm => hm.stamped) fun _ hf => hf.stamped
  refine ⟨fun id j hj => ⟨(hst id j hj).dispatched, fun hs => ?_⟩, reaped_of_stamped hst⟩
  exact ⟨(hst id j hj).acknowledged hs, (hst id j hj).notStarted (by rw [hs]; rfl)⟩

theorem acknowledged_job_reaped : Reaped (timeouts Sample.cfg.scheduler) (3700 * second)
      (runCalls Sample.cfg Sample.db (Sample.completedJob.take 3))
      ((reapStuckJobs (timeouts Sample.cfg.scheduler) (3700 * second)).run []
        (runCalls Sample.cfg Sample.db (Sample.completedJob.take 3))).2 ∧
    (((reapStuckJobs (timeouts Sample.cfg.scheduler) (3700 * second)).run []
      (runCalls Sample.cfg Sample.db (Sample.completedJob.take 3))).2.job? "job_j").map
        (·.status) = some .timedOut :=
  ⟨(reaper_complete Sample.cfg Sample.db rfl _ _).2, by decide⟩

end Moebius
