import Mathlib.Data.Int.Interval
import Moebius.DueSchedules
import Moebius.Occurrences
import Moebius.Runs

/-!
How often a schedule fires.

A schedule is a timer in the sense of `Occurrences`: a tick that finds it due creates its jobs and
then sets it to the next time its expression matches. The two are separate statements, and the
library answers with the zero time when it finds no match, so the timer may stay where it was
although there are jobs already, or be set to a time that is past.
-/

namespace Moebius.Scheduler

open Proc Occurrences Table Set

/-- What the library promises of an expression that matches at the times in `M`; `limit` takes a
time to five years after it. -/
structure Follows (next limit : Time → Time) (M : Set Time) : Prop where
  first : ∀ t, (∃ m ∈ M, t < m ∧ m ≤ limit t) → IsLeast {m | m ∈ M ∧ t < m} (next t)
  zero : ∀ t, (¬ ∃ m ∈ M, t < m ∧ m ≤ limit t) → next t = zeroTime

/-! ### Runs of ticks -/

/-- What happens to the schedule with this identifier: ticks, and between them anything else that
leaves its row alone. -/
inductive Beat (id : String)
  | tick (env : Env) (faults : List Bool)
  | outside (f : Db → Db) (same : ∀ db, (f db).scheduledJobs.get? id = db.scheduledJobs.get? id)

namespace Beat

variable {id : String} (cron : Cron) (cfg : Config)

def after (db : Db) : Beat id → Db
  | tick env faults => afterTick cron cfg env faults db
  | outside f _ => f db

def created (d : String) (db : Db) : Beat id → ℕ
  | tick env faults =>
    ((jobsOf id db (afterTick cron cfg env faults db)).filter fun j => j.deviceID = d).length
  | outside _ _ => 0

/-- How many jobs of the schedule a run creates for the device. -/
def total (cron : Cron) (cfg : Config) (d : String) : List (Beat id) → Db → ℕ
  | [], _ => 0
  | x :: xs, db => x.created cron cfg d db + total cron cfg d xs (x.after cron cfg db)

/-- The ticks come one after the other, none before `start` and none after `stop`. -/
def InSpan (stop : Time) : Time → List (Beat id) → Prop
  | _, [] => True
  | start, tick env _ :: xs => start ≤ env.now ∧ env.now ≤ stop ∧ InSpan stop env.now xs
  | start, outside _ _ :: xs => InSpan stop start xs

/-- If the schedule is due and a job of it can be inserted at all, then all of its jobs can, none of
the statements of the tick fails, and the expression matches within five years. -/
def Steady (limit : Time → Time) (M : Set Time) (db : Db) : Beat id → Prop
  | tick env faults => ∀ sj, db.scheduledJobs.get? id = some sj → due env.now sj = true →
      (∃ d, Resolves db sj d ∧ Insertable db sj d) →
        true ∉ faults ∧ (∀ d, Resolves db sj d → Insertable db sj d) ∧ NewIDs env db ∧
          ∃ m ∈ M, env.now < m ∧ m ≤ limit env.now
  | outside _ _ => True

end Beat

section

variable {cron : Cron} {cfg : Config} {env : Env} {faults : List Bool} {db : Db} {sj : ScheduledJob}
  {next limit : Time → Time} {M : Set Time} {d : String}

lemma row_afterTick (hsj : db.scheduledJobs.get? sj.id = some sj) :
    (afterTick cron cfg env faults db).scheduledJobs.get? sj.id = some sj ∨
      due env.now sj = true ∧ ∃ last run,
        (afterTick cron cfg env faults db).scheduledJobs.get? sj.id =
          some { sj with lastRunAt := last, nextRunAt := run } := by
  refine wp_invariant
    (I := fun a => a.scheduledJobs.get? sj.id = some sj ∨
      due env.now sj = true ∧ ∃ last run,
        a.scheduledJobs.get? sj.id = some { sj with lastRunAt := last, nextRunAt := run })
    (fun a b hstep ha => ?_) (wp_runTick cron cfg env db) (.inl hsj) faults
  cases hstep with
  | same | reap | reapTokens => exact ha
  | fire hdue htarget hd h =>
    obtain ⟨⟨jobs, -, rfl⟩, -⟩ := Db.insertJob_eq_some h
    exact ha
  | @mark sj' run hdue hparse =>
    by_cases hid : sj'.id = sj.id
    · obtain ⟨hmem, hdue⟩ := mem_listDue.mp hdue
      obtain rfl := eq_of_key_eq hmem (mem_of_get? hsj) hid
      rcases ha with ha | ⟨-, last, t, ha⟩
      · exact .inr ⟨hdue, _, _, get?_mark ha _ _⟩
      · refine .inr ⟨hdue, some env.now, some (run env.now), ?_⟩
        unfold Db.markScheduledJobRun
        rw [get?_update, ha]
        simp
    · have hbeside : Beside env sj.id 0 a (a.markScheduledJobRun sj'.id env.now (run env.now)) :=
        .mark hid
      rw [hbeside.schedule]
      exact ha

lemma OneEach.length_le_one {db' : Db} (h : OneEach sj db db') :
    ((jobsOf sj.id db db').filter fun j => j.deviceID = d).length ≤ 1 := by
  have hnodup : ((jobsOf sj.id db db').filter fun j => j.deviceID = d).Nodup :=
    ((db'.jobs.nodup.of_map _).filter _).filter _
  rw [← List.toFinset_card_of_nodup hnodup, Finset.card_le_one]
  intro j hj j' hj'
  rw [List.mem_toFinset, List.mem_filter] at hj hj'
  have hd : j.deviceID = d := of_decide_eq_true hj.2
  obtain ⟨j₀, -, huniq⟩ := h.one d (hd ▸ (h.each j hj.1).1)
  rw [huniq j ⟨hj.1, hd⟩, huniq j' ⟨hj'.1, of_decide_eq_true hj'.2⟩]

lemma pass_tick (hfollows : Follows next limit M) (hparse : cron.parse sj.cronExpr = .ok next)
    (hsj : db.scheduledJobs.get? sj.id = some sj)
    (hsteady : (Beat.tick env faults : Beat sj.id).Steady limit M db) :
    ∃ sj', (afterTick cron cfg env faults db).scheduledJobs.get? sj.id = some sj' ∧
      sj'.id = sj.id ∧ sj'.cronExpr = sj.cronExpr ∧ Pass M env.now sj.nextRunAt
        ((Beat.tick env faults : Beat sj.id).created cron cfg d db) sj'.nextRunAt := by
  have hmem : sj ∈ db.scheduledJobs.rows := mem_of_get? hsj
  rcases hdue : due env.now sj with _ | _
  · have hnone := jobsOf_eq_nil cron cfg env faults hmem hdue
    rcases row_afterTick hsj with hrow | ⟨hdue', -⟩
    · refine ⟨sj, hrow, rfl, rfl, ?_⟩
      simp only [Beat.created, hnone]
      exact .idle _
    · cases hdue.symm.trans hdue'
  obtain ⟨t, ht⟩ : ∃ t, sj.nextRunAt = some t := by
    rcases hnext : sj.nextRunAt with _ | t
    · simp [due, hnext] at hdue
    · exact ⟨t, rfl⟩
  have hle := next_of_due hdue ht
  rw [ht]
  by_cases hins : ∃ d, Resolves db sj d ∧ Insertable db sj d
  · obtain ⟨hclean, hall, hids, hmatch⟩ := hsteady sj hsj hdue hins
    have htarget : sj.target ≠ none := by
      obtain ⟨_, ⟨target, htarget, -⟩, -⟩ := hins
      exact htarget ▸ Option.some_ne_none target
    have hrun : afterTick cron cfg env faults db = afterTick cron cfg env [] db := by
      rw [afterTick, run_of_clean hclean]
      rfl
    have hfired := tick_fires cron cfg hids (mem_listDue.mpr ⟨hmem, hdue⟩) htarget hall
    obtain ⟨hM, hlt⟩ := (hfollows.first env.now hmatch).1
    refine ⟨advanced cron env.now sj, hrun ▸ hfired.schedule, ?_, ?_, ?_⟩
    · simp only [advanced, hparse]
    · simp only [advanced, hparse]
    · simp only [advanced, hparse, Beat.created, hrun]
      exact .act hle hfired.toOneEach.length_le_one hM hlt
  · have hnone : jobsOf sj.id db (afterTick cron cfg env faults db) = [] := by
      refine List.eq_nil_iff_forall_not_mem.mpr fun j hj => hins ⟨j.deviceID, ?_⟩
      obtain ⟨hrow, hnew, hby⟩ := mem_jobsOf.mp hj
      obtain ⟨sj', hdue', hby', hfired⟩ := fired_of_new cron cfg env faults db j hrow hnew
      obtain rfl := eq_of_key_eq (mem_listDue.mp hdue').1 hmem
        (author_inj (hby'.symm.trans hby))
      exact hfired
    simp only [Beat.created, hnone]
    rcases row_afterTick hsj with hrow | ⟨-, last, run, hrow⟩
    · exact ⟨sj, hrow, rfl, rfl, .skip hle⟩
    · exact ⟨_, hrow, rfl, rfl, .skip hle⟩

end

lemma passes_run {cron : Cron} {next limit : Time → Time} {M : Set Time} {cfg : Config}
    (hfollows : Follows next limit M) {id : String} {d : String} {start stop : Time}
    {beats : List (Beat id)} (hspan : Beat.InSpan stop start beats) {db : Db} {sj : ScheduledJob}
    (hsj : db.scheduledJobs.get? id = some sj) (hparse : cron.parse sj.cronExpr = .ok next)
    (hsteady : Along (Beat.after cron cfg) (Beat.Steady limit M) beats db) :
    Passes M stop start sj.nextRunAt (Beat.total cron cfg d beats db) := by
  induction beats generalizing start db sj with
  | nil => exact .nil
  | cons x beats ih =>
    obtain ⟨hx, hrest⟩ := hsteady
    obtain rfl : sj.id = id := key_of_get? hsj
    cases x with
    | tick env faults =>
      obtain ⟨hstart, hstop, hspan⟩ := hspan
      obtain ⟨sj', hsj', hid, hexpr, hpass⟩ := pass_tick hfollows hparse hsj hx
      exact .cons hstart hstop hpass (ih hspan hsj' (hexpr ▸ hparse) hrest)
    | outside f same =>
      have htail := ih hspan ((same db).trans hsj) hparse hrest
      have htotal : Beat.total cron cfg d (.outside f same :: beats) db =
          Beat.total cron cfg d beats (f db) := Nat.zero_add _
      rw [htotal]
      exact htail

/-- **A schedule fires at most once per occurrence.** Let the server accept the expression, which
matches at the times in `M`. In every run of ticks that meet the condition, the schedule creates at
most one more job for a device than there are matches in the span. -/
theorem fires_once_per_occurrence (cron : Cron) (cfg : Config) {next limit : Time → Time}
    {M : Set Time} (hfollows : Follows next limit M) (id d : String) (start stop : Time)
    (beats : List (Beat id)) (hspan : Beat.InSpan stop start beats) (db : Db) (sj : ScheduledJob)
    (hsj : db.scheduledJobs.get? id = some sj) (hparse : cron.parse sj.cronExpr = .ok next)
    (hsteady : Along (Beat.after cron cfg) (Beat.Steady limit M) beats db) :
    Beat.total cron cfg d beats db ≤ count M start stop + 1 :=
  (passes_run hfollows hspan hsj hparse hsteady).bounds.1

namespace Sample

def fiveYears (t : Time) : Time := t + 5 * 365 * 86400 * second

def always : Cron := ⟨fun _ => .ok fun t => t + 1⟩

lemma follows_always : Follows (fun t => t + 1) fiveYears univ where
  first t _ := ⟨⟨trivial, Int.lt_succ t⟩, fun _ hm => hm.2⟩
  zero t h := absurd ⟨t + 1, trivial, Int.lt_succ t, by simp [fiveYears, second]⟩ h

/-- An expression that is accepted and never matches, such as one for the 30th of February. -/
def never : Cron := ⟨fun _ => .ok fun _ => zeroTime⟩

lemma follows_never : Follows (fun _ => zeroTime) fiveYears ∅ where
  first _ h := by
    obtain ⟨_, hm, -⟩ := h
    cases hm
  zero _ _ := rfl

def tick (now : Time) (n : ℕ) (faults : List Bool) : Beat "s" := .tick (env now n) faults

def pair : ScheduledJob := { schedule with target := some { deviceIDs := ["d", "e"] } }

def pairDb : Db := { db authors with scheduledJobs := ⟨[pair], by decide⟩ }

/-- The second tick comes too early, and its first statement fails. -/
def twoTicks : List (Beat "s") := [tick 0 0 [], tick 0 9 [true]]

lemma steady_twoTicks :
    Along (Beat.after always cfg) (Beat.Steady fiveYears univ) twoTicks (db authors) := by
  refine ⟨?_, ?_, trivial⟩
  · rintro sj ⟨⟩ - -
    exact ⟨List.not_mem_nil, fun d hd => ⟨rfl, device_of_resolves hd, rfl, by decide⟩,
      newIDs 0 0 authors, 1, trivial, by decide, by decide⟩
  · rintro sj ⟨⟩ hdue
    cases hdue

end Sample

open Scheduler.Sample in
theorem fires_once_sample : Beat.total always cfg "d" twoTicks (db authors) = 1 ∧
    Beat.total always cfg "d" twoTicks (db authors) ≤ count (univ : Set Time) 0 0 + 1 :=
  ⟨by decide, fires_once_per_occurrence always cfg follows_always "s" "d" 0 0 twoTicks
    ⟨le_rfl, le_rfl, le_rfl, le_rfl, trivial⟩ (db authors) schedule rfl rfl steady_twoTicks⟩

open Scheduler.Sample in
/-- An expression that never matches fires at every tick; and a schedule fires twice for a device,
without a match in between, if the job of another device cannot be inserted. -/
theorem fires_too_often : Follows (fun _ => zeroTime) fiveYears ∅ ∧
    count (∅ : Set Time) 0 (60 * second) + 1 < Beat.total never cfg "d"
      [tick 0 0 [], tick (60 * second) 9 []] (db authors) ∧
    Follows (fun t => t + 1) fiveYears univ ∧
    count (univ : Set Time) 0 0 + 1 < Beat.total always cfg "d"
      [tick 0 0 [false, false, true], tick 0 9 [false, false, true]]
      pairDb := by
  have hnever : Beat.total never cfg "d"
      [tick 0 0 [], tick (60 * second) 9 []] (db authors) = 2 := by
    decide
  have htwice : Beat.total always cfg "d"
      [tick 0 0 [false, false, true], tick 0 9 [false, false, true]]
      pairDb = 2 := by
    decide
  have hempty : count (∅ : Set Time) 0 (60 * second) = 0 := by simp [count]
  have hself : count (univ : Set Time) 0 0 = 0 := by simp [count]
  rw [hnever, htwice, hempty, hself]
  exact ⟨follows_never, Nat.lt_succ_self 1, follows_always, Nat.lt_succ_self 1⟩

end Moebius.Scheduler
