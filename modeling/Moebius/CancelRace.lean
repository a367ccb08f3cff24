import Moebius.CancelledJob
import Moebius.Terminal

/-!
Cancellation against concurrent check-ins and acknowledgements.

A cancelled job can come back: a check-in that fetched it before, or an acknowledgement that
checked it before, writes it by identifier afterwards, and a report of a failed update overwrites
it. Where no such request is under way when a cancellation writes, and no check-in reports a
cancelled job, cancellation is final.
-/

namespace Moebius

open Proc Request Pool Resource Option

def holding (id : String) : Request × Stage Db (List JobRow) Answer → Bool
  | (r, .acting jobs _) => r.holds id jobs
  | _ => false

def reportsCancelled (who : AgentIdentity) (req : CheckinRequest) (db : Db) : Bool :=
  req.reported.any fun id => (db.job? id).any fun j =>
    decide (j.tenantID = who.tenantID) && decide (j.status = .cancelled)

/-- A cancellation past its check makes a step only when no check-in that has fetched the job and
no acknowledgement that has checked it is under way; and a check-in that has not fetched yet makes
a step only when it does not report a cancelled job. -/
def safe (s : Service) : Action Request → Bool
  | .spawn _ => true
  | .step i _ =>
    match s.threads[i]? with
    | some (.cancel _ _ jobID, .acting _ _) => s.threads.all fun t => !holding jobID t
    | some (.checkin _ who (some req), .checking _) => !reportsCancelled who req s.state
    | _ => true

/-- From `s` on, at `s'`: the job is cancelled, and every response that contains it and every
successful acknowledgement of it was there already. -/
structure CancelledFrom (id : String) (s s' : Service) : Prop where
  cancelled : HasStatus id .cancelled s'.state
  notUsed : ∀ (k : ℕ) r a, s'.threads[k]? = some (r, .finished a) → r.uses id a →
    s.threads[k]? = some (r, .finished a)

/-- Once a cancellation has answered with 204, its job stays cancelled. -/
def CancelFinal (db : Db) (acts : List (Action Request)) : Prop :=
  ∀ pre mid post, acts = pre ++ mid ++ post → ∀ (i : ℕ) env caller id,
    (Pool.run task ⟨db, []⟩ pre).threads[i]? =
      some (.cancel env caller id, .finished (.noBody (.ok 204 ()))) →
    CancelledFrom id (Pool.run task ⟨db, []⟩ pre)
      (Pool.run task ⟨db, []⟩ (pre ++ mid))

def Answer.Is2xx : Answer → Prop
  | .noBody r => r.Is2xx
  | _ => False

/-- What is known of a cancellation of the job `id`. There is a row, of tenant `t`, or there is
none, `t = none`; and `F` says that the job is cancelled for good. -/
def Tracked (id : String) (t : Option String) (F : Prop) :
    Request → Stage Db (List JobRow) Answer → Prop
  | .cancel env caller jobID, .checking p => jobID = id →
    (t = none → p = (cancel env caller jobID).task.check ∨
      p.Returns fun x => ∀ g, x ≠ .ok g) ∧
    p.Returns fun x => ∀ a, x = .error a → ¬ a.Is2xx
  | .cancel env caller jobID, .acting g p => jobID = id →
    t ≠ none ∧ (p = (cancel env caller jobID).task.act g ∨ F ∨
      p.Returns fun a => ¬ a.Is2xx)
  | .cancel _ _ jobID, .finished a => jobID = id → a.Is2xx → F
  | _, _ => True

variable {t : Option String} {id : String}

section

variable {F F' : Prop}

lemma Tracked.mono (hF : F → F') {r : Request} {st : Stage Db (List JobRow) Answer}
    (h : Tracked id t F r st) : Tracked id t F' r st := by
  rcases r with ⟨env, caller, jobID⟩ | _ | _
  · rcases st with p | ⟨g, p⟩ | a
    · exact h
    · exact fun hid => ⟨(h hid).1, (h hid).2.imp_right (Or.imp_left hF)⟩
    · exact fun hid h2 => hF (h hid h2)
  · trivial
  · trivial

variable (env : Env) (caller : Caller)

lemma tracked_settle {p : Proc Db (Except Answer (List JobRow))}
    (hp : Tracked id t F (.cancel env caller id) (.checking p)) :
    Tracked id t F (.cancel env caller id) ((cancel env caller id).task.settle p) := by
  rcases p with (a | g) | ⟨w, k, e⟩
  · exact hp
  · refine fun _ => ⟨fun ht => ?_, .inl rfl⟩
    rcases (hp rfl).1 ht with he | hr
    · exact check_ne_ok _ g he.symm
    · exact hr g rfl
  · exact hp

lemma tracked_start {r : Request} : Tracked id t F r r.task.start := by
  rcases r with ⟨env, caller, jobID⟩ | ⟨env, who, body⟩ | ⟨env, who, jobID⟩
  · by_cases hid : jobID = id
    · subst hid
      refine tracked_settle env caller fun _ => ⟨fun _ => .inl rfl, ?_⟩
      refine returns_bind (returns_mono (returns_cancelCheck env caller jobID) ?_)
      rintro (e | _) hx a ha <;> cases ha
      exact hx.not_is2xx
    · exact fun he => absurd he hid
  · generalize task _ = tk
    rcases tk.start with _ | _ | _ <;> trivial
  · generalize task _ = tk
    rcases tk.start with _ | _ | _ <;> trivial

lemma returns_of_absent {db : Db} (h : db.job? id = none) {w : Db → Db}
    {k : Db → Proc Db (Except Answer (List JobRow))} {e : Proc Db (Except Answer (List JobRow))}
    (hp : stmt w k e = (cancel env caller id).task.check) :
    ((k db).Returns fun x => ∀ g, x ≠ .ok g) ∧ e.Returns fun x => ∀ g, x ≠ .ok g := by
  cases hp
  refine ⟨?_, nofun⟩
  simp only [Jobs.tenantJob, h]
  exact nofun

lemma tracked_step {db : Db} (hrow : (db.job? id).map (·.tenantID) = t)
    {st : Stage Db (List JobRow) Answer} (h : Tracked id t F (.cancel env caller id) st)
    (hF : F → F') {fault : Bool}
    (hwrite : ∀ g, st = .acting g ((cancel env caller id).task.act g) →
      fault = false → F') : Tracked id t F' (.cancel env caller id)
      ((cancel env caller id).task.step fault db st).2 := by
  rcases st with ((a | g) | ⟨w, k, e⟩) | ⟨g, a | ⟨w, k, e⟩⟩ | a
  · exact fun _ h2 => absurd h2 ((h rfl).2 a rfl)
  · refine fun _ => ⟨fun ht => ?_, .inl rfl⟩
    rcases (h rfl).1 ht with he | hr
    · exact check_ne_ok _ g he.symm
    · exact hr g rfl
  · obtain ⟨habs, herr⟩ := h rfl
    have hnone : t = none → ((k db).Returns fun x => ∀ g, x ≠ .ok g) ∧
        e.Returns fun x => ∀ g, x ≠ .ok g := by
      intro ht
      rcases habs ht with he | hr
      · exact returns_of_absent env caller (map_eq_none_iff.mp (ht ▸ hrow)) he
      · exact ⟨hr.1 db, hr.2⟩
    cases fault
    · exact tracked_settle env caller fun _ => ⟨fun ht => .inr (hnone ht).1, herr.1 db⟩
    · exact tracked_settle env caller fun _ => ⟨fun ht => .inr (hnone ht).2, herr.2⟩
  · refine fun _ h2 => ?_
    rcases (h rfl).2 with he | hf | hr
    · cases he
    · exact hF hf
    · exact absurd h2 hr
  · obtain ⟨ht, hcase⟩ := h rfl
    cases fault
    · refine fun _ => ⟨ht, ?_⟩
      rcases hcase with he | hf | hr
      · exact .inr (.inl (hwrite g (congrArg (Stage.acting g) he) rfl))
      · exact .inr (.inl (hF hf))
      · exact .inr (.inr (hr.1 db))
    · refine fun _ => ⟨ht, ?_⟩
      rcases hcase with he | hf | hr
      · cases he
        exact .inr (.inr (by rintro ⟨-, h2⟩; revert h2; decide))
      · exact .inr (.inl (hF hf))
      · exact .inr (.inr hr.2)
  · exact fun _ h2 => hF (h rfl h2)

end

/-! ### Admissible runs -/

def Final (id : String) (s : Service) : Prop := ∃ tenantID, (cancelledJob id tenantID).Settled s

structure RaceInv (id : String) (t : Option String) (s : Service) : Prop where
  calm : ∀ tenantID, (cancelledJob id tenantID).AllCalm s
  rowCalm : (rowOf id t).AllCalm s
  row : (rowOf id t).Settled s
  tracked : ∀ th ∈ s.threads, Tracked id t (Final id s) th.1 th.2

section

variable {s : Service} {a : Action Request}

lemma leaves_of_safe {tenantID : String} (hsafe : safe s a = true)
    (h : (cancelledJob id tenantID).settled s.state) : (cancelledJob id tenantID).Leaves s a := by
  cases a with
  | spawn r => trivial
  | step i fault =>
    rintro ⟨r, st⟩ hi hun
    rcases st with p | _ | _
    · rcases r with _ | ⟨env, who, _ | req⟩ | _
      · exact hun
      · exact hun
      · obtain ⟨hrep, htenant⟩ := hun
        obtain ⟨j, hj, ht, hs⟩ := h
        simp [safe, hi, reportsCancelled, hrep, hj, ht, htenant, hs] at hsafe
      · exact hun
    · exact hun
    · exact hun

lemma final_after (hcalm : ∀ tenantID, (cancelledJob id tenantID).AllCalm s)
    (hsafe : safe s a = true) (h : Final id s) : Final id (s.after task a) ∧
      ∀ (k : ℕ) r b, (s.after task a).threads[k]? = some (r, .finished b) →
        r.uses id b → s.threads[k]? = some (r, .finished b) := by
  obtain ⟨tenantID, hs⟩ := h
  obtain ⟨h1, h2⟩ := settled_after observed_cancelledJob (hcalm tenantID) hs
    (leaves_of_safe hsafe hs.1)
  exact ⟨⟨tenantID, h1⟩, h2⟩

variable {i : ℕ} {g : List JobRow}

lemma not_holding_of_safe {fault : Bool} {env : Env} {caller : Caller} {p : Proc Db Answer}
    {tenantID : String} (hsafe : safe s (.step i fault) = true)
    (hi : s.threads[i]? = some (.cancel env caller id, .acting g p)) :
    ∀ th ∈ s.threads, ¬ (cancelledJob id tenantID).Holding th.1 th.2 := by
  simp only [safe, hi] at hsafe
  rintro ⟨r, st⟩ hth hh
  have hfree := List.all_eq_true.mp hsafe _ hth
  rcases st with _ | ⟨g', p'⟩ | _
  · exact hh
  · have hr : r.holds id g' = true := hh
    simp [holding, hr] at hfree
  · exact hh

lemma final_of_write {env : Env} {caller : Caller} (hsafe : safe s (.step i false) = true)
    (ht : (s.state.job? id).map (·.tenantID) ≠ none) (hi : s.threads[i]? =
      some (.cancel env caller id, .acting g ((cancel env caller id).task.act g))) :
    Final id (s.after task (.step i false)) := by
  obtain ⟨tenantID, hrow⟩ := ne_none_iff_exists'.mp ht
  obtain ⟨j, hj, hjt⟩ := map_eq_some_iff.mp hrow
  have hid : j.id = id := Table.key_of_get? hj
  refine ⟨tenantID, ?_, ?_⟩
  · simp only [after, hi]
    refine ⟨(JobUpdate.markCancelled id env.now).onRow j, ?_, by simpa using hjt, ?_⟩
    · exact (Db.job?_updateJobs _ s.state id).trans (by rw [hj]; rfl)
    · simp [JobUpdate.onRow, hid]
  · simp only [after, hi]
    intro th hth
    rcases List.mem_or_eq_of_mem_set hth with hth | rfl
    · exact not_holding_of_safe hsafe hi th hth
    · exact Bool.false_ne_true

lemma tracked_of_other {F : Prop} {r : Request} (h : ∀ env caller, r ≠ .cancel env caller id)
    {st : Stage Db (List JobRow) Answer} : Tracked id t F r st := by
  rcases r with ⟨env, caller, jobID⟩ | _ | _
  · have hne : jobID ≠ id := fun he => h env caller (he ▸ rfl)
    rcases st with _ | _ | _ <;> exact fun he => absurd he hne
  · rcases st with _ | _ | _ <;> trivial
  · rcases st with _ | _ | _ <;> trivial

lemma raceInv_after (hsafe : safe s a = true) (h : RaceInv id t s) :
    RaceInv id t (s.after task a) := by
  have hfinal : Final id s → Final id (s.after task a) := fun hf => (final_after h.calm hsafe hf).1
  refine ⟨fun T => allCalm_after observed_cancelledJob (h.calm T) a,
    allCalm_after (observed_rowOf id t) h.rowCalm a, ?_, ?_⟩
  · refine (settled_after (observed_rowOf id t) h.rowCalm h.row ?_).1
    cases a with
    | spawn r => trivial
    | step i fault => rintro ⟨r, _ | _ | _⟩ _ <;> exact fun hu => hu
  · intro th hth
    cases threadAfter_of_mem task hth with
    | old hth => exact (h.tracked th hth).mono hfinal
    | started r => exact tracked_start
    | @stepped i fault r st hi =>
      by_cases hr : ∃ env caller, r = .cancel env caller id
      · obtain ⟨env, caller, rfl⟩ := hr
        have htr := h.tracked _ (List.mem_of_getElem? hi)
        refine tracked_step env caller h.row.1 htr hfinal fun g hst hf => ?_
        subst hst hf
        have hrow : (s.state.job? id).map (·.tenantID) = t := h.row.1
        exact final_of_write hsafe (hrow ▸ (htr rfl).1) hi
      · exact tracked_of_other (fun env caller he => hr ⟨env, caller, he⟩)

lemma raceInv_start (db : Db) (id : String) :
    RaceInv id ((db.job? id).map (·.tenantID)) ⟨db, []⟩ where
  calm _ _ hth := absurd hth List.not_mem_nil
  rowCalm _ hth := absurd hth List.not_mem_nil
  row := ⟨rfl, fun _ hth => absurd hth List.not_mem_nil⟩
  tracked _ hth := absurd hth List.not_mem_nil

lemma cancelledFrom_run {acts : List (Action Request)} (h : RaceInv id t s) (hf : Final id s)
    (hacts : Admissible task (fun s a => safe s a = true) s acts) :
    CancelledFrom id s (s.run task acts) := by
  have hend := hacts.invariant
    (I := fun s' => RaceInv id t s' ∧ Final id s' ∧
      ∀ (k : ℕ) r b, s'.threads[k]? = some (r, .finished b) → r.uses id b →
        s.threads[k]? = some (r, .finished b))
    (fun s' a hsafe ⟨hinv, hfin, huse⟩ => by
      obtain ⟨hfin', huse'⟩ := final_after hinv.calm hsafe hfin
      exact ⟨raceInv_after hsafe hinv, hfin', fun k r b hk hu => huse k r b (huse' k r b hk hu) hu⟩)
    ⟨h, hf, fun _ _ _ hk _ => hk⟩
  obtain ⟨-, ⟨tenantID, ⟨j, hj, -, hs⟩, -⟩, huse⟩ := hend
  exact ⟨⟨j, hj, hs⟩, huse⟩

end

/-- **Cancellation is final in every run all of whose steps are safe.** -/
theorem cancelFinal_of_safe (db : Db) (acts : List (Action Request))
    (hsafe : Admissible task (fun s a => safe s a = true) ⟨db, []⟩ acts) :
    CancelFinal db acts := by
  intro pre mid post hacts i env caller id hi
  rw [hacts, List.append_assoc, Admissible, Along.append, Along.append] at hsafe
  obtain ⟨hpre, hmid, -⟩ := hsafe
  have hinv := hpre.invariant (fun s a => raceInv_after) (raceInv_start db id)
  have hfinal : Final id (Pool.run task ⟨db, []⟩ pre) :=
    hinv.tracked _ (List.mem_of_getElem? hi) rfl ⟨by decide, by decide⟩
  rw [run_append]
  exact cancelledFrom_run hinv hfinal hmid

namespace Sample

def queuedDb : Db := runCalls cfg db (completedJob.take 1)

def cancelJob : Action Request := .spawn (.cancel (env 3 "l") caller "job_j")

def checkinDevice : Action Request :=
  .spawn (.checkin (env 2 "k") ⟨"d", "t"⟩ (some { status := {} }))

def steps (i n : ℕ) : List (Action Request) := List.replicate n (.step i false)

/-- The check-in has begun when the cancellation comes in, but it has not fetched its jobs. -/
def early : List (Action Request) := [checkinDevice] ++ steps 0 1 ++ [cancelJob] ++ steps 1 4

def late : List (Action Request) := [checkinDevice] ++ steps 0 3 ++ [cancelJob] ++ steps 1 4

end Sample

open Sample in
theorem early_checkin_cancelFinal : Admissible task (fun s a => safe s a = true) ⟨queuedDb, []⟩
      (early ++ steps 0 3) ∧
    CancelledFrom "job_j" (Pool.run task ⟨queuedDb, []⟩ early)
      (Pool.run task ⟨queuedDb, []⟩ (early ++ steps 0 3)) := by
  have hsafe : Admissible task (fun s a => safe s a = true) ⟨queuedDb, []⟩
      (early ++ steps 0 3) := by decide
  exact ⟨hsafe, cancelFinal_of_safe _ _ hsafe early (steps 0 3) []
    (List.append_nil _).symm 1 _ _ _ rfl⟩

open Sample in
/-- The check-in marks the cancelled job as dispatched and hands it out. -/
theorem late_checkin_not_cancelFinal : ¬ CancelFinal queuedDb (late ++ steps 0 2) := by
  intro h
  obtain ⟨⟨j, hj, hs⟩, -⟩ := h late (steps 0 2) [] (List.append_nil _).symm 1 _ _ "job_j" rfl
  have hafter : ((Pool.run task ⟨queuedDb, []⟩
      (late ++ steps 0 2)).state.job? "job_j").map (·.status) = some .dispatched := by
    decide
  rw [hj, map_some, hs] at hafter
  cases hafter

end Moebius
