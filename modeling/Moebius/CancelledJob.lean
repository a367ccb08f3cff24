import Moebius.Concurrent
import Moebius.Resource

/-!
A cancelled job as a resource of the requests that are being served.

A check-in that has fetched the job and an acknowledgement that has checked it hold it. While it
is cancelled and nobody holds it, every statement of every request keeps it cancelled, apart from
the report of a failed update, and no check comes to hold it.
-/

namespace Moebius

open Proc Request

abbrev Service := Pool Request Db (List JobRow) Answer

namespace Request

/-- Past its check, the request is going to write the job `id` or to hand it out. -/
def holds (id : String) : Request → List JobRow → Bool
  | cancel _ _ _, _ => false
  | checkin _ _ _, jobs => jobs.any fun j => j.id = id
  | acknowledge _ _ jobID, _ => jobID = id

def uses (id : String) : Request → Answer → Prop
  | checkin _ _ _, .checkin (.ok _ resp) => ∃ d ∈ resp.jobs, d.jobID = id
  | acknowledge _ _ jobID, .noBody r => jobID = id ∧ r.Is2xx
  | _, _ => False

def reports (id tenantID : String) : Request → Prop
  | checkin _ who (some req) => req.reported = some id ∧ who.tenantID = tenantID
  | _ => False

end Request

/-- The row of the job, which no request inserts, removes or moves to another tenant. -/
def rowOf (id : String) (t : Option String) : Resource Request Db (List JobRow) Answer where
  settled db := (db.job? id).map (·.tenantID) = t
  holds _ _ := False
  unsettles _ := False
  uses _ _ := False

def cancelledJob (id tenantID : String) : Resource Request Db (List JobRow) Answer where
  settled db := ∃ j, db.job? id = some j ∧ j.tenantID = tenantID ∧ j.status = .cancelled
  holds r jobs := r.holds id jobs = true
  unsettles := reports id tenantID
  uses := uses id

lemma check_ne_ok (r : Request) (g : List JobRow) : r.task.check ≠ done (.ok g) := by
  cases r with
  | cancel | acknowledge => intro h; cases h
  | checkin env who body =>
    simp only [task, Checkin.fetch]
    split
    · intro h; cases h
    · rcases body with _ | req
      · intro h; cases h
      · intro h; cases h

variable {R : Db → Db → Prop}

lemma each_task (hsame : ∀ a b : Db, b.jobs = a.jobs → R a b) (r : Request)
    (h : ∀ env who req, r = .checkin env who (some req) → ∀ u, FetchUpdate who req u →
      ∀ db : Db, R db (db.updateJobs u)) : r.task.check.Each R := by
  have hrefl : ∀ db, R db db := fun db => hsame db db rfl
  cases r with
  | cancel env caller jobID =>
    refine each_bind (each_of_readOnly (readOnly_cancelCheck env caller jobID) hrefl) fun x => ?_
    rcases x with _ | _ <;> trivial
  | acknowledge env who jobID =>
    refine each_bind (each_of_readOnly (readOnly_acknowledgeCheck who jobID) hrefl) fun x => ?_
    rcases x with _ | _ <;> trivial
  | checkin env who body =>
    refine each_bind (each_fetch hsame env who body fun req hreq u hu _ => ?_) fun x => ?_
    · cases hreq
      exact h env who req rfl u hu
    · rcases x with _ | _ <;> trivial

lemma each_act (hsame : ∀ a b : Db, b.jobs = a.jobs → R a b) (r : Request) (g : List JobRow)
    (hc : ∀ env caller id, r = .cancel env caller id →
      ∀ db : Db, R db (db.updateJobs (.markCancelled id env.now)))
    (ha : ∀ env who id, r = .acknowledge env who id →
      ∀ db : Db, R db (db.updateJobs (.markAcknowledged id env.now)))
    (hd : ∀ env who body, r = .checkin env who body → ∀ j ∈ g,
      ∀ db : Db, R db (db.updateJobs (.markDispatched j.id env.now))) : (r.task.act g).Each R := by
  have hlog : ∀ (db : Db) log, R db { db with auditLog := log } := fun _ _ => hsame _ _ rfl
  cases r with
  | cancel => exact each_bind (each_cancelWrite hlog (hc _ _ _ rfl)) fun _ => trivial
  | acknowledge => exact each_bind (each_acknowledgeWrite hlog (ha _ _ _ rfl)) fun _ => trivial
  | checkin => exact each_bind (each_respond (hd _ _ _ rfl)) fun _ => trivial

lemma observed_rowOf (id : String) (t : Option String) : (rowOf id t).Observed task := by
  have hsame : ∀ a b : Db, b.jobs = a.jobs → (rowOf id t).Keeps a b := by
    intro a b hj (h : (a.job? id).map _ = t)
    have hb : b.job? id = a.job? id := by rw [Db.job?, Db.job?, hj]
    change (b.job? id).map _ = t
    rw [hb]
    exact h
  have hu : ∀ (u : JobUpdate) (db : Db), (rowOf id t).Keeps db (db.updateJobs u) := by
    intro u db h
    simpa [rowOf, Function.comp_def] using h
  exact
    { waits := check_ne_ok
      check_keeps := fun r _ => each_task hsame r fun _ _ _ _ u _ => hu u
      check_clear := fun r _ => answers_of_forall (fun _ _ _ h => h) _
      check_unused := fun r => returns_of_forall (fun _ _ _ h => h) _
      act_keeps := fun r g _ => each_act hsame r g (fun _ _ _ _ => hu _) (fun _ _ _ _ => hu _)
        fun _ _ _ _ _ _ => hu _
      act_unused := fun r g _ => returns_of_forall (fun _ h => h) _ }

section

variable {id tenantID : String}

lemma keeps_of_jobs_eq (a b : Db) (hj : b.jobs = a.jobs) :
    (cancelledJob id tenantID).Keeps a b := by
  rintro ⟨j, h, hj'⟩
  exact ⟨j, by rw [Db.job?, hj]; exact h, hj'⟩

lemma keeps_updateJobs {u : JobUpdate}
    (h : ∀ j : JobRow, j.id = id → j.tenantID = tenantID → j.status = .cancelled →
      (u.onRow j).status = .cancelled) (db : Db) :
    (cancelledJob id tenantID).Keeps db (db.updateJobs u) := by
  rintro ⟨j, hj, ht, hs⟩
  refine ⟨u.onRow j, by rw [Db.job?_updateJobs, hj]; rfl, by simpa using ht, ?_⟩
  exact h j (Table.key_of_get? hj) ht hs

lemma status_ite_of_not {c : Prop} [Decidable c] {j j' : JobRow} (hc : ¬ c)
    (hs : j.status = .cancelled) : (if c then j' else j).status = .cancelled := by
  rwa [if_neg hc]

lemma keeps_fetchUpdate (env : Env) {who : AgentIdentity} {req : CheckinRequest}
    (hr : ¬ (checkin env who (some req)).reports id tenantID) {u : JobUpdate}
    (hu : FetchUpdate who req u) (db : Db) :
    (cancelledJob id tenantID).Keeps db (db.updateJobs u) := by
  refine keeps_updateJobs (fun j hid ht hs => ?_) db
  cases hu with
  | reportFailed hrep =>
    refine status_ite_of_not (fun hc => hr ⟨?_, ?_⟩) hs
    · rw [← hid, hc.1]
      exact if_pos (AgentStatus.reported_ne_none.mp hrep)
    · rw [← ht, hc.2.1]
  | requeueStale => exact status_ite_of_not (fun hc => by rw [hs] at hc; cases hc.2.2.1) hs
  | holdQueued
  | releaseHeld => exact status_ite_of_not (fun hc => by rw [hs] at hc; cases hc.2.2) hs

lemma status_of_settled {db : Db} (h : (cancelledJob id tenantID).settled db) {j : JobRow}
    (hj : db.job? id = some j) : j.status = .cancelled := by
  obtain ⟨k, hk, -, hs⟩ := h
  cases hj.symm.trans hk
  exact hs

lemma check_clear_cancelledJob (r : Request) :
    r.task.check.Answers (cancelledJob id tenantID).settled
      fun x => ∀ g, x = .ok g → ¬ r.holds id g = true := by
  cases r with
  | cancel => exact answers_of_forall (fun _ _ _ => Bool.false_ne_true) _
  | checkin env who body =>
    have hf :
        (Checkin.fetch env who body).Answers (cancelledJob id tenantID).settled (Without id) :=
      answers_fetch env who body fun db hI j hj => by rw [status_of_settled hI hj]; exact nofun
    refine answers_bind (answers_mono hf ?_) ?_
    · rintro (e | js) hx y hy <;> cases hy
      · exact nofun
      · rintro g ⟨⟩ hg
        obtain ⟨j, hj, hid⟩ := List.any_eq_true.mp hg
        exact hx js rfl j hj (of_decide_eq_true hid)
    · rintro (e | js) <;> trivial
  | acknowledge env who jobID =>
    by_cases hid : jobID = id
    · subst hid
      have hf := answers_acknowledgeCheck who jobID (I := (cancelledJob jobID tenantID).settled)
        fun db hI j hj => by rw [status_of_settled hI hj]; exact nofun
      refine answers_bind (answers_mono hf ?_) ?_
      · rintro (e | ⟨⟩) hx y hy <;> cases hy
        · exact nofun
        · exact absurd rfl hx
      · rintro (e | _) <;> trivial
    · exact answers_of_forall (fun _ _ _ hg => hid (of_decide_eq_true hg)) _

lemma check_unused_cancelledJob (r : Request) :
    r.task.check.Returns fun x => ∀ a, x = .error a → ¬ r.uses id a := by
  cases r with
  | cancel => exact returns_of_forall (fun _ _ _ h => h) _
  | checkin env who body =>
    refine returns_bind (returns_mono (returns_fetch env who body) ?_)
    rintro (e | js) hx a ha <;> cases ha
    obtain ⟨n, code, msg, rfl, -⟩ := hx e rfl
    exact fun h => h
  | acknowledge env who jobID =>
    refine returns_bind (returns_mono (returns_acknowledgeCheck who jobID) ?_)
    rintro (e | js) hx a ha <;> cases ha
    exact fun hu => hx.not_is2xx hu.2

lemma act_unused_cancelledJob (r : Request) (g : List JobRow) (hg : ¬ r.holds id g = true) :
    (r.task.act g).Returns fun a => ¬ r.uses id a := by
  cases r with
  | cancel => exact returns_of_forall (fun _ h => h) _
  | checkin env who body =>
    refine returns_bind (returns_mono (returns_respond env g) fun rep hrep => ?_)
    rcases rep with ⟨n, resp⟩ | _
    · rintro ⟨d, hd, hid⟩
      obtain ⟨j, hj, he⟩ := hrep n resp rfl d hd
      exact hg (List.any_eq_true.mpr ⟨j, hj, decide_eq_true (he ▸ hid)⟩)
    · exact fun h => h
  | acknowledge env who jobID =>
    refine returns_bind (returns_of_forall (fun rep hu => ?_) _)
    exact hg (decide_eq_true hu.1)

lemma observed_cancelledJob : (cancelledJob id tenantID).Observed task where
  waits := check_ne_ok
  check_keeps r hr := each_task keeps_of_jobs_eq r fun env who req he u hu =>
    keeps_fetchUpdate env (he ▸ hr) hu
  check_clear r _ := check_clear_cancelledJob r
  check_unused := check_unused_cancelledJob
  act_keeps r g hg := by
    refine each_act keeps_of_jobs_eq r g (fun env caller jobID _ => ?_) (fun env who jobID he => ?_)
      fun env who body he j hj => ?_
    · refine keeps_updateJobs fun j _ _ hs => ?_
      simp only [JobUpdate.onRow]
      split
      · rfl
      · exact hs
    · refine keeps_updateJobs fun j hid _ hs => status_ite_of_not (fun hc => hg ?_) hs
      rw [he]
      exact decide_eq_true (hc ▸ hid)
    · refine keeps_updateJobs fun k hid _ hs => status_ite_of_not (fun hc => hg ?_) hs
      rw [he]
      exact List.any_eq_true.mpr ⟨j, hj, decide_eq_true (hc ▸ hid)⟩
  act_unused := act_unused_cancelledJob

end

end Moebius
