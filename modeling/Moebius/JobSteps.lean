import Moebius.AgentRequests

/-!
What the server does to its job table.

`Move` lists every change a statement of the server makes to one job row, with the status its
handler has met. A statement is a `JobStep`: every row that was there is still there and made a
move, and a row that was not there is queued and either starts a chain of retries or continues
one. Later modules argue from these two alone.
-/

namespace Moebius

open Proc

/-- `reported` is the job a check-in reports as a failed update. -/
inductive Move (reported : Option String) (j : JobRow) : JobRow → Prop
  | stay : Move reported j j
  | reportFailed (lastError : String) (now : Time) (hr : reported = some j.id)
      (hs : j.status ≠ .failed) : Move reported j
      { j with status := .failed, lastError := some lastError, completedAt := some now }
  | requeue (hs : j.status = .dispatched) :
      Move reported j { j with status := .queued, dispatchedAt := none }
  | hold (hs : j.status = .queued) : Move reported j { j with status := .cdmHold }
  | release (hs : j.status = .cdmHold) : Move reported j { j with status := .queued }
  | dispatch (now : Time) (hs : j.status = .queued) :
      Move reported j { j with status := .dispatched, dispatchedAt := some now }
  | acknowledge (now : Time) (hs : j.status = .dispatched) :
      Move reported j { j with status := .acknowledged, acknowledgedAt := some now }
  | finish (status : JobStatus) (now : Time) (lastError : String) (startedAt : Option Time)
      (hs : j.status = .acknowledged ∨ j.status = .running)
      (ht : status = .completed ∨ status = .failed ∨ status = .timedOut) : Move reported j
      { j with
        status := status, completedAt := some now, lastError := some lastError
        startedAt := j.startedAt.or startedAt }
  | cancel (completedAt : Option Time) (hs : isCancellable j.status = true) :
      Move reported j { j with status := .cancelled, completedAt := completedAt }
  | timeOut (now : Time) (lastError : String)
      (hs : j.status = .acknowledged ∨ j.status = .running) : Move reported j
      { j with status := .timedOut, completedAt := some now, lastError := some lastError }

lemma Move.same {reported : Option String} {j j' : JobRow} (h : Move reported j j') :
    JobUpdate.SameJob j j' := by
  cases h <;> constructor <;> rfl

/-- A new row starts a chain of retries for the tenant `origin` and has an author, or continues the
chain of a row that is there. -/
inductive Chained (origin : Option String) (db : Db) (row : JobRow) : Prop
  | root (hp : row.parentJobID = none) (ho : origin = some row.tenantID)
      (hby : row.createdBy ≠ none)
  | retry {parent : JobRow} (h : db.job? parent.id = some parent) (hr : RetryOf parent row)

structure JobStep (reported origin : Option String) (a b : Db) : Prop where
  kept : ∀ {id j}, a.job? id = some j → ∃ j', b.job? id = some j' ∧ Move reported j j'
  new : ∀ {id j}, a.job? id = none → b.job? id = some j → Fresh j ∧ Chained origin a j

section

variable {reported origin : Option String} {a b db : Db}

lemma jobStep_of_jobs_eq (h : b.jobs = a.jobs) : JobStep reported origin a b := by
  have hj : ∀ id, b.job? id = a.job? id := fun id => by rw [Db.job?, Db.job?, h]
  refine ⟨fun {id j} ha => ⟨j, by rw [hj, ha], .stay⟩, fun {id j} ha hb => ?_⟩
  rw [hj, ha] at hb
  cases hb

lemma JobStep.refl (db : Db) : JobStep reported origin db db := jobStep_of_jobs_eq rfl

lemma jobStep_update {u : JobUpdate} (hb : b.jobs = (a.updateJobs u).jobs)
    (h : ∀ j, a.job? j.id = some j → Move reported j (u.onRow j)) :
    JobStep reported origin a b := by
  have hj : ∀ id, b.job? id = (a.job? id).map u.onRow := fun id => by
    rw [← Db.job?_updateJobs, Db.job?, Db.job?, hb]
  refine ⟨fun {id j} ha => ⟨u.onRow j, by rw [hj, ha]; rfl, h j ?_⟩, fun {id j} ha hb => ?_⟩
  · rw [show j.id = id from Table.key_of_get? ha, ha]
  · rw [hj, ha] at hb
    cases hb

lemma jobStep_insert {row : JobRow} (hb : a.jobs.insert row = some b.jobs) (hf : Fresh row)
    (hc : Chained origin a row) : JobStep reported origin a b := by
  have hj : ∀ id, b.job? id = if row.id = id then some row else a.job? id :=
    fun id => Table.get?_insert hb id
  have hnew : a.job? row.id = none := Table.fresh_of_insert hb
  refine ⟨fun {id j} ha => ⟨j, ?_, .stay⟩, fun {id j} ha hb => ?_⟩
  · rw [hj, if_neg (fun he => by rw [← he, hnew] at ha; cases ha), ha]
  · rw [hj] at hb
    split at hb
    · cases hb; exact ⟨hf, hc⟩
    · rw [ha] at hb; cases hb

lemma move_ite {c : Prop} [Decidable c] {j j' : JobRow} (h : c → Move reported j j') :
    Move reported j (if c then j' else j) := by
  split
  · exact h (by assumption)
  · exact .stay

lemma status_of_read {j k : JobRow} (hk : db.job? k.id = some k) (hj : db.job? j.id = some j)
    (he : j.id = k.id) : j.status = k.status := by
  rw [he, hk] at hj
  cases hj
  rfl

lemma AgentStep.jobStep {who : AgentIdentity} (h : AgentStep who reported a b) :
    JobStep reported origin a b := by
  obtain ⟨hsame | ⟨u, hu, hb⟩ | ⟨parent, row, hp, -, hr, hf, hb⟩, -⟩ := h
  · exact jobStep_of_jobs_eq hsame
  · refine jobStep_update hb fun j hj => ?_
    cases hu with
    | reportFailed h => exact move_ite fun hc => .reportFailed _ _ (by rw [h, hc.1]) hc.2.2
    | requeueStale => exact move_ite fun hc => .requeue hc.2.2.1
    | holdQueued => exact move_ite fun hc => .hold hc.2.2
    | releaseHeld => exact move_ite fun hc => .release hc.2.2
    | markDispatched hk _ hs =>
      exact move_ite fun he => .dispatch _ ((status_of_read hk hj he).trans hs)
    | markAcknowledged hk _ hs =>
      exact move_ite fun he => .acknowledge _ ((status_of_read hk hj he).trans hs)
    | finish hk _ hs ht =>
      refine move_ite fun he => .finish _ _ _ _ ?_ ht
      rwa [status_of_read hk hj he]
  · exact jobStep_insert hb hf (.retry hp hr)

end

section

variable {reported origin : Option String} {a b : Db} {P : JobRow → Prop}

lemma JobStep.keeps (h : JobStep reported origin a b)
    (hP : ∀ j j', Move reported j j' → P j → P j') {id : String}
    (ha : ∃ j, a.job? id = some j ∧ P j) : ∃ j, b.job? id = some j ∧ P j := by
  obtain ⟨j, hj, hp⟩ := ha
  obtain ⟨j', hj', hm⟩ := h.kept hj
  exact ⟨j', hj', hP j j' hm hp⟩

lemma JobStep.all (h : JobStep reported origin a b) (hP : ∀ j j', Move reported j j' → P j → P j')
    (hnew : ∀ j, Fresh j → P j) (ha : ∀ id j, a.job? id = some j → P j) :
    ∀ id j, b.job? id = some j → P j := by
  intro id j hj
  rcases hid : a.job? id with _ | k
  · exact hnew j (h.new hid hj).1
  · obtain ⟨k', hk', hm⟩ := h.kept hid
    cases hj.symm.trans hk'
    exact hP k j hm (ha id k hid)

end

end Moebius
