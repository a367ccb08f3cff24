import Moebius.ServerSteps

/-!
The retries the server makes on its own.

A result that says a job has failed or timed out ends the job and, in the same request, makes a
retry of it, as long as the job has retries left. Nothing takes an ended job back into flight, so
no second result is accepted for it; and the counter of a retry is one higher than that of its
parent, so the retries of a job come to an end.
-/

namespace Moebius

open Proc AgentJobs List JobUpdate Option Call Table

/-- The retries a call makes on its own account: the rows that a submitted result adds. -/
def Call.retries (cfg : ServerConfig) (db : Db) (c : Call) : List JobRow :=
  match c.op with
  | .submitResult _ _ _ => (c.after cfg db).jobs.rows.filter fun j => (db.job? j.id).isNone
  | _ => []

/-- The automatic retries of a run, as they were inserted. -/
def automaticRetries (cfg : ServerConfig) : Db → List Call → List JobRow
  | _, [] => []
  | db, c :: calls => c.retries cfg db ++ automaticRetries cfg (c.after cfg db) calls

lemma automaticRetries_append (cfg : ServerConfig) (db : Db) (calls calls' : List Call) :
    automaticRetries cfg db (calls ++ calls') =
      automaticRetries cfg db calls ++ automaticRetries cfg (runCalls cfg db calls) calls' := by
  induction calls generalizing db with
  | nil => rfl
  | cons c calls ih => simp only [cons_append, automaticRetries, ih, runCalls_cons,
      append_assoc]

variable {cfg : ServerConfig} {c : Call} {db : Db}

section

variable {db' : Db}

/-- The call has ended `parent` and made `row` its retry. -/
structure RetriedBy (cfg : ServerConfig) (db : Db) (c : Call) (parent row : JobRow) : Prop where
  before : db.job? parent.id = some parent
  left : parent.retryCount < parent.maxRetries
  inflight : parent.status = .acknowledged ∨ parent.status = .running
  retry : RetryOf parent row
  fresh : db.job? row.id = none
  stored : (c.after cfg db).job? row.id = some row
  ended : ∃ j, (c.after cfg db).job? parent.id = some j ∧ isRetryable j.status = true ∧
    j.completedAt = some c.env.now

variable {jobID : String} {body : Option JobResultSubmission} {u : JobUpdate}

lemma recorded_of_submitResult (cfg : ServerConfig) (db : Db) {cert : Option ClientCert}
    (hop : c.op = .submitResult cert jobID body) :
    ∃ who, Recorded c.env who jobID body db (c.after cfg db) := by
  have hw : (authenticate (Op.authTime c.env) cert fun who =>
      submitResult c.env who jobID body).wp (fun _ _ => True)
      (fun _ db' => ∃ who, Recorded c.env who jobID body db db') db := by
    refine wp_authenticate trivial (fun _ _ _ _ => ⟨⟨"", ""⟩, .nothing rfl⟩) fun who _ => ?_
    have hsubmit : (submitResult c.env who jobID body).wp (AgentStep who none) _ db :=
      wp_submitResult c.env jobID body db
    exact wp_mono (fun _ _ _ => trivial) (fun _ _ h => ⟨who, h⟩) hsubmit
  simp only [Call.after, hop, Op.proc, bind_eq, pure_eq, run_map]
  exact wp_run hw c.faults

lemma filter_new_eq_nil {t : Table JobRow.id} (h : ∀ id, t.get? id ≠ none → db.job? id ≠ none) :
    (t.rows.filter fun j => (db.job? j.id).isNone) = [] := by
  rw [filter_eq_nil_iff]
  intro j hj hnone
  have hmem : t.get? j.id ≠ none := by rw [get?_of_mem hj]; exact some_ne_none j
  exact h j.id hmem (isNone_iff_eq_none.mp hnone)

lemma get?_updateJobs_eq_none {id : String} :
    (db.updateJobs u).jobs.get? id = none ↔ db.job? id = none := by
  have hget : (db.updateJobs u).jobs.get? id = (db.job? id).map u.onRow :=
    Db.job?_updateJobs u db id
  rw [hget, map_eq_none_iff]

lemma retries_of_insert {cert : Option ClientCert} (hop : c.op = .submitResult cert jobID body)
    {row : JobRow} (h : (db.updateJobs u).jobs.insert row = some (c.after cfg db).jobs) :
    c.retries cfg db = [row] := by
  have hfresh := get?_updateJobs_eq_none.mp (fresh_of_insert h)
  unfold retries
  rw [hop]
  rw [rows_of_insert h, filter_append,
    filter_new_eq_nil fun _ => mt get?_updateJobs_eq_none.mpr, nil_append,
    filter_singleton, hfresh, isNone_none, cond_true]

/-- **One call** makes no retry on its own account, or it ends one job in flight and makes its
retry. -/
lemma retries_cases (cfg : ServerConfig) (db : Db) (c : Call) : c.retries cfg db = [] ∨
      ∃ parent row, c.retries cfg db = [row] ∧ RetriedBy cfg db c parent row := by
  by_cases hop : ∃ cert jobID body, c.op = .submitResult cert jobID body
  swap
  · left
    unfold retries
    split
    · rename_i cert jobID body he
      exact absurd ⟨cert, jobID, body, he⟩ hop
    · rfl
  obtain ⟨cert, jobID, body, hop⟩ := hop
  obtain ⟨who, hrec⟩ := recorded_of_submitResult cfg db hop
  rcases hrec with h | ⟨-, -, -, -, h⟩ | ⟨-, -, hj, hs, hr, h⟩
  · left
    simp only [retries, hop, h]
    exact filter_new_eq_nil fun _ h => h
  · left
    simp only [retries, hop, h]
    exact filter_new_eq_nil fun _ => mt get?_updateJobs_eq_none.mpr
  · rename_i req target j
    obtain ⟨hrow, hown, rfl⟩ := agentJob_eq_some hj
    have hretry := retryOf_retryRow c.env hown
    generalize retryRow c.env 0 who j.id j.type (j.retryCount + 1) j.maxRetries j = row at h hretry
    have hfresh := get?_updateJobs_eq_none.mp (fresh_of_insert h)
    have hget : ∀ id, (c.after cfg db).job? id = _ := fun id => get?_insert h id
    have hne : row.id ≠ j.id := by
      intro he
      rw [he, hrow] at hfresh
      cases hfresh
    obtain ⟨hretryable, hlt⟩ : isRetryable target = true ∧ j.retryCount < j.maxRetries := by
      simpa [shouldRetry] using hr
    refine .inr ⟨j, row, retries_of_insert hop h, hrow, hlt, hs, hretry, hfresh, ?_, ?_⟩
    · rw [hget, if_pos rfl]
    · refine ⟨(finish j.id target c.env.now req.message req.startedAt).onRow j, ?_, ?_⟩
      · rw [hget, if_neg hne]
        exact (Db.job?_updateJobs _ db j.id).trans (by rw [hrow]; rfl)
      · simp only [onRow, if_true]
        exact ⟨hretryable, trivial⟩

end

/-! ### Ended jobs -/

def Ended (db : Db) (id : String) : Prop :=
  ∃ j, db.job? id = some j ∧ isTerminalStatus j.status = true

lemma Move.ended {reported : Option String} {j j' : JobRow} (h : Move reported j j')
    (hj : isTerminalStatus j.status = true) : isTerminalStatus j'.status = true := by
  cases h with
  | stay => exact hj
  | reportFailed => rfl
  | requeue hs | hold hs | release hs | dispatch _ hs | acknowledge _ hs => rw [hs] at hj; cases hj
  | finish _ _ _ _ _ ht => rcases ht with rfl | rfl | rfl <;> rfl
  | cancel | timeOut => rfl

section

variable {id : String} {parent j : JobRow}

lemma Ended.after (h : Ended db id) (c : Call) : Ended (c.after cfg db) id :=
  after_invariant (I := fun db => Ended db id)
    (fun _ _ hs hp => hs.keeps (fun _ _ hm hj => hm.ended hj) hp) h

lemma terminal_of_retryable {s : JobStatus} (h : isRetryable s = true) :
    isTerminalStatus s = true := by
  cases s <;> simp [isRetryable, isTerminalStatus] at h ⊢

lemma RetriedBy.ended_after {row : JobRow} (h : RetriedBy cfg db c parent row) :
    Ended (c.after cfg db) parent.id := by
  obtain ⟨j, hj, hs, -⟩ := h.ended
  exact ⟨j, hj, terminal_of_retryable hs⟩

lemma RetriedBy.not_ended {row : JobRow} (h : RetriedBy cfg db c parent row) :
    ¬ Ended db parent.id := by
  rintro ⟨j, hj, ht⟩
  cases h.before.symm.trans hj
  rcases h.inflight with hs | hs <;> rw [hs] at ht <;> cases ht

variable {calls : List Call}

lemma parent_ne_of_ended (h : Ended db id) {row : JobRow}
    (hrow : row ∈ automaticRetries cfg db calls) : row.parentJobID ≠ some id := by
  induction calls generalizing db with
  | nil => cases hrow
  | cons c calls ih =>
    rcases mem_append.mp hrow with hrow | hrow
    · rcases retries_cases cfg db c with hnil | ⟨parent, row', hone, hby⟩
      · rw [hnil] at hrow
        cases hrow
      · rw [hone, mem_singleton] at hrow
        subst hrow
        rw [hby.retry.parentJobID]
        intro he
        cases he
        exact hby.not_ended h
    · exact ih (h.after c) hrow

def retriesOf (cfg : ServerConfig) (db : Db) (calls : List Call) (id : String) : List JobRow :=
  (automaticRetries cfg db calls).filter fun row => row.parentJobID = some id

lemma retriesOf_of_ended (h : Ended db id) (calls : List Call) :
    retriesOf cfg db calls id = [] := by
  rw [retriesOf, filter_eq_nil_iff]
  intro row hrow hp
  exact parent_ne_of_ended h hrow (of_decide_eq_true hp)

lemma retriesOf_cons (c : Call) (calls : List Call) (id : String) :
    retriesOf cfg db (c :: calls) id =
      ((c.retries cfg db).filter fun row => row.parentJobID = some id) ++
        retriesOf cfg (c.after cfg db) calls id := by
  simp only [retriesOf, automaticRetries, filter_append]

lemma length_retriesOf_le (calls : List Call) (id : String) :
    (retriesOf cfg db calls id).length ≤ 1 := by
  induction calls generalizing db with
  | nil => simp [retriesOf, automaticRetries]
  | cons c calls ih =>
    rw [retriesOf_cons, length_append]
    have hrest : (retriesOf cfg (c.after cfg db) calls id).length ≤ 1 := ih
    rcases retries_cases cfg db c with hnil | ⟨parent, row, hone, hby⟩
    · simp only [hnil, filter_nil, length_nil]
      omega
    · by_cases hp : row.parentJobID = some id
      · -- the call retries this very job, so it has ended and the rest of the run does not
        have hid : parent.id = id := some.inj (hby.retry.parentJobID.symm.trans hp)
        rw [retriesOf_of_ended (hid ▸ hby.ended_after), hone]
        simp [hp]
      · simp only [hone, filter_singleton, hp, decide_false, cond_false, length_nil]
        omega

lemma runCalls_same (cfg : ServerConfig) (h : db.job? id = some j) (calls : List Call) :
    ∃ j', (runCalls cfg db calls).job? id = some j' ∧ SameJob j j' :=
  runCalls_invariant (I := fun db => ∃ j', db.job? id = some j' ∧ SameJob j j')
    (fun _ _ _ _ hs hp => hs.keeps (fun _ _ hm hj => hj.trans hm.same) hp)
    ⟨j, h, .refl j⟩

lemma RetryOf.congr {parent' row row' : JobRow} (h : RetryOf parent row)
    (hp : SameJob parent parent') (hr : SameJob row row') :
    RetryOf parent' row' where
  parentJobID := by rw [hr.parentJobID, hp.id, h.parentJobID]
  tenantID := by rw [hr.tenantID, hp.tenantID, h.tenantID]
  deviceID := by rw [hr.deviceID, hp.deviceID, h.deviceID]
  type := by rw [hr.type, hp.type, h.type]
  payload := by rw [hr.payload, hp.payload, h.payload]
  retryPolicy := by rw [hr.retryPolicy, hp.retryPolicy, h.retryPolicy]
  retryCount := by rw [hr.retryCount, hp.retryCount, h.retryCount]
  maxRetries := by rw [hr.maxRetries, hp.maxRetries, h.maxRetries]
  createdBy := by rw [hr.createdBy, hp.createdBy, h.createdBy]

/-- Every row with a parent that is not one of `db` is a retry of that parent. -/
def Lineage (db db' : Db) : Prop :=
  ∀ id row p, db.job? id = none → db'.job? id = some row → row.parentJobID = some p →
    ∃ parent, db'.job? p = some parent ∧ RetryOf parent row

lemma JobStep.lineage {reported origin : Option String} {a b : Db} (h : JobStep reported origin a b)
    (ha : Lineage db a) : Lineage db b := by
  intro id row p hnone hrow hp
  rcases hid : a.job? id with _ | row'
  · rcases (h.new hid hrow).2 with ⟨hroot, -⟩ | ⟨hparent, hr⟩
    · cases hroot.symm.trans hp
    · rename_i parent
      obtain ⟨parent', hparent', hm⟩ := h.kept hparent
      obtain rfl : parent.id = p := some.inj (hr.parentJobID.symm.trans hp)
      exact ⟨parent', hparent', hr.congr hm.same (.refl row)⟩
  · obtain ⟨row'', hrow'', hm⟩ := h.kept hid
    cases hrow.symm.trans hrow''
    obtain ⟨parent, hparent, hr⟩ := ha id row' p hnone hid (hm.same.parentJobID ▸ hp)
    obtain ⟨parent', hparent', hm'⟩ := h.kept hparent
    exact ⟨parent', hparent', hr.congr hm'.same hm.same⟩

lemma runCalls_lineage : Lineage db (runCalls cfg db calls) := by
  refine runCalls_invariant (I := Lineage db) (fun c _ a b hs ha => hs.lineage ha) ?_
  intro id row p hnone hrow
  cases hnone.symm.trans hrow

lemma automaticRetry_end {row : JobRow} (hrow : row ∈ automaticRetries cfg db calls) :
    db.job? row.id = none ∧ row.retryCount ≤ row.maxRetries ∧
      (∃ row', (runCalls cfg db calls).job? row.id = some row' ∧ SameJob row row') ∧
      ∃ parent, (runCalls cfg db calls).job? parent.id = some parent ∧ RetryOf parent row := by
  induction calls generalizing db with
  | nil => cases hrow
  | cons c calls ih =>
    rcases mem_append.mp hrow with hrow | hrow
    · rcases retries_cases cfg db c with hnil | ⟨parent, row', hone, hby⟩
      · rw [hnil] at hrow
        cases hrow
      rw [hone, mem_singleton] at hrow
      subst hrow
      have hle : row.retryCount ≤ row.maxRetries := by
        have := hby.left
        rw [hby.retry.retryCount, hby.retry.maxRetries]
        omega
      refine ⟨hby.fresh, hle, runCalls_same cfg hby.stored calls, ?_⟩
      obtain ⟨parent', hparent', hsame⟩ := runCalls_same cfg hby.before (c :: calls)
      exact ⟨parent', hsame.id ▸ hparent', hby.retry.congr hsame (.refl row)⟩
    · obtain ⟨hnone, hrest⟩ := ih hrow
      refine ⟨?_, hrest⟩
      by_contra hne
      obtain ⟨k, hk⟩ := ne_none_iff_exists'.mp hne
      obtain ⟨k', hk', -⟩ := runCalls_same cfg hk [c]
      rw [runCalls_cons, runCalls_nil, hnone] at hk'
      cases hk'

/-- From `j` on, each job of the list is a retry of the one before it, made since `a` and as `b`
holds it. -/
def Line (a b : Db) : JobRow → List JobRow → Prop
  | _, [] => True
  | j, k :: ks =>
    a.job? k.id = none ∧ b.job? k.id = some k ∧ k.parentJobID = some j.id ∧ Line a b k ks

/-- The job is an automatic retry of the run. -/
def Automatic (cfg : ServerConfig) (db : Db) (calls : List Call) (k : JobRow) : Prop :=
  k.id ∈ (automaticRetries cfg db calls).map (·.id)
  deriving Decidable

lemma Automatic.count_le {k : JobRow} (h : Automatic cfg db calls k)
    (hk : (runCalls cfg db calls).job? k.id = some k) : k.retryCount ≤ k.maxRetries := by
  obtain ⟨row, hrow, hid⟩ := mem_map.mp h
  obtain ⟨-, hle, ⟨row', hrow', hsame⟩, -⟩ := automaticRetry_end hrow
  rw [hid, hk] at hrow'
  cases hrow'
  rw [hsame.retryCount, hsame.maxRetries]
  exact hle

lemma line_bound {ks : List JobRow} (hj : (runCalls cfg db calls).job? j.id = some j)
    (h : Line db (runCalls cfg db calls) j ks) :
    (ks.filter fun k => Automatic cfg db calls k).length ≤ (j.maxRetries - j.retryCount).toNat := by
  induction ks generalizing j with
  | nil => simp
  | cons k ks ih =>
    obtain ⟨hnone, hk, hp, hline⟩ := h
    obtain ⟨parent, hparent, hr⟩ := runCalls_lineage k.id k j.id hnone hk hp
    cases hj.symm.trans hparent
    have hrest := ih hk hline
    have hcount := hr.retryCount
    have hmax := hr.maxRetries
    by_cases hauto : Automatic cfg db calls k
    · have hle := hauto.count_le hk
      simp only [filter_cons, hauto, decide_true, if_true, length_cons]
      omega
    · simp only [filter_cons, hauto, decide_false, Bool.false_eq_true, if_false]
      omega

/-- **Automatic retries.** Along every run, a job gets at most one automatic retry, which copies its
parent and has the next higher count; and however jobs that retry one another are made, at most
`maxRetries - retryCount` of those that follow a job are automatic. -/
theorem automatic_retries_bounded (cfg : ServerConfig) (db : Db) (calls : List Call) :
    (∀ id, (retriesOf cfg db calls id).length ≤ 1) ∧ (∀ row ∈ automaticRetries cfg db calls,
      ∃ parent, (runCalls cfg db calls).job? parent.id = some parent ∧ RetryOf parent row) ∧
    ∀ j ks, (runCalls cfg db calls).job? j.id = some j → Line db (runCalls cfg db calls) j ks →
      (ks.filter fun k => Automatic cfg db calls k).length ≤
        (max 0 (j.maxRetries - j.retryCount)).toNat := by
  refine ⟨length_retriesOf_le calls, fun row hrow => (automaticRetry_end hrow).2.2.2, ?_⟩
  intro j ks hj hline
  have hbound := line_bound hj hline
  omega

end

end Moebius
