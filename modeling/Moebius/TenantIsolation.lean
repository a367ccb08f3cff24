import Mathlib.Data.List.Induction
import Moebius.ServerSteps

/-!
Jobs stay within their tenant.

Creation does not check that the target devices belong to the caller's tenant. Isolation rests
on two things: every job carries the tenant of the request or schedule that started its chain of
retries, and a check-in hands out only jobs that carry both the device and its tenant.
-/

namespace Moebius

open Proc List

/-- Following parents from the job `id` ends at the job `first`. -/
inductive FirstOf (db : Db) : String → String → Prop
  | self {id : String} {j : JobRow} (hj : db.job? id = some j) (hp : j.parentJobID = none) :
      FirstOf db id id
  | parent {id p first : String} {j : JobRow} (hj : db.job? id = some j)
      (hp : j.parentJobID = some p) (h : FirstOf db p first) : FirstOf db id first

/-- In the run, the job `id` was inserted by a request or a schedule of the tenant, one that
creates jobs which are no retries. -/
def CreatedFor (cfg : ServerConfig) (db : Db) (calls : List Call) (id tenantID : String) : Prop :=
  ∃ pre c post, calls = pre ++ c :: post ∧ c.op.origin = some tenantID ∧
    (runCalls cfg db pre).job? id = none ∧ ((c.after cfg (runCalls cfg db pre)).job? id).isSome

section

variable {reported origin : Option String} {a b : Db}

lemma FirstOf.step (h : JobStep reported origin a b) {id first : String} (hf : FirstOf a id first) :
    FirstOf b id first := by
  induction hf with
  | self hj hp =>
    obtain ⟨j', hj', hm⟩ := h.kept hj
    exact .self hj' (hm.same.parentJobID.trans hp)
  | parent hj hp _ ih =>
    obtain ⟨j', hj', hm⟩ := h.kept hj
    exact .parent hj' (hm.same.parentJobID.trans hp) ih

/-- Every job has a first ancestor, and `C` says for which tenant that one was created. -/
def Rooted (C : String → String → Prop) (db : Db) : Prop :=
  ∀ id j, db.job? id = some j → ∃ first, FirstOf db id first ∧ C first j.tenantID

lemma Rooted.step {C : String → String → Prop} (h : JobStep reported origin a b) (ha : Rooted C a)
    (hC : ∀ id tenantID, a.job? id = none → origin = some tenantID → C id tenantID) :
    Rooted C b := by
  intro id j hj
  rcases hid : a.job? id with _ | k
  · obtain ⟨-, hchain⟩ := h.new hid hj
    cases hchain with
    | root hp ho => exact ⟨id, .self hj hp, hC id _ hid ho⟩
    | retry hparent hr =>
      -- a retry has its parent's tenant, and its parent's first ancestor
      obtain ⟨first, hf, hc⟩ := ha _ _ hparent
      exact ⟨first, .parent hj hr.parentJobID (hf.step h), hr.tenantID ▸ hc⟩
  · obtain ⟨k', hk', hm⟩ := h.kept hid
    cases hj.symm.trans hk'
    obtain ⟨first, hf, hc⟩ := ha id k hid
    exact ⟨first, hf.step h, hm.same.tenantID ▸ hc⟩

end

section

variable {cfg : ServerConfig} {db : Db} {calls : List Call}

lemma CreatedFor.append {id tenantID : String} (h : CreatedFor cfg db calls id tenantID)
    (calls' : List Call) : CreatedFor cfg db (calls ++ calls') id tenantID := by
  obtain ⟨pre, c, post, rfl, hc⟩ := h
  exact ⟨pre, c, post ++ calls', by simp, hc⟩

lemma FirstOf.isSome {id first : String} (h : FirstOf db id first) : (db.job? first).isSome := by
  induction h with
  | self hj => rw [hj]; rfl
  | parent _ _ _ ih => exact ih

lemma Rooted.call (c : Call) (h : Rooted (CreatedFor cfg db calls) (runCalls cfg db calls)) :
    Rooted (CreatedFor cfg db (calls ++ [c])) (runCalls cfg db (calls ++ [c])) := by
  -- inside the call: rooted before it, or started by it and not there before it
  let C : String → String → Prop := fun id T => CreatedFor cfg db calls id T ∨
    c.op.origin = some T ∧ (runCalls cfg db calls).job? id = none
  let I : Db → Prop := fun db' => Rooted C db' ∧
    ∀ id, ((runCalls cfg db calls).job? id).isSome → (db'.job? id).isSome
  have hstep : ∀ a b, c.op.Step a b → I a → I b := by
    intro a b hs hI
    refine ⟨hI.1.step hs fun id T hn ho => .inr ⟨ho, ?_⟩, fun id hid => ?_⟩
    · by_contra hsome
      have hthere := hI.2 id (Option.isSome_iff_ne_none.mpr hsome)
      rw [hn] at hthere
      cases hthere
    · obtain ⟨j, hj⟩ := Option.isSome_iff_exists.mp (hI.2 id hid)
      obtain ⟨j', hj', -⟩ := hs.kept hj
      rw [hj']; rfl
  have hstart : I (runCalls cfg db calls) := by
    refine ⟨fun id j hj => ?_, fun _ hid => hid⟩
    obtain ⟨first, hf, hc⟩ := h id j hj
    exact ⟨first, hf, .inl hc⟩
  have hend : I (c.after cfg (runCalls cfg db calls)) := after_invariant hstep hstart
  rw [runCalls_append]
  intro id j hj
  obtain ⟨first, hf, hc | ⟨ho, hn⟩⟩ := hend.1 id j hj
  · exact ⟨first, hf, hc.append [c]⟩
  · exact ⟨first, hf, calls, c, [], rfl, ho, hn, hf.isSome⟩

lemma rooted_runCalls (hdb : db.jobs = .empty) :
    Rooted (CreatedFor cfg db calls) (runCalls cfg db calls) := by
  induction calls using reverseRecOn with
  | nil =>
    intro id j hj
    rw [runCalls_nil, Db.job?, hdb] at hj
    cases hj
  | append_singleton calls c ih => exact ih.call c

end

/-- **Tenant isolation.** After any run from a server without jobs, a job of a check-in response is
for the device of the certificate and its tenant, and the first job of its chain of retries was
created for that tenant. -/
theorem checkin_isolated (cfg : ServerConfig) (db : Db) (hdb : db.jobs = .empty)
    (calls : List Call) (cert : Option ClientCert) (body : Option CheckinRequest) (env : Env)
    (faults : List Bool) (n : ℕ) (resp : CheckinResponse)
    (hresp : (Call.mk (.checkin cert body) env faults).answer cfg (runCalls cfg db calls) =
      .checkin (.ok n resp)) : ∃ c device, cert = some c ∧
      (runCalls cfg db calls).devices.get? c.commonName = some device ∧
      ∀ d ∈ resp.jobs, ∃ job first,
        (runCalls cfg db (calls ++ [⟨.checkin cert body, env, faults⟩])).job? d.jobID = some job ∧
        job.deviceID = c.commonName ∧ job.tenantID = device.tenantID ∧
        FirstOf (runCalls cfg db (calls ++ [⟨.checkin cert body, env, faults⟩])) d.jobID first ∧
        CreatedFor cfg db calls first device.tenantID := by
  obtain ⟨who, ⟨⟨c, hcert, hname⟩, device, hdev, htenant⟩, hjobs⟩ := handed_of_answer hresp
  refine ⟨c, device, hcert, hname ▸ hdev, fun d hd => ?_⟩
  obtain ⟨job, hjob, hown⟩ := hjobs d hd
  have hjob' : (runCalls cfg db (calls ++ [⟨.checkin cert body, env, faults⟩])).job? d.jobID =
      some job := by rw [runCalls_append]; exact hjob
  obtain ⟨first, hf, pre, c', post, he, ho, hcreated⟩ := rooted_runCalls hdb _ _ hjob'
  have htj : job.tenantID = device.tenantID := hown.2.trans htenant.symm
  refine ⟨job, first, hjob', hown.1.trans hname.symm, htj, hf, ?_⟩
  -- the check-in itself creates nothing
  rcases eq_nil_or_concat post with rfl | ⟨post, c'', rfl⟩
  · obtain ⟨-, hc⟩ := append_inj' he rfl
    cases hc
    cases ho
  · rw [concat_eq_append, ← cons_append, ← append_assoc] at he
    obtain ⟨rfl, -⟩ := append_inj' he rfl
    exact ⟨pre, c', post, rfl, htj ▸ ho, hcreated⟩

open Sample in
theorem sample_checkin_isolated : ∃ c device, some (cert "d") = some c ∧
      (runCalls cfg db (completedJob.take 1)).devices.get? c.commonName =
        some device ∧ ∀ d ∈ [JobDispatch.mk "job_j" .exec "run" 1], ∃ job first,
        (runCalls cfg db (completedJob.take 2)).job? d.jobID = some job ∧
        job.deviceID = c.commonName ∧ job.tenantID = device.tenantID ∧
        FirstOf (runCalls cfg db (completedJob.take 2)) d.jobID first ∧
        CreatedFor cfg db (completedJob.take 1) first device.tenantID :=
  checkin_isolated cfg db rfl (completedJob.take 1) (some (cert "d"))
    (some { status := {} }) (env 2 "k") [] 200 ⟨2, [⟨"job_j", .exec, "run", 1⟩]⟩ rfl

end Moebius
