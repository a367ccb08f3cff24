import Moebius.Terminal

/-!
What an agent can reach.

A request of the agent of a device changes rows of that device only, with one exception: the
statement that takes a report of a failed update filters by tenant and not by device.
-/

namespace Moebius

open Proc Table

def Op.agentCert : Op → Option ClientCert
  | checkin cert _ => cert
  | acknowledge cert _ => cert
  | submitResult cert _ _ => cert
  | _ => none

/-- Only rows that belong to the device `D` differ: its device row, its jobs, their results and
its inventory, and entries of the audit log it is the actor of. -/
structure Confined (D : String) (a b : Db) : Prop where
  rest : Rest D a b
  jobs : SameOn (fun j => j.deviceID ≠ D) a.jobs b.jobs
  kept : ∀ {id j}, a.job? id = some j → ∃ j', b.job? id = some j' ∧ j'.deviceID = j.deviceID

/-- The check-in reports as failed a job of its tenant that is not a job of its device. -/
def Call.ReportsForeign (db : Db) (c : Call) : Prop :=
  ∃ who req j, c.report db = some (who, req) ∧ db.job? req.status.lastUpdateJobID = some j ∧
    j.tenantID = who.tenantID ∧ j.deviceID ≠ who.agentID ∧ j.status ≠ .failed

section

variable {D : String} {a b c : Db}

lemma Confined.refl (D : String) (db : Db) : Confined D db db :=
  ⟨.refl D db, .refl _, fun {_ j} hj => ⟨j, hj, rfl⟩⟩

lemma Confined.trans (h : Confined D a b) (h' : Confined D b c) : Confined D a c := by
  refine ⟨h.rest.trans h'.rest h'.kept, h.jobs.trans h'.jobs, fun {id j} hj => ?_⟩
  obtain ⟨j', hj', hd⟩ := h.kept hj
  obtain ⟨j'', hj'', hd'⟩ := h'.kept hj'
  exact ⟨j'', hj'', hd'.trans hd⟩

lemma Quiet.confined (h : Quiet D a b) : Confined D a b :=
  ⟨h.rest, by rw [SameOn, h.jobs], fun {_ j} hj => ⟨j, by rw [h.job?, hj], rfl⟩⟩

lemma confined_update {u : JobUpdate} (hrest : Rest D a b) (hb : b.jobs = (a.updateJobs u).jobs)
    (h : ∀ j, a.job? j.id = some j → j.deviceID ≠ D → u.onRow j = j) : Confined D a b := by
  refine ⟨hrest, ?_, fun {id j} hj => ⟨u.onRow j, ?_, by simp⟩⟩
  · refine sameOn_of_map (congrArg rows hb) (fun j _ => by simp) fun j hj hd => ?_
    exact h j (get?_of_mem hj) (by simpa using hd)
  · have hjob : b.job? id = (a.updateJobs u).job? id := by rw [Db.job?, Db.job?, hb]
    rw [hjob, Db.job?_updateJobs, hj]
    rfl

variable {who : AgentIdentity}

lemma onRow_of_other {db : Db} {j k : JobRow} (hk : db.job? k.id = some k) (hown : Own who k)
    (hj : db.job? j.id = some j) (hd : j.deviceID ≠ who.agentID) : j.id ≠ k.id := by
  intro he
  rw [he, hk] at hj
  cases hj
  exact hd hown.1

lemma AgentStep.confined (h : AgentStep who none a b) : Confined who.agentID a b := by
  obtain ⟨hsame | ⟨u, hu, hb⟩ | ⟨parent, row, hp, hown, hr, hf, hb⟩, hrest⟩ := h
  · exact Quiet.confined ⟨hsame, hrest⟩
  · refine confined_update hrest hb fun j hj hd => ?_
    cases hu with
    | reportFailed h => cases h
    | requeueStale | holdQueued | releaseHeld => exact if_neg fun hc => hd hc.1
    | markDispatched hk own _ | markAcknowledged hk own _
    | finish hk own _ _ => exact if_neg (onRow_of_other hk own hj hd)
  · have hstep : JobStep none none a b := jobStep_insert hb hf (.retry hp hr)
    refine ⟨hrest, sameOn_insert hb ?_, fun {id j} hj => ?_⟩
    · simpa using hr.deviceID.trans hown.1
    · obtain ⟨j', hj', hm⟩ := hstep.kept hj
      exact ⟨j', hj', hm.same.deviceID⟩

end

section

variable {cfg : ServerConfig} {db : Db} {c : Call} {cert : ClientCert}

lemma confined_run {α : Type} {who : AgentIdentity} {p : Proc Db α} {Q : α → Db → Prop}
    (hp : p.wp (AgentStep who none) Q db) {fs : List Bool} :
    Confined who.agentID db (p.run fs db).2 :=
  wp_rel (R := Confined who.agentID) (.refl _) (fun _ _ _ h h' => h.trans h')
    (wp_mono (fun _ _ h => h.confined) (fun _ _ h => h) hp) fs

lemma confined_authenticate {β : Type} {at' : Time} {next : AgentIdentity → Proc Db (Reply β)}
    (hnext : ∀ who, (next who).wp (AgentStep who none) (fun _ _ => True) db) {fs : List Bool} :
    Confined cert.commonName db ((authenticate at' (some cert) next).run fs db).2 := by
  have hw : (authenticate at' (some cert) next).wp (Confined cert.commonName)
      (fun _ _ => True) db := by
    refine wp_authenticate (.refl _ db) (fun _ _ _ _ => trivial) fun who hwho => ?_
    obtain ⟨c, hc, hname⟩ := hwho.commonName
    cases hc
    rw [hname]
    exact wp_mono (fun _ _ h => h.confined) (fun _ _ h => h) (hnext who)
  exact wp_rel (.refl _) (fun _ _ _ h h' => h.trans h') hw fs

lemma confined_reported {who : AgentIdentity} {req : CheckinRequest} {env : Env}
    (h : ∀ j, db.job? req.status.lastUpdateJobID = some j → j.tenantID = who.tenantID →
      j.status ≠ .failed → j.deviceID = who.agentID) :
    Confined who.agentID db (db.reported env who req) := by
  refine (quiet_updateDevice db env.now req who.tenantID).confined.trans ?_
  refine confined_update (rest_updateJobs _ _) rfl fun j hj hd => if_neg fun hc => hd ?_
  exact h j (hc.1 ▸ hj) hc.2.1 hc.2.2

lemma confined_checkin {body : Option CheckinRequest} (hop : c.op = .checkin (some cert) body)
    (h : ¬ c.ReportsForeign db) : Confined cert.commonName db (c.after cfg db) := by
  rcases hrep : c.report db with _ | ⟨who, req⟩
  · obtain ⟨who, p, fs, hname, hw, he⟩ := after_of_report_none cfg hop hrep
    rw [he, ← hname]
    exact confined_run hw
  · obtain ⟨p, fs, hw, he⟩ := after_of_report cfg hrep
    obtain ⟨cert', hop', hadm, -⟩ := Call.report_eq_some hrep
    cases hop.symm.trans hop'
    rw [he, ← agentID_of_admitted hadm]
    refine (confined_reported fun j hj ht hs => ?_).trans (confined_run (hw _))
    by_contra hd
    exact h ⟨who, req, j, hrep, hj, ht, hd, hs⟩

lemma confined_of_not_reportsForeign (hcert : c.op.agentCert = some cert)
    (h : ¬ c.ReportsForeign db) : Confined cert.commonName db (c.after cfg db) := by
  cases hop : c.op with
  | checkin cert' body =>
    rw [hop] at hcert
    exact confined_checkin (hop.trans (congrArg (Op.checkin · body) hcert)) h
  | acknowledge cert' jobID =>
    obtain rfl : cert' = some cert := by rw [hop] at hcert; exact hcert
    simp only [Call.after, hop, Op.proc, bind_eq, pure_eq, run_map]
    exact confined_authenticate (fun who => wp_post (fun _ _ _ => trivial)
      (AgentJobs.wp_acknowledge c.env jobID db))
  | submitResult cert' jobID body =>
    obtain rfl : cert' = some cert := by rw [hop] at hcert; exact hcert
    simp only [Call.after, hop, Op.proc, bind_eq, pure_eq, run_map]
    exact confined_authenticate (fun who => wp_post (fun _ _ _ => trivial)
      (AgentJobs.wp_submitResult c.env jobID body db))
  | _ => rw [hop] at hcert; cases hcert

lemma Call.ReportsForeign.not_confined (h : c.ReportsForeign db)
    (hcert : c.op.agentCert = some cert) : ¬ Confined cert.commonName db (c.after cfg db) := by
  intro hconf
  obtain ⟨who, req, j, hrep, hj, htenant, hdev, hs⟩ := h
  have hid : j.id = req.status.lastUpdateJobID := key_of_get? hj
  have hname : who.agentID = cert.commonName := by
    obtain ⟨cert', hop, hadm, -⟩ := Call.report_eq_some hrep
    rw [hop] at hcert
    cases hcert
    exact agentID_of_admitted hadm
  -- the job is failed afterwards, yet its row should be the one it was
  obtain ⟨k, hk, hfailed⟩ : HasStatus j.id .failed (c.after cfg db) := by
    refine after_invariant_of_report cfg hrep (fun a b hstep => hstep.hasStatus rfl) ?_
    refine ⟨_, by rw [Db.reported, Db.job?_updateJobs]; exact congrArg _ (hid ▸ hj), ?_⟩
    simp [JobUpdate.onRow, hid, htenant, hs]
  have hmem : j ∈ (c.after cfg db).jobs.rows :=
    (hconf.jobs.mem_iff (by simpa [← hname] using hdev)).mpr (mem_of_get? hj)
  have hsame : (c.after cfg db).job? j.id = some j := get?_of_mem hmem
  cases hsame.symm.trans hk
  exact hs hfailed

end

/-- **Agent confinement.** A request of an agent leaves every row of other devices as it was,
exactly when it does not report, as a failed update, a job of another device of the tenant that has
not failed yet. -/
theorem confined_iff (cfg : ServerConfig) (db : Db) (c : Call) (cert : ClientCert)
    (hcert : c.op.agentCert = some cert) :
    Confined cert.commonName db (c.after cfg db) ↔ ¬ c.ReportsForeign db :=
  ⟨fun h hrep => hrep.not_confined hcert h, confined_of_not_reportsForeign hcert⟩

def Sample.foreignReport : Call :=
  call (checkin "e" { lastUpdateFailed := true, lastUpdateJobID := "job_j" }) 2 "k"

open Sample in
theorem foreignReport_confined_iff : Confined "e" (runCalls cfg db (completedJob.take 1))
      (foreignReport.after cfg
        (runCalls cfg db (completedJob.take 1))) ↔
      ¬ foreignReport.ReportsForeign
        (runCalls cfg db (completedJob.take 1)) :=
  confined_iff cfg _ foreignReport (cert "e") rfl

open Sample in
theorem foreignReport_not_confined : ¬ Confined "e" (runCalls cfg db (completedJob.take 1))
      (foreignReport.after cfg
        (runCalls cfg db (completedJob.take 1))) := by
  have hbefore : ((runCalls cfg db (completedJob.take 1)).job? "job_j").map
      (fun j => (j.deviceID, j.status)) = some ("d", .queued) := by decide
  have hafter : ((foreignReport.after cfg (runCalls cfg db
      (completedJob.take 1))).job? "job_j").map (·.status) = some .failed := by decide
  intro h
  obtain ⟨j, hj, he⟩ := Option.map_eq_some_iff.mp hbefore
  obtain ⟨hd, hs⟩ := Prod.mk.inj he
  have hmem := (h.jobs.mem_iff (by simp [hd])).mpr (mem_of_get? hj)
  have hsame := get?_of_mem hmem
  rw [show j.id = "job_j" from key_of_get? hj] at hsame
  rw [Db.job?, hsame, Option.map_some, hs] at hafter
  cases hafter

end Moebius
