import Moebius.Agent
import Moebius.ServerSteps

/-!
A job is started at most once.

The same job may be handed out many times over, but the server answers only one acknowledge
request for it with success: that moves the job past `dispatched`, where no later statement takes
it back. The agent starts a job only when its own acknowledge call succeeded, and two calls cannot
both have been answered with the one success.
-/

namespace Moebius

open List Executor Cdm Prod

def JobStatus.pastDispatch : JobStatus → Bool
  | .acknowledged | .running | .completed | .failed | .timedOut | .cancelled => true
  | .pending | .queued | .cdmHold | .dispatched => false

lemma Move.pastDispatch {reported : Option String} {j j' : JobRow} (h : Move reported j j')
    (hj : j.status.pastDispatch) : j'.status.pastDispatch := by
  cases h with
  | stay => exact hj
  | reportFailed => rfl
  | requeue hs | hold hs | release hs | dispatch _ hs => rw [hs] at hj; cases hj
  | acknowledge => rfl
  | finish _ _ _ _ _ ht => rcases ht with rfl | rfl | rfl <;> rfl
  | cancel | timeOut => rfl

def Passed (db : Db) (id : String) : Prop := ∃ j, db.job? id = some j ∧ j.status.pastDispatch

lemma Passed.after {cfg : ServerConfig} {db : Db} {id : String} (h : Passed db id) (c : Call) :
    Passed (c.after cfg db) id :=
  after_invariant (I := fun db => Passed db id)
    (fun _ _ hs hp => hs.keeps (fun _ _ hm hj => hm.pastDispatch hj) hp) h

/-- Acknowledging a job with success takes it past `dispatched`, where it was not before. -/
lemma passed_of_accepts {cfg : ServerConfig} {db : Db} {c : Call} {id : String}
    (h : id ∈ c.accepts (c.answer cfg db)) : ¬ Passed db id ∧ Passed (c.after cfg db) id := by
  obtain ⟨op, env, faults⟩ := c
  unfold Call.accepts at h
  split at h
  · next cert jobID r hop hanswer =>
    cases hop
    split at h
    · next h2 =>
      obtain rfl := mem_singleton.mp h
      obtain ⟨⟨j, hj, hs⟩, j', hj', hs'⟩ := acknowledged_of_answer hanswer h2
      refine ⟨?_, j', hj', by rw [hs']; rfl⟩
      rintro ⟨k, hk, hp⟩
      rw [hj] at hk
      cases hk
      rw [hs] at hp
      cases hp
    · exact absurd h not_mem_nil
  · exact absurd h not_mem_nil

lemma accepts_nodup {c : Call} {answer : Answer} : (c.accepts answer).Nodup := by
  unfold Call.accepts
  split
  · split
    · exact nodup_singleton _
    · exact nodup_nil
  · exact nodup_nil

/-- The jobs acknowledged with success are different ones, and all past `dispatched`. -/
structure Acknowledged (db : Db) (ids : List String) : Prop where
  nodup : ids.Nodup
  passed : ∀ id ∈ ids, Passed db id

lemma Acknowledged.after {cfg : ServerConfig} {db : Db} {ids : List String}
    (h : Acknowledged db ids) (c : Call) :
    Acknowledged (c.after cfg db) (ids ++ c.accepts (c.answer cfg db)) := by
  constructor
  · refine nodup_append.mpr ⟨h.nodup, accepts_nodup, ?_⟩
    intro a ha b hb he
    exact (passed_of_accepts hb).1 (he ▸ h.passed a ha)
  · intro id hid
    rcases mem_append.mp hid with hid | hid
    · exact (h.passed id hid).after c
    · exact (passed_of_accepts hid).2

/-- The acknowledge call has succeeded, and the payload has not been started. -/
def JobStage.acked : JobStage → Bool
  | acknowledged | enabled | logging _ | ready => true
  | received | acknowledging | executing | stopped => false

/-- The payload has been started, or never will be. -/
def JobStage.isOver : JobStage → Bool
  | executing | stopped => true
  | _ => false

lemma acknowledge_eq_iff {r : Reply Unit} :
    (acknowledge r).acked ↔ r.status = 204 ∨ r.status = 200 := by
  unfold acknowledge
  split
  · next h => simp [JobStage.acked, h]
  · next h => simpa [JobStage.acked, or_iff_not_imp_left] using h

variable {β : Type}

section

variable (J : Json β) (now : Time) (io : Io β) (m : Manager β) (g : JobRun)

lemma acked_of_runJob (h : (runJob J now io m g).1.acked) : g.stage.acked := by
  unfold runJob at h
  rcases hs : g.stage <;> simp only [hs] at h <;> try rfl
  · split at h <;> cases h
  all_goals cases h

lemma isOver_runJob (h : g.stage.isOver) : (runJob J now io m g).1 = .stopped := by
  unfold runJob
  rcases hs : g.stage <;> simp only [hs] at h ⊢ <;> cases h

end

/-- Goroutines keep their place, their job and that they are over. -/
def Evolves (runs runs' : List JobRun) : Prop :=
  ∀ (i : ℕ) (g : JobRun), runs[i]? = some g →
    ∃ g', runs'[i]? = some g' ∧ g'.job = g.job ∧ (g.stage.isOver → g'.stage.isOver)

lemma Evolves.refl (runs : List JobRun) : Evolves runs runs := fun _ g h => ⟨g, h, rfl, fun h => h⟩

variable {runs : List JobRun}

lemma evolves_append {new : List JobRun} : Evolves runs (runs ++ new) := by
  intro i g h
  have hi : i < runs.length := (List.getElem?_eq_some_iff.mp h).1
  exact ⟨g, by rw [List.getElem?_append_left hi, h], rfl, fun h => h⟩

lemma evolves_set {i : ℕ} {g : JobRun} {stage : JobStage} (hg : runs[i]? = some g)
    (hover : g.stage.isOver → stage.isOver) :
    Evolves runs (runs.set i { g with stage }) := by
  intro k g' hg'
  rw [List.getElem?_set]
  by_cases hk : i = k
  · subst hk
    cases hg.symm.trans hg'
    have hi : i < runs.length := (List.getElem?_eq_some_iff.mp hg).1
    exact ⟨{ g with stage }, by simp [hi], rfl, hover⟩
  · exact ⟨g', by rw [if_neg hk, hg'], rfl, fun h => h⟩

lemma evolves_stop : Evolves runs (runs.map ({ · with stage := .stopped })) := by
  intro i g h
  exact ⟨{ g with stage := .stopped }, by simp [h], rfl, fun _ => rfl⟩

/-! ### The system -/

/-- What links the server, the messages in the network and the goroutines. -/
structure Once (s : System β) : Prop where
  server : Acknowledged s.db (s.accepted.map snd)
  requests : ∀ x ∈ s.requests, ∃ g, s.runs[x.1]? = some g ∧ g.job.jobID = x.2
  replies : ∀ x ∈ s.replies, (acknowledge x.2).acked →
    ∃ g, s.runs[x.1]? = some g ∧ (some x.1, g.job.jobID) ∈ s.accepted
  acked : ∀ i g, s.runs[i]? = some g → g.stage.acked → (some i, g.job.jobID) ∈ s.accepted
  started : ∀ x ∈ s.started, (some x.1, x.2) ∈ s.accepted ∧
    ∃ g, s.runs[x.1]? = some g ∧ g.job.jobID = x.2 ∧ g.stage.isOver
  startedOnce : s.started.Nodup

lemma once_initial {db : Db} {clock : Time} {device : Device β} : Once { db, clock, device } where
  server := ⟨nodup_nil, fun _ h => absurd h not_mem_nil⟩
  requests _ h := absurd h not_mem_nil
  replies _ h := absurd h not_mem_nil
  acked _ _ h := by simp at h
  started _ h := absurd h not_mem_nil
  startedOnce := nodup_nil

section

variable {J : Json β} {cfg : ServerConfig} {s s' : System β}

lemma Once.evolve (h : Once s) (hdb : s'.db = s.db) (haccepted : s'.accepted = s.accepted)
    (hreplies : s'.replies = s.replies) (hstarted : s'.started = s.started)
    (hruns : Evolves s.runs s'.runs)
    (hacked : ∀ i g, s'.runs[i]? = some g → g.stage.acked → (some i, g.job.jobID) ∈ s.accepted)
    (hrequests : ∀ x ∈ s'.requests, x ∈ s.requests ∨
      ∃ g, s.runs[x.1]? = some g ∧ g.job.jobID = x.2) : Once s' := by
  constructor
  · rw [hdb, haccepted]
    exact h.server
  · intro x hx
    obtain ⟨g, hg, hid⟩ := (hrequests x hx).elim (h.requests x) fun h => h
    obtain ⟨g', hg', hjob, -⟩ := hruns _ g hg
    exact ⟨g', hg', by rw [hjob, hid]⟩
  · intro x hx hok
    rw [hreplies] at hx
    obtain ⟨g, hg, hmem⟩ := h.replies x hx hok
    obtain ⟨g', hg', hjob, -⟩ := hruns _ g hg
    exact ⟨g', hg', by rw [hjob, haccepted]; exact hmem⟩
  · rw [haccepted]
    exact hacked
  · intro x hx
    rw [hstarted] at hx
    obtain ⟨hmem, g, hg, hid, hover⟩ := h.started x hx
    obtain ⟨g', hg', hjob, hover'⟩ := hruns _ g hg
    exact ⟨haccepted ▸ hmem, g', hg', by rw [hjob, hid], hover' hover⟩
  · rw [hstarted]
    exact h.startedOnce

variable {i : ℕ} {g : JobRun} {stage : JobStage} {r : Reply Unit}

lemma Once.acked_set (h : Once s) (hstage : stage.acked → (some i, g.job.jobID) ∈ s.accepted)
    (k : ℕ) (g' : JobRun) (hg' : (s.runs.set i { g with stage })[k]? = some g')
    (hacked : g'.stage.acked) :
    (some k, g'.job.jobID) ∈ s.accepted := by
  rw [getElem?_set] at hg'
  split at hg'
  · next hk =>
    subst hk
    split at hg'
    · cases hg'
      exact hstage hacked
    · cases hg'
  · exact h.acked k g' hg' hacked

lemma Once.setStage (h : Once s) (hg : s.runs[i]? = some g) (hover : g.stage.isOver → stage.isOver)
    (hstage : stage.acked → (some i, g.job.jobID) ∈ s.accepted) (device : Device β) :
    Once { s.setStage i g stage with device } :=
  h.evolve rfl rfl rfl rfl (evolves_set hg hover) (h.acked_set hstage) fun _ hx => .inl hx

lemma Once.addStarted (h : Once s) (hg : s.runs[i]? = some g) (hover : g.stage.isOver)
    (hmem : (some i, g.job.jobID) ∈ s.accepted) (hnew : (i, g.job.jobID) ∉ s.started) :
    Once { s with started := s.started ++ [(i, g.job.jobID)] } := by
  refine { h with started := ?_, startedOnce := ?_ }
  · intro x hx
    rcases mem_append.mp hx with hx | hx
    · exact h.started x hx
    · obtain rfl := mem_singleton.mp hx
      exact ⟨hmem, g, hg, rfl, hover⟩
  · refine nodup_append.mpr ⟨h.startedOnce, nodup_singleton _, ?_⟩
    intro x hx y hy he
    obtain rfl := mem_singleton.mp hy
    exact hnew (he ▸ hx)

lemma Once.advance (h : Once s) (hg : s.runs[i]? = some g) (io : Io β) (m : Manager β) :
    Once (s.advance J i g io m) := by
  have hset : Once
      { s.setStage i g (runJob J s.clock io m g).1 with
        device := (runJob J s.clock io m g).2.device } :=
    h.setStage hg (fun ho => by rw [isOver_runJob J s.clock io m g ho]; rfl)
      (fun ha => h.acked i g hg (acked_of_runJob J s.clock io m g ha)) _
  have hi : i < s.runs.length := (List.getElem?_eq_some_iff.mp hg).1
  unfold System.advance
  dsimp only
  split
  · -- the gate lets the goroutine through, and its request goes out
    refine hset.evolve rfl rfl rfl rfl (Evolves.refl _) hset.acked fun x hx => ?_
    rcases List.mem_append.mp hx with hx | hx
    · exact .inl hx
    · obtain rfl := List.mem_singleton.mp hx
      exact .inr ⟨{ g with stage := (runJob J s.clock io m g).1 },
        by simp [System.setStage, hi], rfl⟩
  · -- the payload is started; no job that this goroutine has started before is still ready
    next hready =>
    have hstage : (runJob J s.clock io m g).1 = .executing := by
      simp [runJob, hready]
    refine hset.addStarted (g := { g with stage := .executing }) ?_ rfl
      (h.acked i g hg (by rw [hready]; rfl)) fun hx => ?_
    · simp [System.setStage, hi, hstage]
    · obtain ⟨-, g', hg', -, hover⟩ := h.started _ hx
      rw [hg] at hg'
      cases hg'
      rw [hready] at hover
      cases hover
  · exact hset

lemma mem_accepts {c : Call} {cert : Option ClientCert} {jobID : String}
    (hop : c.op = .acknowledge cert jobID) (hr : (acknowledge r).acked) :
    jobID ∈ c.accepts (.noBody r) := by
  have h2 : r.Is2xx := by
    rcases acknowledge_eq_iff.mp hr with hr | hr <;> simp [Reply.Is2xx, hr]
  simp [Call.accepts, hop, h2]

lemma mem_replies {sender : Option ℕ} {answer : Answer} {x : ℕ × Reply Unit}
    (h : x ∈ answer.replies sender) : sender = some x.1 ∧ answer = .noBody x.2 := by
  unfold Answer.replies at h
  split at h
  · obtain rfl := mem_singleton.mp h
    exact ⟨rfl, rfl⟩
  · exact absurd h not_mem_nil

lemma Once.serve (h : Once s) (sender : Option ℕ) (c : Call)
    (hsender : ∀ i, sender = some i → ∃ g cert, s.runs[i]? = some g ∧
      c.op = .acknowledge cert g.job.jobID) : Once (s.serve cfg sender c) := by
  have hmono : ∀ x ∈ s.accepted, x ∈ (s.serve cfg sender c).accepted := fun x hx =>
    mem_append_left _ hx
  refine ⟨?_, h.requests, ?_, fun i g hg ha => hmono _ (h.acked i g hg ha), fun x hx => ?_,
    h.startedOnce⟩
  · simpa [System.serve] using h.server.after c
  · intro x hx hok
    rcases mem_append.mp hx with hx | hx
    · obtain ⟨g, hg, hmem⟩ := h.replies x hx hok
      exact ⟨g, hg, hmono _ hmem⟩
    · obtain ⟨hi, hanswer⟩ := mem_replies hx
      obtain ⟨g, cert, hg, hop⟩ := hsender x.1 hi
      have hid := mem_accepts hop hok
      rw [← hanswer] at hid
      exact ⟨g, hg, mem_append_right _ (mem_map.mpr ⟨_, hid, by rw [hi]⟩)⟩
  · obtain ⟨hmem, hg⟩ := h.started x hx
    exact ⟨hmono _ hmem, hg⟩

lemma Once.stop (h : Once s) (device : Device β) : Once { s.kill with device } := by
  refine h.evolve rfl rfl rfl rfl evolves_stop (fun i g hg ha => ?_) fun _ hx => .inl hx
  obtain ⟨g', -, rfl⟩ := mem_map.mp (mem_of_getElem? hg)
  cases ha

lemma Once.deliver (h : Once s) (jobs : List JobDispatch) :
    Once { s with runs := s.runs ++ jobs.map (⟨·, .received⟩) } := by
  refine h.evolve rfl rfl rfl rfl evolves_append (fun i g hg ha => ?_) fun _ hx => .inl hx
  rw [getElem?_append] at hg
  split at hg
  · exact h.acked i g hg ha
  · obtain ⟨job, -, rfl⟩ := mem_map.mp (mem_of_getElem? hg)
    cases ha

lemma Once.reply (h : Once s) {job : JobDispatch} (hr : (i, r) ∈ s.replies)
    (hg : s.runs[i]? = some ⟨job, .acknowledging⟩) :
    Once (s.setStage i ⟨job, .acknowledging⟩ (acknowledge r)) := by
  refine h.setStage hg (nofun) (fun ha => ?_) _
  obtain ⟨g, hg', hmem⟩ := h.replies _ hr ha
  cases hg.symm.trans hg'
  exact hmem

lemma Once.after (h : Once s) (e : SystemEvent β) : Once (s.after J cfg e) := by
  cases e with
  | serve c => exact h.serve none c nofun
  | arrive k cert env faults =>
    simp only [System.after]
    split
    · exact h
    · next i jobID hk =>
      refine h.serve (some i) _ fun i' hi' => ?_
      cases hi'
      obtain ⟨g, hg, hid⟩ := h.requests _ (mem_of_getElem? hk)
      exact ⟨g, cert, hg, congrArg (Op.acknowledge cert) hid.symm⟩
  | deliver k =>
    simp only [System.after]
    split
    · next resp _ _ _ => exact h.deliver resp.jobs
    · exact h
  | reply k =>
    simp only [System.after]
    split
    · exact h
    · next i r hk =>
      split
      · next job hg => exact h.reply (mem_of_getElem? hk) hg
      · exact h
  | fail i =>
    simp only [System.after]
    split
    · next job hg => exact h.setStage hg (fun _ => rfl) (fun ha => by cases ha) _
    · exact h
  | step i io =>
    simp only [System.after]
    split
    · next g state hg hm => exact h.advance hg io _
    · exact h
  | cdm op io => exact h.evolve rfl rfl rfl rfl (Evolves.refl _) h.acked fun _ hx => .inl hx
  | crash | restart io => exact h.stop _
  | tick now =>
    simp only [System.after]
    split
    · exact h.evolve rfl rfl rfl rfl (Evolves.refl _) h.acked fun _ hx => .inl hx
    · exact h

end

lemma Once.started_nodup {s : System β} (h : Once s) : (s.started.map Prod.snd).Nodup := by
  refine Nodup.map_on (fun x hx y hy he => ?_) h.startedOnce
  have hsame := inj_on_of_nodup_map h.server.nodup (h.started x hx).1 (h.started y hy).1 he
  exact Prod.ext (Option.some.inj (congrArg Prod.fst hsame)) he

/-- **At most once.** In every run of server, network and agent the server answers at most one
acknowledge request for a job with success, and the agent starts the job only after that one. -/
theorem started_at_most_once (J : Json β) (cfg : ServerConfig) (db : Db) (clock : Time)
    (device : Device β) (events : List (SystemEvent β)) (id : String) :
    ((System.run J cfg { db, clock, device } events).accepted.map snd).count id ≤ 1 ∧
      (∀ i, (i, id) ∈ (System.run J cfg { db, clock, device } events).started →
        (some i, id) ∈ (System.run J cfg { db, clock, device } events).accepted) ∧
      ((System.run J cfg { db, clock, device } events).started.map snd).count id ≤ 1 := by
  have h : Once (System.run J cfg { db, clock, device } events) :=
    System.run_invariant J cfg (fun s hs e _ => hs.after e) once_initial
  refine ⟨nodup_iff_count_le_one.mp h.server.nodup id, fun i hi => (h.started _ hi).1, ?_⟩
  exact nodup_iff_count_le_one.mp h.started_nodup id

-- the response with the job arrives twice, and both goroutines ask to acknowledge it
open Sample in
example :
    (system.run Sample.json cfg (handedOut ++ [.deliver 0, .deliver 0, step 0, step 1, arrive 1,
      arrive 0, .reply 0, .reply 1, step 0, step 1, step 0, step 1])).started = [(1, "job_j")] := by
  decide

end Moebius
