import Moebius.Guard
import Moebius.Models
import Moebius.Table

/-!
Published versions and their rollouts.

`GetAgentVersion` scans `changelog` and `yank_reason` into plain strings. A version gets a reason
when it is yanked, so before that it cannot be read: not for its own sake, not by the check for
duplicates, and not when its rollout is to be paused, resumed or aborted. A rollout is checked
first and changed later, by a statement that does not look at its status again.
-/

namespace Moebius.Rollouts

open List Proc Guard

structure VersionRow where
  id : String
  version : String
  channel : String
  changelog : Option String
  yanked : Bool := false
  yankReason : Option String := none
  createdAt : Time

structure Binary where
  os : String
  arch : String
  fileID : String
  sha256 : String
  signature : String
  signatureKeyID : String

structure BinaryRow extends Binary where
  id : String
  agentVersionID : String

structure AgentVersion where
  row : VersionRow
  binaries : List BinaryRow

inductive RolloutStatus
  | inProgress | paused | completed | aborted
  deriving DecidableEq

structure RolloutRow where
  id : String
  agentVersionID : String
  tenantID : String
  status : RolloutStatus

/-- The tables. A foreign key that does not hold is a statement that fails. -/
structure Registry where
  versions : Table VersionRow.id
  binaries : Table BinaryRow.id
  rollouts : Table RolloutRow.id

namespace Registry

variable (s : Registry)

def version? (ver : String) : Option VersionRow := s.versions.rows.find? (·.version = ver)

def insertVersion (row : VersionRow) : Option Registry :=
  if s.version? row.version = none then
    (s.versions.insert row).map fun t => { s with versions := t }
  else none

def insertBinary (row : BinaryRow) : Option Registry :=
  (s.binaries.insert row).map fun t => { s with binaries := t }

def yankAgentVersion (ver reason : String) : Option Registry :=
  if (s.version? ver).isSome then
    some { s with
      versions := s.versions.update
        (fun r => if r.version = ver then { r with yanked := true, yankReason := some reason }
          else r) fun r => by split <;> rfl }
  else none

def updateRolloutStatus (id : String) (status : RolloutStatus) : Option Registry :=
  if (s.rollouts.get? id).isSome then
    some { s with
      rollouts := s.rollouts.update (fun r => if r.id = id then { r with status } else r)
        fun r => by split <;> rfl }
  else none

end Registry

abbrev Answer := Reply (Option AgentVersion)

/-- `NULL` does not scan into a string. -/
def VersionRow.scans (r : VersionRow) : Bool := r.changelog.isSome && r.yankReason.isSome

def getAgentVersion (ver : String) : Proc Registry (Option (Option AgentVersion)) := do
  match ← read (·.version? ver) with
  | none => pure none
  | some none => pure (some none)
  | some (some row) =>
    if row.scans then
      return (← read (·.binaries.select (·.agentVersionID = row.id))).map (some ⟨row, ·⟩)
    else pure none

def get (ver : String) : Proc Registry Answer := do
  match ← getAgentVersion ver with
  | none => pure (.err 500 "failed to get version")
  | some none => pure (.err 404 "version not found")
  | some (some v) => pure (.ok 200 (some v))

structure PublishRequest where
  version : String
  channel : String
  changelog : String
  binaries : List Binary

def PublishRequest.invalid (req : PublishRequest) : Option String :=
  if req.version = "" then some "version is required"
  else if req.channel = "" then some "channel is required"
  else if req.channel ∉ ["stable", "beta", "canary"] then
    some "channel must be stable, beta, or canary"
  else if req.binaries = [] then some "at least one binary is required"
  else if ∃ b ∈ req.binaries,
      "" ∈ [b.os, b.arch, b.fileID, b.sha256, b.signature, b.signatureKeyID] then
    some "each binary requires os, arch, file_id, sha256, signature, and signature_key_id"
  else none

/-- What a publication meets; `faults` are the statements of its transaction that fail. -/
structure World where
  now : Time
  versionID : String
  binaryID : ℕ → String
  faults : List Bool

variable (w : World) (req : PublishRequest)

def World.version : AgentVersion where
  row :=
    { id := w.versionID, version := req.version, channel := req.channel
      changelog := some req.changelog, createdAt := w.now }
  binaries := req.binaries.mapIdx fun i b =>
    { b with id := w.binaryID i, agentVersionID := w.versionID }

def createAgentVersion (v : AgentVersion) : Proc Registry (Except Unit Unit) := do
  if ← attempt (·.insertVersion v.row) then
    match ← loop (fun _ b => do
      if ← attempt (·.insertBinary b) then pure (.ok ()) else pure (.error ())) v.binaries () with
    | .error _ => pure (.error ())
    | .ok _ => if ← commit then pure (.ok ()) else pure (.error ())
  else pure (.error ())

/-- `AgentVersionsHandler.Create`. -/
def publish (body : Option PublishRequest) : Proc Registry Answer :=
  match body with
  | none => pure (.err 400 "invalid request body")
  | some req =>
    match req.invalid with
    | some message => pure (.err 400 message)
    | none => do
      match ← getAgentVersion req.version with
      | none => pure (.err 500 "failed to check version")
      | some (some _) => pure (.error 409 "version_exists" "version already exists")
      | some none =>
        match ← transaction w.faults (createAgentVersion (w.version req)) () with
        | .error _ => pure (.err 500 "failed to publish version")
        | .ok _ => pure (.ok 201 (some (w.version req)))

def yank (ver : String) (body : Option String) : Proc Registry Answer :=
  match body with
  | none => pure (.err 400 "invalid request body")
  | some reason => do
    if ← attempt (·.yankAgentVersion ver reason) then pure (.ok 204 none)
    else pure (.err 404 "version not found")

inductive Change
  | pause | resume | abort

namespace Change

def newStatus : Change → RolloutStatus
  | pause => .paused
  | resume => .inProgress
  | abort => .aborted

/-- The error for a rollout that stands elsewhere. -/
def refuses : Change → RolloutStatus → Option String
  | pause, st => if st = .inProgress then none else some "can only pause an in-progress rollout"
  | resume, st => if st = .paused then none else some "can only resume a paused rollout"
  | abort, st => if st = .inProgress ∨ st = .paused then none
    else some "can only abort an active or paused rollout"

variable (c : Change)

/-- `updateRolloutStatus` of the handler, up to the update. -/
def check (tenantID ver : String) : Proc Registry (Except Answer RolloutRow) := do
  match ← getAgentVersion ver with
  | none => pure (.error (.err 500 "failed to look up version"))
  | some none => pure (.error (.err 404 "version not found"))
  | some (some v) =>
    match ← read (·.rollouts.rows.find? fun r =>
      r.agentVersionID = v.row.id ∧ r.tenantID = tenantID) with
    | none => pure (.error (.err 500 "failed to get rollout"))
    | some none => pure (.error (.err 404 "no rollout found for this version"))
    | some (some r) =>
      match c.refuses r.status with
      | some message => pure (.error (.error 409 "invalid_state" message))
      | none => pure (.ok r)

def act (r : RolloutRow) : Proc Registry Answer := do
  if ← attempt (·.updateRolloutStatus r.id c.newStatus) then pure (.ok 204 none)
  else pure (.err 500 "failed to update rollout")

end Change

inductive Request
  | publish (w : World) (body : Option PublishRequest)
  | yank (ver : String) (body : Option String)
  | change (c : Change) (tenantID ver : String)

/-- Only a change acts on what it has found. -/
def Request.task : Request → Task Registry RolloutRow Answer
  | publish w body => plain (Rollouts.publish w body)
  | yank ver body => plain (Rollouts.yank ver body)
  | change c tenantID ver => { check := c.check tenantID ver, act := c.act }
where
  plain (p : Proc Registry Answer) : Task Registry RolloutRow Answer :=
    { check := do return .error (← p), act := fun _ => pure (.err 500 "") }

/-- What one statement of a check does. -/
inductive Step (s : Registry) : Registry → Prop
  | none : Step s s
  | publish {t : Registry} (w : World) (req : PublishRequest)
      (hrows : t.versions.rows = s.versions.rows ++ [(w.version req).row])
      (hrollouts : t.rollouts = s.rollouts) : Step s t
  | yank {t : Registry} (ver reason : String) (h : s.yankAgentVersion ver reason = some t) :
      Step s t

variable {s t : Registry} {ver tenantID x : String} {r : RolloutRow} {c : Change}
  {F : Registry → Prop} {P : RolloutRow → Prop}

lemma readOnly_getAgentVersion : (getAgentVersion ver).ReadOnly := by
  refine readOnly_bind (readOnly_read _) fun o => ?_
  rcases o with _ | _ | row
  · trivial
  · trivial
  · dsimp only
    split
    · exact readOnly_bind (readOnly_read _) fun _ => trivial
    · trivial

lemma readOnly_check : (c.check tenantID ver).ReadOnly := by
  refine readOnly_bind readOnly_getAgentVersion fun o => ?_
  rcases o with _ | _ | v
  · trivial
  · trivial
  · refine readOnly_bind (readOnly_read _) fun o => ?_
    rcases o with _ | _ | r
    · trivial
    · trivial
    · dsimp only
      split <;> trivial

lemma step_createAgentVersion {fs : List Bool} {u : Unit}
    (h : (createAgentVersion (w.version req)).run fs s = (.ok u, t)) : Step s t := by
  have hwp : (createAgentVersion (w.version req)).wp (fun _ _ => True) (fun r t => r = .ok () →
      t.versions.rows = s.versions.rows ++ [(w.version req).row] ∧ t.rollouts = s.rollouts) s := by
    rw [createAgentVersion, bind_eq, wp_bind]
    refine wp_attempt _ _ trivial (by simp) fun s' hs' => ⟨trivial, ?_⟩
    obtain ⟨-, t', ht', rfl⟩ := eq_some_of_guard hs'
    rw [if_pos rfl, bind_eq, wp_bind]
    refine wp_loop (fun _ _ u => u.versions = t' ∧ u.rollouts = s.rollouts) (fun _ _ => True)
      (fun b bs _ s₁ h₁ => ?_) (fun _ s₁ h₁ => ?_) (fun _ _ _ => by simp) ⟨rfl, rfl⟩
    · rw [bind_eq, wp_bind]
      refine wp_attempt _ _ trivial trivial fun s₂ hs₂ => ⟨trivial, ?_⟩
      obtain ⟨_, -, rfl⟩ := Option.map_eq_some_iff.mp hs₂
      exact h₁
    · simp [commit, h₁.1, h₁.2, Table.rows_of_insert ht']
  have h' := wp_run hwp fs
  rw [h] at h'
  exact .publish w req (h' rfl).1 (h' rfl).2

lemma each_check (r : Request) : r.task.check.Each Step := by
  cases r with
  | publish w body =>
    refine each_bind ?_ fun _ => trivial
    unfold publish
    rcases body with _ | req
    · trivial
    dsimp only
    split
    · trivial
    refine each_bind (each_of_readOnly readOnly_getAgentVersion fun _ => .none) fun o => ?_
    rcases o with _ | _ | v
    · trivial
    · refine each_bind (each_transaction (fun _ => .none) fun s u t h => ?_) fun x => ?_
      · exact step_createAgentVersion w req h
      · cases x <;> trivial
    · trivial
  | yank ver body =>
    refine each_bind ?_ fun _ => trivial
    rcases body with _ | reason
    · trivial
    · refine each_bind (each_attempt (fun _ => .none) fun s t h => .yank ver reason h) fun b => ?_
      cases b <;> trivial
  | change c tenantID ver => exact each_of_readOnly readOnly_check fun _ => .none

lemma doneIn_error (a : Answer) : DoneIn (fun y => ∀ r, y = .ok r → P r)
    (done (.error a) : Proc Registry (Except Answer RolloutRow)) := by
  intro y hy r hr
  cases hy
  cases hr

lemma observed (hstep : ∀ a b, Step a b → Keeps F a b)
    (hclear : ∀ c tenantID ver, (Change.check c tenantID ver).Answers F fun x =>
      ∀ r, x = .ok r → (c.act r).Each (Keeps F)) : Observed F Request.task := by
  refine ⟨fun r => each_mono hstep (each_check r), fun r => ?_, fun r => ?_, fun r g => ?_⟩
  · cases r with
    | change c tenantID ver => exact hclear c tenantID ver
    | _ => exact answers_bind (answers_of_forall doneIn_error _) fun _ => trivial
  · cases r with
    | change c tenantID ver => exact doneIn_stmt _ _ _
    | _ => exact doneIn_bind fun a _ => doneIn_error a
  · cases r with
    | change c tenantID ver =>
      refine ⟨fun s => each_bind trivial fun b => ?_, trivial⟩
      cases b <;> trivial
    | _ => trivial

lemma each_act (h : ∀ a b, a.updateRolloutStatus r.id c.newStatus = some b → Keeps F a b) :
    (c.act r).Each (Keeps F) := by
  refine each_bind (each_attempt (fun _ => id) h) fun b => ?_
  cases b <;> trivial

lemma allCalm_run (h : Observed F Request.task) (acts : List (Action Request)) :
    AllCalm F Request.task (Pool.run Request.task ⟨s, []⟩ acts) :=
  acts.foldlRecOn _ (fun _ h => absurd h not_mem_nil) fun _ hs a _ => allCalm_after h hs a

/-! ### Versions -/

/-- A version has a reason if it has been yanked, and a changelog in any case. -/
def Published (s : Registry) : Prop :=
  ∀ r ∈ s.versions.rows, r.changelog.isSome ∧ r.yankReason.isSome = r.yanked

lemma published_step (h : Step s t) : Keeps Published s t := by
  intro hs
  cases h with
  | none => exact hs
  | publish w req hrows =>
    intro r hr
    rw [hrows, mem_append, mem_singleton] at hr
    rcases hr with hr | rfl
    · exact hs r hr
    · exact ⟨rfl, rfl⟩
  | yank ver reason h =>
    obtain ⟨-, h⟩ := Option.ite_none_right_eq_some.mp h
    cases h
    intro r hr
    obtain ⟨r', hr', rfl⟩ := mem_map.mp hr
    split
    · exact ⟨(hs r' hr').1, rfl⟩
    · exact hs r' hr'

lemma observed_published : Observed Published Request.task :=
  observed (fun _ _ => published_step) fun c _ _ => answers_of_forall (fun x r _ => each_act
    fun a b h hs => by
      obtain ⟨-, h⟩ := Option.ite_none_right_eq_some.mp h
      cases h
      exact hs) _

lemma Published.scans_eq (hs : Published s) {row : VersionRow} (hrow : s.version? ver = some row) :
    row.scans = row.yanked := by
  obtain ⟨hlog, hreason⟩ := hs row (mem_of_find?_eq_some hrow)
  rw [VersionRow.scans, hlog, hreason, Bool.true_and]

lemma wp_getAgentVersion (hs : Published s) (hnot : (s.version? ver).map (·.yanked) ≠ some true) :
    (getAgentVersion ver).wp (fun _ _ => True) (fun o t => t = s ∧ ∀ v, o ≠ some (some v)) s := by
  rw [getAgentVersion, bind_eq, wp_bind, wp_read]
  refine ⟨⟨trivial, ?_⟩, rfl, by simp⟩
  rcases hrow : s.version? ver with _ | row
  · exact ⟨rfl, by simp⟩
  · rw [hrow] at hnot
    have hy : row.yanked = false := by simpa using hnot
    simp [hs.scans_eq hrow, hy]

/-- **Only a yanked version can be read.** However publications, yanks and changes of rollouts
interleave and fail, from tables without versions on: a version that is there is found exactly if it
has been yanked, and until then nobody can pause, resume or abort its rollout. -/
theorem readable_iff_yanked (rollouts : Table RolloutRow.id) (acts : List (Action Request))
    (ver : String) :
    let s := (Pool.run Request.task ⟨⟨.empty, .empty, rollouts⟩, []⟩ acts).state
    ((get ver).run [] s).1.status = (match (s.version? ver).map (·.yanked) with
      | none => 404
      | some false => 500
      | some true => 200) ∧
    ∀ c tenantID fs, (s.version? ver).map (·.yanked) ≠ some true →
      ((Request.change c tenantID ver).task.whole.run fs s).2 = s := by
  intro s
  have hs : Published s := (safe_run observed_published (fun _ h => absurd h not_mem_nil)
    ⟨fun _ h => absurd h not_mem_nil, fun _ h => absurd h not_mem_nil⟩ acts).1
  constructor
  · rcases hrow : s.version? ver with _ | row
    · simp [get, getAgentVersion, run_nil_bind, hrow, Reply.err, Reply.status]
    · rcases hy : row.yanked <;>
        simp [get, getAgentVersion, run_nil_bind, hrow, hs.scans_eq hrow, hy, Reply.err,
          Reply.status]
  · intro c tenantID fs hnot
    have hwp : (Request.change c tenantID ver).task.whole.wp (fun _ _ => True) (fun _ t => t = s)
        s := by
      simp only [Task.whole, Request.task, Change.check, bind_eq, wp_bind]
      refine wp_post (fun o t ho => ?_) (wp_getAgentVersion hs hnot)
      rcases o with _ | _ | v
      · exact ho.1
      · exact ho.1
      · exact absurd rfl (ho.2 v)
    exact wp_run hwp fs

/-! ### Rollouts -/

def Aborted (x : String) (s : Registry) : Prop :=
  (s.rollouts.get? x).map (·.status) = some .aborted

lemma aborted_step (h : Step s t) : Keeps (Aborted x) s t := by
  intro hs
  cases h with
  | none => exact hs
  | publish w req _ hrollouts => rwa [Aborted, hrollouts]
  | yank ver reason h =>
    obtain ⟨-, h⟩ := Option.ite_none_right_eq_some.mp h
    cases h
    exact hs

lemma status_of_update {st : RolloutStatus} (h : s.updateRolloutStatus r.id st = some t) :
    (t.rollouts.get? x).map (·.status) =
      if r.id = x then some st else (s.rollouts.get? x).map (·.status) := by
  obtain ⟨hsome, h⟩ := Option.ite_none_right_eq_some.mp h
  cases h
  rw [Table.get?_update]
  rcases hr' : s.rollouts.get? x with _ | r'
  · rw [if_neg fun hx => by simp [hx, hr'] at hsome]
    rfl
  · simp only [Option.map_some, Table.key_of_get? hr', eq_comm (a := x)]
    split <;> rfl

lemma each_act_aborted (h : r.id = x → c = .abort) : (c.act r).Each (Keeps (Aborted x)) := by
  refine each_act fun a b hb ha => ?_
  rw [Aborted, status_of_update hb]
  split
  · rw [h (by assumption)]
    rfl
  · exact ha

lemma observed_aborted : Observed (Aborted x) Request.task := by
  refine observed (fun _ _ => aborted_step) fun c tenantID ver => ?_
  refine answers_bind (answers_of_forall (fun o => ?_) _) fun o => ?_
  · rcases o with _ | _ | v
    · exact doneIn_error _
    · exact doneIn_error _
    · exact doneIn_stmt _ _ _
  · rcases o with _ | _ | v
    · trivial
    · trivial
    · refine answers_bind (answers_read (fun s hs => ?_) (doneIn_error _)) fun o => ?_
      · rcases hr : s.rollouts.rows.find? _ with _ | r
        · exact doneIn_error _
        dsimp only
        split
        · exact doneIn_error _
        · rename_i hrefuses
          intro y hy r' hr'
          cases hy
          cases hr'
          refine each_act_aborted fun hx => ?_
          subst hx
          rw [Aborted, Table.get?_of_mem (mem_of_find?_eq_some hr)] at hs
          have hstatus : r.status = .aborted := Option.some.inj hs
          rw [hstatus] at hrefuses
          cases c <;> cases hrefuses
      · rcases o with _ | _ | r
        · trivial
        · trivial
        · dsimp only
          split <;> trivial

/-- The task is past its check, and is about to pause or resume the rollout. -/
def Pending (x : String) (t : Request × Stage Registry RolloutRow Answer) : Prop :=
  ∃ c tenantID ver r, t = (.change c tenantID ver, .acting r (c.act r)) ∧ r.id = x ∧ c ≠ .abort

/-- **An aborted rollout stays aborted**, whatever comes, exactly if no request to pause or resume
it has passed its check by then. -/
theorem aborted_for_good_iff (s₀ : Registry) (acts : List (Action Request)) (x : String)
    (h : Aborted x (Pool.run Request.task ⟨s₀, []⟩ acts).state) :
    let s := Pool.run Request.task ⟨s₀, []⟩ acts
    (∀ acts', Aborted x (s.run Request.task acts').state) ↔ ∀ t ∈ s.threads, ¬ Pending x t := by
  intro s
  have hcalm : AllCalm (Aborted x) Request.task s := allCalm_run observed_aborted acts
  constructor
  · rintro hall t ht ⟨c, tenantID, ver, r, rfl, rfl, hc⟩
    obtain ⟨i, hi⟩ := getElem?_of_mem ht
    have hstep : Aborted r.id (s.after Request.task (.step i false)).state := hall [.step i false]
    rw [Pool.state_after_step Request.task false hi] at hstep
    change Aborted r.id ((s.state.updateRolloutStatus r.id c.newStatus).getD s.state) at hstep
    obtain ⟨t, ht⟩ : ∃ t, s.state.updateRolloutStatus r.id c.newStatus = some t := by
      obtain ⟨row, hrow, -⟩ := Option.map_eq_some_iff.mp h
      exact ⟨_, if_pos (by rw [hrow]; rfl)⟩
    rw [ht, Option.getD_some, Aborted, status_of_update ht, if_pos rfl] at hstep
    cases c
    · cases hstep
    · cases hstep
    · exact hc rfl
  · intro hpending acts'
    refine (safe_run observed_aborted hcalm ⟨h, fun t ht ho => ?_⟩ acts').1
    have huntouched := untouched_of_outstanding (hcalm t ht) ho
    obtain ⟨q, p | ⟨r, p⟩ | a⟩ := t
    · exact ho
    · obtain rfl : p = q.task.act r := huntouched
      cases q with
      | change c tenantID ver =>
        refine hpending _ ht ⟨c, tenantID, ver, r, rfl, ?_⟩
        by_contra hnot
        exact ho (each_act_aborted fun hx => by_contra fun hc => hnot ⟨hx, hc⟩)
      | _ => exact ho trivial
    · exact ho

namespace Sample

def registry : Registry where
  versions := ⟨[{
    id := "v", version := "1.0.0", channel := "stable", changelog := some "", yanked := true
    yankReason := some "", createdAt := 0 }], by decide⟩
  binaries := .empty
  rollouts := ⟨[⟨"r", "v", "t", .inProgress⟩], by decide⟩

def request (c : Change) (i : ℕ) : List (Action Request) :=
  .spawn (.change c "t" "1.0.0") :: replicate 5 (.step i false)

end Sample

open Sample in
theorem abort_stands : Aborted "r" ((Pool.run Request.task ⟨registry, []⟩ (request .abort 0)).run
    Request.task (request .resume 1)).state := by
  refine (aborted_for_good_iff registry (request .abort 0) "r" rfl).mpr ?_ _
  change ∀ t ∈ [(_, Stage.finished _)], _
  rintro t ht ⟨c, tenantID, ver, r, rfl, -⟩
  cases mem_singleton.mp ht

end Moebius.Rollouts
