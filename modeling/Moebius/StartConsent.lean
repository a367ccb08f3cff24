import Moebius.Agent
import Moebius.ConsentMachine
import Moebius.Runs

/-!
Consent when a job starts.

A goroutine asks for consent at the gate, then waits for the server, and starts the payload without
asking again. Whatever takes the consent away in between goes unnoticed.
-/

namespace Moebius

variable {β : Type}

namespace Cdm

/-- CDM is off, or a session is active that has not expired. -/
def State.consents (now : Time) (s : State) : Bool :=
  !s.enabled || s.sessionActive && !s.expired now

/-- Calls that take away the consent the state gives. -/
def Op.withdraws (s : State) : Op → Bool
  | .enable _ => !s.enabled
  | .grantSession _ duration => s.enabled && decide (duration < 0)
  | .revokeSession _ => s.enabled && s.sessionActive
  | .disable _ | .canExecuteJob | .snapshot | .logJobExecution _ _ _ => false

variable {s : State} {now : Time}

lemma consents_expire : (s.expire now).consents now = s.consents now := by
  rcases hexp : s.expired now
  · simp [State.expire, hexp]
  · simp [State.expire, hexp, State.consents, State.clearSession]

lemma allows_expire : (s.expire now).allows = s.consents now := by
  rcases hexp : s.expired now
  · simp [State.expire, hexp, State.consents, State.allows]
  · simp [State.expire, hexp, State.consents, State.allows, State.clearSession]

section

variable (J : Json β) (io : Io β) {m : Manager β} (actor : String)

lemma state_enable (h : m.state.enabled) : (m.enable J io actor).2.state = m.state := by
  have hkept : { m.state with enabled := true } = m.state := by rw [← h]
  rcases hw : io.write <;> simp [Manager.enable, Manager.persistLocked, hw, hkept, h]

lemma enabled_disable (m : Manager β) (actor : String) :
    (m.disable J io actor).2.state.enabled = false := by
  rcases hw : io.write <;> rcases hen : m.state.enabled <;>
    simp [Manager.disable, Manager.persistLocked, Manager.audit, hw, hen]

lemma state_grantSession {duration : ℤ} : (m.grantSession J now io actor duration).2.state =
      if m.state.enabled then m.state.granted now actor duration else m.state := by
  rcases hen : m.state.enabled
  · simp [Manager.grantSession, hen]
  · rcases hw : io.write <;>
      simp [Manager.grantSession, Manager.persistLocked, Manager.audit, hw, hen, State.granted]

lemma state_revokeSession : (m.revokeSession J io actor).2.state =
      if m.state.sessionActive then m.state.clearSession else m.state := by
  rcases hact : m.state.sessionActive
  · simp [Manager.revokeSession, hact]
  · rcases hw : io.write <;>
      simp [Manager.revokeSession, Manager.persistLocked, Manager.audit, hw, hact]

lemma consents_call {op : Op} (h : m.state.consents now) (hop : op.withdraws m.state = false) :
    (op.call J now io m).2.state.consents now := by
  cases op with
  | enable actor =>
    have hen : m.state.enabled := by simpa [Op.withdraws] using hop
    have hstate := state_enable J io actor hen
    simpa [Op.call, hstate] using h
  | disable actor =>
    have hen := enabled_disable J io m actor
    simp [Op.call, State.consents, hen]
  | grantSession actor duration =>
    simp only [Op.call, Prod.map, id, state_grantSession]
    split
    · next hen =>
      have hd : ¬ duration < 0 := by simpa [Op.withdraws, hen] using hop
      have hle : now ≤ now + duration := by unfold Time at *; omega
      have hexp : (m.state.granted now actor duration).expired now = false :=
        decide_eq_false (Int.not_lt.mpr hle)
      rw [State.consents, hexp]
      simp [State.granted]
    · exact h
  | revokeSession actor =>
    simp only [Op.call, Prod.map, id, state_revokeSession]
    split
    · next hact =>
      have hoff : m.state.enabled = false := by simpa [Op.withdraws, hact] using hop
      simp [State.consents, State.clearSession, hoff]
    · exact h
  | canExecuteJob =>
    simpa [Op.call, Manager.canExecuteJob, consents_expire] using h
  | snapshot =>
    simpa [Op.call, Manager.snapshot, consents_expire] using h
  | logJobExecution => exact h

end

end Cdm

/-! ### The system -/

/-- The gate has let the goroutine through, and the payload has not been started. -/
def JobStage.pending : JobStage → Bool
  | acknowledging | acknowledged | enabled | logging _ | ready => true
  | received | executing | stopped => false

namespace System

variable (J : Cdm.Json β) (cfg : ServerConfig) (s : System β)

/-- The agent runs, and its device consents. -/
def consents : Bool := s.device.memory.any (·.consents s.clock)

def starts : SystemEvent β → Bool
  | .step i _ => s.device.memory.isSome && s.runs[i]?.any (·.stage == .ready)
  | _ => false

/-- Some goroutine is between the gate and the start of its payload. -/
def pending : Bool := s.runs.any (·.stage.pending)

/-- A local user takes the consent away, or the session runs out. -/
def withdraws (e : SystemEvent β) : Bool :=
  s.device.memory.any fun state =>
    match e with
    | .cdm op _ => op.withdraws state
    | .tick now => state.enabled && state.expired now
    | _ => false

/-- Every payload of the run is started with consent. -/
abbrev ConsentAtStart (events : List (SystemEvent β)) : Prop :=
  Along (System.after J cfg) (fun s e => s.starts e → s.consents) events s

/-- Nothing takes consent away while a goroutine is between the gate and the start. -/
abbrev Undisturbed (events : List (SystemEvent β)) : Prop :=
  Along (System.after J cfg) (fun s e => s.pending → s.withdraws e = false) events s

end System

section

variable {J : Cdm.Json β} {cfg : ServerConfig} {s s' : System β}

def Covered (s : System β) : Prop := s.pending → s.consents

lemma Covered.keep (h : Covered s) (hdevice : s'.device = s.device) (hclock : s'.clock = s.clock)
    (hruns : s'.pending → s.pending) : Covered s' := by
  intro hp
  have hc := h (hruns hp)
  unfold System.consents at hc ⊢
  rw [hdevice, hclock]
  exact hc

variable {i : ℕ} {g : JobRun} {state : Cdm.State} {e : SystemEvent β}

lemma pending_of_set {stage : JobStage} (hg : s.runs[i]? = some g)
    (hstage : stage.pending → g.stage.pending) (h : (s.setStage i g stage).pending) :
    s.pending := by
  simp only [System.pending, List.any_eq_true] at h ⊢
  obtain ⟨g', hmem, hp⟩ := h
  rcases List.mem_or_eq_of_mem_set hmem with hmem | rfl
  · exact ⟨g', hmem, hp⟩
  · exact ⟨g, List.mem_of_getElem? hg, hstage hp⟩

lemma pending_of_mem (hg : s.runs[i]? = some g) (hp : g.stage.pending) : s.pending := by
  simp only [System.pending, List.any_eq_true]
  exact ⟨g, List.mem_of_getElem? hg, hp⟩

variable {m : Cdm.Manager β}

lemma state_runJob {now : Time} {io : Cdm.Io β} : (Executor.runJob J now io m g).2.state = m.state ∨
      (Executor.runJob J now io m g).2.state = m.state.expire now := by
  unfold Executor.runJob
  rcases g.stage <;> simp [Cdm.Manager.canExecuteJob, Cdm.Manager.snapshot,
    Cdm.Manager.logJobExecution, Cdm.Manager.audit]

lemma consents_of_runJob {now : Time} {io : Cdm.Io β}
    (h : (Executor.runJob J now io m g).1.pending) :
    g.stage.pending ∨ m.state.consents now := by
  rcases hs : g.stage
  case received =>
    right
    simp only [Executor.runJob, hs, Cdm.canExecuteJob_eq, Cdm.allows_expire] at h
    by_contra hc
    simp [hc, JobStage.pending] at h
  all_goals simp [Executor.runJob, hs, JobStage.pending] at h ⊢

lemma consents_eq (hm : s.device.memory = some state) : s.consents = state.consents s.clock := by
  rw [System.consents, hm, Option.any_some]

lemma Covered.advance (h : Covered s) (hg : s.runs[i]? = some g) (hm : s.device.memory = some state)
    (io : Cdm.Io β) :
    Covered (s.advance J i g io { state, disk := s.device.disk }) := by
  set m : Cdm.Manager β := { state, disk := s.device.disk }
  set next := Executor.runJob J s.clock io m g with hnext
  have hpending : (s.advance J i g io m).pending = (s.setStage i g next.1).pending := by
    unfold System.advance
    dsimp only
    split <;> rfl
  have hconsents : (s.advance J i g io m).consents = next.2.state.consents s.clock := by
    unfold System.advance
    dsimp only
    split <;> rfl
  intro hp
  rw [hpending] at hp
  -- either some goroutine was past the gate before, or this one has just been let through
  have hbefore : state.consents s.clock := by
    by_cases hq : s.pending
    · rw [← consents_eq hm]
      exact h hq
    · by_contra hc
      refine hq (pending_of_set hg (fun hstage => ?_) hp)
      exact (consents_of_runJob hstage).resolve_right hc
  rw [hconsents]
  rcases state_runJob with hs | hs
  · rw [hnext, hs]
    exact hbefore
  · rw [hnext, hs, Cdm.consents_expire]
    exact hbefore

lemma covered_kill {device : Cdm.Device β} : Covered { s.kill with device } := by
  intro hp
  simp [System.pending, System.kill, JobStage.pending] at hp

lemma Covered.cdm (h : Covered s) {op : Cdm.Op} {io : Cdm.Io β}
    (he : s.pending → s.withdraws (.cdm op io) = false) :
    Covered { s with device := (s.device.step J ⟨s.clock, .call op, io⟩).2 } := by
  intro hp
  have hc := h hp
  have hop := he hp
  rcases hm : s.device.memory with _ | state
  · simp [System.consents, hm] at hc
  · rw [consents_eq hm] at hc
    rw [System.withdraws, hm, Option.any_some] at hop
    have hafter := Cdm.consents_call J io (m := { state, disk := s.device.disk }) hc hop
    simpa [System.consents, Cdm.Device.step, hm, Cdm.Manager.device] using hafter

lemma Covered.tick (h : Covered s) {now : Time}
    (he : s.pending → s.withdraws (.tick now) = false) : Covered { s with clock := now } := by
  intro hp
  have hc := h hp
  have hnow := he hp
  rcases hm : s.device.memory with _ | state
  · simp [System.consents, hm] at hc
  · rw [consents_eq hm, Cdm.State.consents] at hc
    simp only [System.withdraws, hm, Option.any_some] at hnow
    simp only [System.consents, hm, Option.any_some, Cdm.State.consents]
    rcases hen : state.enabled
    · rfl
    · rw [hen, Bool.true_and] at hnow
      rw [hen, Bool.not_true, Bool.false_or, Bool.and_eq_true] at hc
      simp [hc.1, hnow]

/-- **One event** that takes no consent away from a goroutine past the gate. -/
lemma Covered.after (h : Covered s) (he : s.pending → s.withdraws e = false) :
    Covered (s.after J cfg e) := by
  cases e with
  | serve c => exact h.keep rfl rfl fun hp => hp
  | arrive k cert env faults =>
    simp only [System.after]
    split
    · exact h
    · exact h.keep rfl rfl fun hp => hp
  | deliver k =>
    simp only [System.after]
    split
    · exact h.keep rfl rfl fun hp => by simpa [System.pending, JobStage.pending] using hp
    · exact h
  | reply k =>
    simp only [System.after]
    split
    · exact h
    · split
      · next hg => exact h.keep rfl rfl fun hp => pending_of_set hg (fun _ => rfl) hp
      · exact h
  | fail i =>
    simp only [System.after]
    split
    · next hg => exact h.keep rfl rfl fun hp => pending_of_set hg (fun _ => rfl) hp
    · exact h
  | step i io =>
    simp only [System.after]
    split
    · next g state hg hm => exact h.advance hg hm io
    · exact h
  | cdm op io => exact h.cdm he
  | crash | restart io => exact covered_kill
  | tick now =>
    simp only [System.after]
    split
    · exact h.tick he
    · exact h

lemma pending_of_starts (h : s.starts e) : s.pending := by
  rcases e with _ | _ | _ | _ | _ | ⟨i, io⟩ | _ | _ | _ | _ <;> try cases h
  simp only [System.starts, Bool.and_eq_true, Option.any_eq_true, beq_iff_eq] at h
  obtain ⟨-, g, hg, hready⟩ := h
  exact pending_of_mem hg (by rw [hready]; rfl)

end

/-- **Consent at the start.** In every run, from any state of server and device, in which nothing
takes consent away while a goroutine is between the gate and the start of its payload, every
payload is started with consent. -/
theorem consentAtStart_of_undisturbed {β : Type} (J : Cdm.Json β) (cfg : ServerConfig) (db : Db)
    (clock : Time) (device : Cdm.Device β) (events : List (SystemEvent β))
    (h : System.Undisturbed J cfg { db, clock, device } events) :
    System.ConsentAtStart J cfg { db, clock, device } events := by
  have hcovered : Covered { db, clock, device : System β } := nofun
  exact h.imp_of_invariant (fun _ _ he hs => hs.after he)
    (fun _ _ _ hs hstart => hs (pending_of_starts hstart)) hcovered

namespace Sample

open Cdm.Sample

def userCall (op : Cdm.Op) : SystemEvent Token := .cdm op { stamp := 0 }

/-- CDM is on, a session is granted, and a goroutine with a job passes the gate. -/
def letThrough : List (SystemEvent Token) :=
  [userCall (.enable "alice"), userCall (.grantSession "alice" 100)] ++ handedOut ++
    [.deliver 0, step 0]

def goOn : List (SystemEvent Token) := [arrive 0, .reply 0, step 0, step 0, step 0, step 0]

end Sample

open Sample in
theorem letThrough_consentAtStart :
    (system.run Cdm.Sample.json cfg (letThrough ++ goOn)).started = [(0, "job_j")] ∧
      system.ConsentAtStart Cdm.Sample.json cfg (letThrough ++ goOn) :=
  ⟨by decide, consentAtStart_of_undisturbed _ _ _ _ _ _ (by decide)⟩

open Sample in
/-- The session is revoked while the goroutine waits for the server. -/
theorem revoked_job_starts : ¬ system.ConsentAtStart Cdm.Sample.json cfg
      (letThrough ++ [userCall (.revokeSession "alice")] ++ goOn) := by
  decide

end Moebius
