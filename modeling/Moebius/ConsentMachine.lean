import Moebius.Cdm
import Mathlib.Order.Basic

/-!
The consent state machine, without files.

Here the state alone says what comes next, what is answered and what is logged. The manager
refines this machine: as long as the state file is written, memory and state file both hold the
machine's state, and where the entries are written too the audit log holds the machine's.
-/

namespace Moebius

namespace Cdm

variable {β : Type}

namespace State

variable (now : Time) (s : State)

def expire : State := if s.expired now then s.clearSession else s

/-- Whether a job may start in a state without expired session. -/
def allows : Bool := !s.enabled || s.sessionActive

def granted (actor : String) (duration : ℤ) (s : State) : State :=
  { s with
    sessionActive := true
    sessionExpiresAt := some (now + duration)
    sessionGrantedBy := actor
    sessionGrantedAt := some now }

def next : Input → State
  | .call (.enable _) => { s with enabled := true }
  | .call (.disable _) => {}
  | .call (.grantSession actor duration) => if s.enabled then s.granted now actor duration else s
  | .call (.revokeSession _) => if s.sessionActive then s.clearSession else s
  | .call .canExecuteJob => s.expire now
  | .call .snapshot => s.expire now
  | .call (.logJobExecution _ _ _) => s
  | .restart => s.expire now

def answer : Input → Answer
  | .call (.enable _) => .result (.ok ())
  | .call (.disable _) => .result (.ok ())
  | .call (.grantSession _ _) => .result (if s.enabled then .ok () else .error "CDM is not enabled")
  | .call (.revokeSession _) =>
    .result (if s.sessionActive then .ok () else .error "no active session to revoke")
  | .call .canExecuteJob => .decision (s.expire now).allows
  | .call .snapshot => .state (s.expire now)
  | .call (.logJobExecution _ _ _) => .nothing
  | .restart => .result (.ok ())

def expiryEntries : List AuditEntry :=
  if s.expired now then [{ action := .sessionExpired, actor := s.sessionGrantedBy }] else []

variable (J : Json β)

/-- What is logged, before the entries get their timestamps. -/
def entries (now : Time) (s : State) : Input → List AuditEntry
  | .call (.enable actor) =>
    if s.enabled then []
    else [{ action := .enable, actor, oldState := "disabled", newState := "enabled" }]
  | .call (.disable actor) =>
    if s.enabled then
      [{ action := .disable, actor, oldState := stateLabel true s.sessionActive
         newState := "disabled" }]
    else []
  | .call (.grantSession actor duration) =>
    if s.enabled then
      [{ action := .sessionGrant, actor, duration := J.duration duration
         expiresAt := some (now + duration) }]
    else []
  | .call (.revokeSession actor) =>
    if s.sessionActive then [{ action := .sessionRevoke, actor }] else []
  | .call .canExecuteJob => s.expiryEntries now
  | .call .snapshot => s.expiryEntries now
  | .call (.logJobExecution jobID jobType actor) =>
    [{ action := .jobExecuted, actor, jobID, jobType }]
  | .restart => s.expiryEntries now

end State

namespace State

variable (J : Json β)

def run (s : State) (events : List (Event β)) : State :=
  events.foldl (fun s e => s.next e.now e.input) s

def history (s : State) : List (Event β) → List (Event β × Answer)
  | [] => []
  | e :: events => (e, s.answer e.now e.input) :: history (s.next e.now e.input) events

def stamped (io : Io β) (entries : List AuditEntry) : List AuditEntry :=
  entries.map fun e => { e with timestamp := io.stamp }

def log (s : State) : List (Event β) → List AuditEntry
  | [] => []
  | e :: events =>
    stamped e.io (s.entries J e.now e.input) ++ log (s.next e.now e.input) events

end State

variable {s : State}

namespace State

/-- A session needs CDM to be on, and has an expiry. -/
structure Wf (s : State) : Prop where
  enabled : s.sessionActive → s.enabled
  expiry : s.sessionExpiresAt.isSome = s.sessionActive

lemma wf_initial : Wf {} := ⟨by simp, rfl⟩

lemma Wf.clearSession : s.clearSession.Wf := ⟨by simp [State.clearSession], rfl⟩

lemma Wf.expire (h : s.Wf) (now : Time) : (s.expire now).Wf := by
  unfold State.expire
  split
  · exact Wf.clearSession
  · exact h

lemma Wf.next (h : s.Wf) (now : Time) (input : Input) : (s.next now input).Wf := by
  rcases input with op | _
  · cases op with
    | enable => exact ⟨fun _ => rfl, h.expiry⟩
    | disable => exact wf_initial
    | grantSession =>
      simp only [State.next]
      split
      · next he => exact ⟨fun _ => he, rfl⟩
      · exact h
    | revokeSession =>
      simp only [State.next]
      split
      · exact Wf.clearSession
      · exact h
    | canExecuteJob | snapshot => exact h.expire now
    | logJobExecution => exact h
  · exact h.expire now

lemma Wf.run (h : s.Wf) (events : List (Event β)) : (s.run events).Wf := by
  induction events generalizing s with
  | nil => exact h
  | cons e events ih => exact ih (h.next e.now e.input)

end State

section

variable (J : Json β)

/-- Every write of the call goes through. -/
structure Io.Ok (io : Io β) : Prop where
  write : io.write = .ok
  append : io.append = .ok

structure Holds (d : Device β) (s : State) : Prop where
  memory : d.memory = some s
  file : Manager.load J d.disk = .ok s

structure Moved (io : Io β) (disk : Disk β) (d : Device β) (s : State)
    (entries : List AuditEntry) : Prop extends Holds J d s where
  log : io.append = .ok →
    d.disk.auditLog.getD [] = disk.auditLog.getD [] ++ J.entry.log (State.stamped io entries)

variable {J} {io : Io β}

variable {m : Manager β} {d : Device β}

lemma moved_self (h : Manager.load J m.disk = .ok m.state) :
    Moved J io m.disk m.device m.state [] :=
  ⟨⟨rfl, h⟩, fun _ => by simp [State.stamped, Manager.device]⟩

lemma persistLocked_ok (hio : io.write = .ok) (m : Manager β) : m.persistLocked J io =
      (.ok (), { m with disk := { m.disk with stateFile := some (J.state.encode m.state) } }) := by
  simp [Manager.persistLocked, hio]

lemma moved_persisted (s : State) (disk : Disk β) :
    Moved J io disk (Manager.device ⟨s, { disk with stateFile := some (J.state.encode s) }⟩) s [] :=
  ⟨⟨rfl, by simp [Manager.device, Manager.load, J.state.decode_encode]⟩,
    fun _ => by simp [State.stamped, Manager.device]⟩

lemma Moved.audit {disk : Disk β} (h : Moved J io disk m.device s [])
    (e : AuditEntry) : Moved J io disk (m.audit J io e).device s [e] := by
  refine ⟨⟨h.memory, h.file⟩, fun hio => ?_⟩
  have hlog : m.disk.auditLog.getD [] = disk.auditLog.getD [] := by
    simpa [State.stamped, Manager.device] using h.log hio
  simp [Manager.device, Manager.audit, AuditLog.write, hio, hlog, State.stamped, LineCodec.log]

@[simp] lemma state_checkExpiryLocked (now : Time) (io : Io β) (m : Manager β) :
    (m.checkExpiryLocked J now io).state = m.state.expire now := by
  unfold Manager.checkExpiryLocked State.expire
  split
  · rcases hw : io.write <;> simp [Manager.persistLocked, Manager.audit, hw]
  · rfl

lemma canExecuteJob_eq (now : Time) (io : Io β) (m : Manager β) :
    (m.canExecuteJob J now io).1 = (m.state.expire now).allows := by
  rw [Manager.canExecuteJob, state_checkExpiryLocked, State.allows]
  rcases (m.state.expire now).enabled <;> rfl

lemma moved_checkExpiryLocked (hio : io.write = .ok) (h : Manager.load J m.disk = .ok m.state)
    (now : Time) : Moved J io m.disk (m.checkExpiryLocked J now io).device (m.state.expire now)
      (m.state.expiryEntries now) := by
  unfold Manager.checkExpiryLocked State.expire State.expiryEntries
  split
  · rw [persistLocked_ok hio]
    exact (moved_persisted _ _).audit _
  · exact moved_self h

/-- One call that writes the state file is one step of the machine. -/
lemma call_refines (hio : io.write = .ok) (h : Manager.load J m.disk = .ok m.state) {now : Time}
    {op : Op} :
    (op.call J now io m).1 = m.state.answer now (.call op) ∧
      Moved J io m.disk (op.call J now io m).2.device (m.state.next now (.call op))
        (m.state.entries J now (.call op)) := by
  cases op with
  | enable actor =>
    simp only [Op.call, Manager.enable, persistLocked_ok hio]
    obtain ⟨⟨enabled, _, _, _, _⟩, disk⟩ := m
    cases enabled
    · exact ⟨rfl, (moved_persisted _ disk).audit _⟩
    · exact ⟨rfl, moved_persisted _ disk⟩
  | disable actor =>
    simp only [Op.call, Manager.disable, persistLocked_ok hio]
    obtain ⟨⟨enabled, _, _, _, _⟩, disk⟩ := m
    cases enabled
    · exact ⟨rfl, moved_persisted _ disk⟩
    · exact ⟨rfl, (moved_persisted _ disk).audit _⟩
  | grantSession actor duration =>
    simp only [Op.call, Manager.grantSession, persistLocked_ok hio]
    obtain ⟨⟨enabled, _, _, _, _⟩, disk⟩ := m
    cases enabled
    · exact ⟨rfl, moved_self h⟩
    · exact ⟨rfl, (moved_persisted _ disk).audit _⟩
  | revokeSession actor =>
    simp only [Op.call, Manager.revokeSession, persistLocked_ok hio]
    obtain ⟨⟨_, active, _, _, _⟩, disk⟩ := m
    cases active
    · exact ⟨rfl, moved_self h⟩
    · exact ⟨rfl, (moved_persisted _ disk).audit _⟩
  | canExecuteJob =>
    exact ⟨congrArg Answer.decision (canExecuteJob_eq now io m), moved_checkExpiryLocked hio h now⟩
  | snapshot =>
    exact ⟨congrArg Answer.state (state_checkExpiryLocked now io m),
      moved_checkExpiryLocked hio h now⟩
  | logJobExecution jobID jobType actor =>
    exact ⟨rfl, (moved_self h).audit _⟩

/-- **The manager refines the machine**, a restart included. -/
theorem step_refines (h : Holds J d s) {e : Event β} (hio : e.io.write = .ok) :
    (d.step J e).1 = s.answer e.now e.input ∧
      Moved J e.io d.disk (d.step J e).2 (s.next e.now e.input) (s.entries J e.now e.input) := by
  obtain ⟨now, input, io⟩ := e
  obtain ⟨disk, memory⟩ := d
  obtain ⟨rfl, hfile⟩ := h
  rcases input with op | _
  · exact call_refines hio (m := ⟨s, disk⟩) hfile
  · have hnew : Manager.new J now io disk = .ok (Manager.checkExpiryLocked J now io ⟨s, disk⟩) := by
      simp [Manager.new, hfile, bind, Except.bind, pure, Except.pure]
    simp only [Device.step, Device.restart, hnew]
    exact ⟨rfl, moved_checkExpiryLocked hio (m := ⟨s, disk⟩) hfile now⟩

lemma holds_fresh (auditLog : Option (List β)) : Holds J (Device.fresh auditLog) {} := ⟨rfl, rfl⟩

theorem run_refines (h : Holds J d s) {events : List (Event β)}
    (hio : ∀ e ∈ events, e.io.write = .ok) :
    Holds J (d.run J events) (s.run events) ∧ d.history J events = s.history events ∧
      ((∀ e ∈ events, e.io.append = .ok) → (d.run J events).disk.auditLog.getD [] =
        d.disk.auditLog.getD [] ++ J.entry.log (s.log J events)) := by
  induction events generalizing d s with
  | nil => exact ⟨h, rfl, fun _ => (List.append_nil _).symm⟩
  | cons e events ih =>
    obtain ⟨hanswer, hmoved⟩ := step_refines h (hio e List.mem_cons_self)
    obtain ⟨hholds, hhistory, hlog⟩ :=
      ih hmoved.toHolds fun x hx => hio x (List.mem_cons_of_mem _ hx)
    refine ⟨hholds, ?_, fun happend => ?_⟩
    · rw [Device.history, State.history, hanswer, hhistory]
    · rw [State.log, LineCodec.log_append, ← List.append_assoc,
        ← hmoved.log (happend e List.mem_cons_self)]
      exact hlog fun x hx => happend x (List.mem_cons_of_mem _ hx)

end

end Cdm

end Moebius
