import Moebius.LineLog
import Moebius.Models

/-!
Customer device mode (CDM): the consent state an agent keeps for its device.

The manager holds the state in memory, writes it to a file after every change and logs every
change in an audit log. A session ends lazily: whoever next looks at the state finds it past its
expiry and clears it. Any write may fail. What a file consists of is left open; JSON is a codec.
-/

namespace Moebius

namespace Cdm

structure State where
  enabled : Bool := false
  sessionActive : Bool := false
  sessionExpiresAt : Option Time := none
  sessionGrantedBy : String := ""
  sessionGrantedAt : Option Time := none
  deriving DecidableEq

/-- The values of an entry's action: `cdm.enable`, `cdm.disable`, `cdm.session.grant`,
`cdm.session.revoke`, `cdm.session.expired` and `cdm.job.executed`. -/
inductive Action
  | enable | disable | sessionGrant | sessionRevoke | sessionExpired | jobExecuted
  deriving DecidableEq

structure AuditEntry where
  timestamp : Time := 0
  action : Action
  actor : String := ""
  oldState : String := ""
  newState : String := ""
  duration : String := ""
  expiresAt : Option Time := none
  jobID : String := ""
  jobType : String := ""
  deriving DecidableEq

/-- How states, log entries and durations are written down. -/
structure Json (β : Type) where
  newline : β
  state : Codec State β
  entry : LineCodec AuditEntry β newline
  duration : ℤ → String

/-- The manager's two files; a file that does not exist is `none`. -/
structure Disk (β : Type) where
  stateFile : Option (List β) := none
  auditLog : Option (List β) := none

/-- How replacing the state file ends. A failed write leaves anything behind. -/
inductive WriteResult (β : Type)
  | ok
  | failed (err : String) (left : Option (List β))

/-- How appending to the audit log ends: not at all when the log cannot be opened, and otherwise
with a part of the data when the write fails. -/
inductive AppendResult (β : Type)
  | ok
  | notOpened
  | failed (written : List β)

/-- What the operating system answers during one call of the manager. -/
structure Io (β : Type) where
  write : WriteResult β := .ok
  append : AppendResult β := .ok
  /-- The clock when an audit entry is written. -/
  stamp : Time

structure Manager (β : Type) where
  state : State := {}
  disk : Disk β := {}

variable {β : Type} (J : Json β)

def AuditLog.write (io : Io β) (e : AuditEntry) (log : Option (List β)) : Option (List β) :=
  let e := { e with timestamp := io.stamp }
  match io.append with
  | .ok => some (log.getD [] ++ J.entry.line e)
  | .notOpened => log
  | .failed written => some (log.getD [] ++ written)

/-- The last `limit` entries, or all if `limit` is not positive, most recent first. -/
def AuditLog.read [DecidableEq β] (limit : ℤ) (log : Option (List β)) : List AuditEntry :=
  match log with
  | none => []
  | some data =>
    let all := J.entry.parse data
    let all :=
      if limit > 0 ∧ (all.length : ℤ) > limit then all.drop (all.length - limit.toNat) else all
    all.reverse

def State.clearSession (s : State) : State :=
  { s with
    sessionActive := false
    sessionExpiresAt := none
    sessionGrantedBy := ""
    sessionGrantedAt := none }

def State.expired (now : Time) (s : State) : Bool :=
  s.sessionActive && s.sessionExpiresAt.any (· < now)

def stateLabel (enabled sessionActive : Bool) : String :=
  if !enabled then "disabled" else if sessionActive then "enabled+session" else "enabled"

namespace Manager

variable (now : Time) (io : Io β) (actor : String) (m : Manager β)

def audit (e : AuditEntry) (m : Manager β) : Manager β :=
  { m with disk := { m.disk with auditLog := AuditLog.write J io e m.disk.auditLog } }

def persistLocked : Except String Unit × Manager β :=
  match io.write with
  | .ok => (.ok (), { m with disk := { m.disk with stateFile := some (J.state.encode m.state) } })
  | .failed err left => (.error err, { m with disk := { m.disk with stateFile := left } })

def checkExpiryLocked : Manager β :=
  if m.state.expired now then
    let grantedBy := m.state.sessionGrantedBy
    let m := (persistLocked J io { m with state := m.state.clearSession }).2
    m.audit J io { action := .sessionExpired, actor := grantedBy }
  else m

/-- What the state file says; without a file CDM is off. -/
def load (disk : Disk β) : Except String State :=
  match disk.stateFile with
  | none => .ok {}
  | some data =>
    match J.state.decode data with
    | none => .error "load CDM state"
    | some s => .ok s

def new (disk : Disk β) : Except String (Manager β) := do
  let state ← load J disk
  return checkExpiryLocked J now io { state, disk }

def enabled : Bool := m.state.enabled

def snapshot : State × Manager β :=
  let m := m.checkExpiryLocked J now io
  (m.state, m)

def enable : Except String Unit × Manager β :=
  let old := m.state.enabled
  let m := { m with state := { m.state with enabled := true } }
  match m.persistLocked J io with
  | (.error err, m) => (.error err, { m with state := { m.state with enabled := old } })
  | (.ok (), m) =>
    (.ok (),
      if !old then
        m.audit J io
          { action := .enable, actor := actor, oldState := "disabled", newState := "enabled" }
      else m)

def disable : Except String Unit × Manager β :=
  let old := m.state.enabled
  let hadSession := m.state.sessionActive
  let m := { m with state := { m.state.clearSession with enabled := false } }
  match m.persistLocked J io with
  | (.error err, m) => (.error err, m)
  | (.ok (), m) =>
    (.ok (),
      if old then
        m.audit J io
          { action := .disable
            actor := actor
            oldState := stateLabel old hadSession
            newState := "disabled" }
      else m)

def grantSession (duration : ℤ) (m : Manager β) : Except String Unit × Manager β :=
  if !m.state.enabled then (.error "CDM is not enabled", m)
  else
    let expires := now + duration
    let m :=
      { m with
        state :=
          { m.state with
            sessionActive := true
            sessionExpiresAt := some expires
            sessionGrantedBy := actor
            sessionGrantedAt := some now } }
    match m.persistLocked J io with
    | (.error err, m) => (.error err, m)
    | (.ok (), m) =>
      (.ok (),
        m.audit J io
          { action := .sessionGrant
            actor := actor
            duration := J.duration duration
            expiresAt := some expires })

def revokeSession : Except String Unit × Manager β :=
  if !m.state.sessionActive then (.error "no active session to revoke", m)
  else
    let m := { m with state := m.state.clearSession }
    match m.persistLocked J io with
    | (.error err, m) => (.error err, m)
    | (.ok (), m) => (.ok (), m.audit J io { action := .sessionRevoke, actor := actor })

def canExecuteJob : Bool × Manager β :=
  let m := m.checkExpiryLocked J now io
  (if !m.state.enabled then true else m.state.sessionActive, m)

def logJobExecution (jobID jobType actor : String) (m : Manager β) : Manager β :=
  m.audit J io { action := .jobExecuted, actor := actor, jobID := jobID, jobType := jobType }

end Manager

/-! ### Runs -/

inductive Op
  | enable (actor : String)
  | disable (actor : String)
  | grantSession (actor : String) (duration : ℤ)
  | revokeSession (actor : String)
  | canExecuteJob
  | snapshot
  | logJobExecution (jobID jobType actor : String)
  deriving DecidableEq

inductive Answer
  | result (r : Except String Unit)
  | decision (allowed : Bool)
  | state (s : State)
  /-- The call returns nothing, or there is no manager to call. -/
  | nothing

def Op.call (now : Time) (io : Io β) (m : Manager β) : Op → Answer × Manager β
  | enable actor => (m.enable J io actor).map .result id
  | disable actor => (m.disable J io actor).map .result id
  | grantSession actor duration => (m.grantSession J now io actor duration).map .result id
  | revokeSession actor => (m.revokeSession J io actor).map .result id
  | canExecuteJob => (m.canExecuteJob J now io).map .decision id
  | snapshot => (m.snapshot J now io).map .state id
  | logJobExecution jobID jobType actor => (.nothing, m.logJobExecution J io jobID jobType actor)

inductive Input
  | call (op : Op)
  | restart
  deriving DecidableEq

structure Event (β : Type) where
  now : Time
  input : Input
  io : Io β

/-- The files of a device, and the manager's memory while its agent is running. -/
structure Device (β : Type) where
  disk : Disk β
  memory : Option State

def Manager.device (m : Manager β) : Device β := ⟨m.disk, some m.state⟩

namespace Device

/-- A device whose agent runs without a state file. -/
def fresh (auditLog : Option (List β)) : Device β := ⟨{ auditLog }, some {}⟩

/-- The agent starts anew from its files; if it cannot load them it stays down. -/
def restart (now : Time) (io : Io β) (d : Device β) : Answer × Device β :=
  match Manager.new J now io d.disk with
  | .ok m => (.result (.ok ()), m.device)
  | .error err => (.result (.error err), { d with memory := none })

def step (e : Event β) (d : Device β) : Answer × Device β :=
  match e.input, d.memory with
  | .restart, _ => d.restart J e.now e.io
  | .call _, none => (.nothing, d)
  | .call op, some state => (op.call J e.now e.io { state, disk := d.disk }).map id Manager.device

def run (d : Device β) (events : List (Event β)) : Device β :=
  events.foldl (fun d e => (d.step J e).2) d

lemma run_snoc (d : Device β) (events : List (Event β)) (e : Event β) :
    d.run J (events ++ [e]) = ((d.run J events).step J e).2 := by
  simp [run]

/-- The events of a run and what each was answered. -/
def history (d : Device β) : List (Event β) → List (Event β × Answer)
  | [] => []
  | e :: events => (e, (d.step J e).1) :: history (d.step J e).2 events

end Device

inductive Sample.Token
  | newline
  | state (s : State)
  | entry (e : AuditEntry)
  deriving DecidableEq

def Sample.json : Json Token where
  newline := .newline
  state :=
    { encode := fun s => [.state s]
      decode := fun data => match data with
        | [.state s] => some s
        | _ => none
      decode_encode := fun _ => rfl }
  entry :=
    { encode := fun e => [.entry e]
      decode := fun data => match data with
        | [.entry e] => some e
        | _ => none
      decode_encode := fun _ => rfl
      sep_notMem := by simp
      encode_ne_nil := by simp }
  duration := fun d => toString d

end Cdm

end Moebius
