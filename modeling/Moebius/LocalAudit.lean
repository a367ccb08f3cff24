import Moebius.Cdm

/-!
The agent's two local audit logs.

One covers everything that happens at the agent's local interfaces, the other the consent state
alone. Both are files to which entries are appended, one line each, and both are read the same way:
the lines that decode, the last ones of them, the last one first.
-/

namespace Moebius

open Cdm.AuditLog List

variable {α β : Type} {newline : β}

section

variable (c : LineCodec α β newline) (stamp : Time → α → α)

/-- `Write`: the entry is stamped and its line appended, as far as the system lets it. -/
def appendEntry (result : Cdm.AppendResult β) (now : Time) (e : α) (log : Option (List β)) :
    Option (List β) :=
  match result with
  | .ok => some (log.getD [] ++ c.line (stamp now e))
  | .notOpened => log
  | .failed written => some (log.getD [] ++ written)

/-- `Read`: `failure` is an error of reading other than that there is no file, and `name` what the
log is called then. -/
def readEntries [DecidableEq β] (name : String) (limit : ℤ) (failure : Option String)
    (log : Option (List β)) : Except String (List α) :=
  match failure with
  | some err => .error ("read " ++ name ++ ": " ++ err)
  | none =>
    match log with
    | none => .ok []
    | some data =>
      let all := c.parse data
      let all :=
        if limit > 0 ∧ (all.length : ℤ) > limit then all.drop (all.length - limit.toNat) else all
      .ok (reverseBetween all 0 (all.length - 1))

/-- A successful `Write`, or a line that is no entry. -/
inductive AuditEvent
  | write (now : Time) (e : α)
  | foreign (l : ForeignLine c)

namespace AuditEvent

variable {c}

variable (write : Time → α → Option (List β) → Option (List β)) (events : List (AuditEvent c))

/-- The log is written by `write`; a line of others just comes to stand in the file. -/
def step (log : Option (List β)) : AuditEvent c → Option (List β)
  | .write now e => write now e log
  | .foreign l => some (log.getD [] ++ (l.text ++ [newline]))

def file : Option (List β) :=
  events.foldl (step write) none

def written : List α :=
  events.filterMap fun
    | .write now e => some (stamp now e)
    | .foreign _ => none

def logLine : AuditEvent c → LogLine c
  | .write now e => .entry (stamp now e)
  | .foreign l => .foreign l

lemma step_getD {log : Option (List β)} {e : AuditEvent c} :
    (step (appendEntry c stamp .ok) log e).getD [] =
      log.getD [] ++ ((e.logLine stamp).text ++ [newline]) := by
  cases e with
  | write now e | foreign l => rfl

lemma foldl_getD (log : Option (List β)) (events : List (AuditEvent c)) :
    (events.foldl (step (appendEntry c stamp .ok)) log).getD [] =
      log.getD [] ++ (events.map (logLine stamp)).flatMap fun l => l.text ++ [newline] := by
  induction events generalizing log with
  | nil => simp
  | cons e events ih =>
    rw [foldl_cons, ih, step_getD, append_assoc, map_cons, flatMap_cons]

lemma written_eq (events : List (AuditEvent c)) :
    (events.map (logLine stamp)).filterMap LogLine.entry? = written stamp events := by
  rw [filterMap_map]
  refine congrArg (fun f => events.filterMap f) (funext fun e => ?_)
  cases e with
  | write now e | foreign l => rfl

lemma parse_file [DecidableEq β] {events : List (AuditEvent c)} :
    c.parse ((file (appendEntry c stamp .ok) events).getD []) = written stamp events := by
  have hfile : (file (appendEntry c stamp .ok) events).getD [] =
      (events.map (logLine stamp)).flatMap fun l => l.text ++ [newline] :=
    foldl_getD stamp none events
  rw [hfile, c.parse_lines, written_eq]

end AuditEvent

variable {c}

lemma reverse_drop_eq_lastFirst {limit : ℤ} {all : List α} :
    (if limit > 0 ∧ (all.length : ℤ) > limit then
      all.drop (all.length - limit.toNat) else all).reverse = lastFirst limit all := by
  unfold lastFirst
  by_cases hpos : limit > 0
  · rw [if_pos hpos]
    by_cases hlong : (all.length : ℤ) > limit
    · rw [if_pos ⟨hpos, hlong⟩, reverse_drop]
      congr 1
      omega
    · rw [if_neg fun h => hlong h.2, take_of_length_le (by simp; omega)]
  · rw [if_neg fun h => hpos h.1, if_neg hpos]

/-- **What `Read` returns**: the last entries of the file, the last one first. -/
lemma readEntries_ok [DecidableEq β] {name : String} {limit : ℤ} {log : Option (List β)} :
    readEntries c name limit none log = .ok (lastFirst limit (c.parse (log.getD []))) := by
  rcases log with _ | data
  · have hempty : c.parse [] = [] := c.parse_log []
    have hnone : lastFirst limit ([] : List α) = [] := by simp [lastFirst]
    rw [Option.getD_none, hempty, hnone]
    rfl
  · unfold readEntries
    dsimp only
    rw [reverseBetween_eq, reverse_drop_eq_lastFirst, Option.getD_some]

end

namespace Cdm

def AuditEntry.stamp (now : Time) (e : AuditEntry) : AuditEntry := { e with timestamp := now }

namespace AuditLog

variable (J : Json β)

/-- `AuditLog.Read` with the loop that turns the entries round in place, and with its error. -/
def readFile [DecidableEq β] (limit : ℤ) (failure : Option String) (log : Option (List β)) :
    Except String (List AuditEntry) :=
  readEntries J.entry "CDM audit log" limit failure log

/-- `Write` at `now`, when the system does all of it. -/
def writeOk (now : Time) (e : AuditEntry) (log : Option (List β)) : Option (List β) :=
  write J { stamp := now } e log

lemma writeOk_eq : writeOk J = appendEntry J.entry AuditEntry.stamp .ok := rfl

end AuditLog

end Cdm

namespace LocalAudit

def actionAuthSuccess : String := "auth.success"
def actionAuthFailure : String := "auth.failure"
def actionCDMToggle : String := "cdm.toggle"
def actionCDMGrant : String := "cdm.session.grant"
def actionCDMRevoke : String := "cdm.session.revoke"
def actionConfigView : String := "config.view"

structure Entry where
  timestamp : Time := 0
  action : String
  username : String := ""
  interface : String := ""
  oldState : String := ""
  newState : String := ""
  duration : String := ""
  expiresAt : Option Time := none
  reason : String := ""
  deriving DecidableEq

def Entry.stamp (now : Time) (e : Entry) : Entry := { e with timestamp := now }

/-- The actions `ReadCDMOnly` lets through. -/
def Entry.isCDM (e : Entry) : Bool :=
  e.action = actionCDMToggle || e.action = actionCDMGrant || e.action = actionCDMRevoke

/-- The calls that log an event: `LogAuthSuccess` and the others. -/
inductive LogCall
  | authSuccess (username iface : String)
  | authFailure (username iface reason : String)
  | cdmToggle (username iface oldState newState : String)
  | cdmGrant (username iface duration : String) (expiresAt : Option Time)
  | cdmRevoke (username iface reason : String)
  | configView (username iface : String)

/-- The entry a call hands to `Write`. -/
def LogCall.entry : LogCall → Entry
  | .authSuccess username iface =>
    { action := actionAuthSuccess, username, interface := iface }
  | .authFailure username iface reason =>
    { action := actionAuthFailure, username, interface := iface, reason }
  | .cdmToggle username iface oldState newState =>
    { action := actionCDMToggle, username, interface := iface, oldState, newState }
  | .cdmGrant username iface duration expiresAt =>
    { action := actionCDMGrant, username, interface := iface, duration, expiresAt }
  | .cdmRevoke username iface reason =>
    { action := actionCDMRevoke, username, interface := iface, reason }
  | .configView username iface =>
    { action := actionConfigView, username, interface := iface }

namespace Logger

variable (c : LineCodec Entry β newline)

def write (result : Cdm.AppendResult β) (now : Time) (e : Entry) (log : Option (List β)) :
    Option (List β) :=
  appendEntry c Entry.stamp result now e log

variable [DecidableEq β] (limit : ℤ) (failure : Option String) (log : Option (List β))

def read : Except String (List Entry) :=
  readEntries c "audit log" limit failure log

def readCDMOnly : Except String (List Entry) :=
  match read c 0 failure log with
  | .error err => .error err
  | .ok all =>
    let filtered := all.filter Entry.isCDM
    .ok (if limit > 0 ∧ (filtered.length : ℤ) > limit then filtered.take limit.toNat else filtered)

lemma readCDMOnly_ok {limit : ℤ} {log : Option (List β)} : readCDMOnly c limit none log =
      .ok (lastFirst limit ((c.parse (log.getD [])).filter Entry.isCDM)) := by
  rw [readCDMOnly, read, readEntries_ok]
  dsimp only
  have hall (entries : List Entry) : lastFirst 0 entries = entries.reverse := rfl
  rw [hall, filter_reverse]
  unfold lastFirst
  by_cases hpos : limit > 0
  · rw [if_pos hpos]
    split
    · rfl
    · rename_i hshort
      have hle : ¬ _ > limit := fun h => hshort ⟨hpos, h⟩
      rw [take_of_length_le (by omega)]
  · rw [if_neg hpos, if_neg fun h => hpos h.1]

end Logger

end LocalAudit

/-- **Local audit logs read back exactly.** Whatever successful writes and lines of others a log
consists of, both `Read`s return the last `limit` entries that were written, the last one first,
and `ReadCDMOnly` the last `limit` of those that concern the consent state. -/
theorem audit_logs_read_back [DecidableEq β] {newline : β}
    (c : LineCodec LocalAudit.Entry β newline) (J : Cdm.Json β) (limit : ℤ)
    (events : List (AuditEvent c)) (cdmEvents : List (AuditEvent J.entry)) :
    LocalAudit.Logger.read c limit none (AuditEvent.file (LocalAudit.Logger.write c .ok) events) =
        .ok (lastFirst limit (AuditEvent.written LocalAudit.Entry.stamp events)) ∧
      readFile J limit none (AuditEvent.file (writeOk J) cdmEvents) =
        .ok (lastFirst limit (AuditEvent.written Cdm.AuditEntry.stamp cdmEvents)) ∧
      LocalAudit.Logger.readCDMOnly c limit none
          (AuditEvent.file (LocalAudit.Logger.write c .ok) events) = .ok (lastFirst limit
          ((AuditEvent.written LocalAudit.Entry.stamp events).filter LocalAudit.Entry.isCDM)) := by
  have hlocal : LocalAudit.Logger.write c .ok = appendEntry c LocalAudit.Entry.stamp .ok := rfl
  refine ⟨?_, ?_, ?_⟩
  · rw [LocalAudit.Logger.read, readEntries_ok, hlocal, AuditEvent.parse_file]
  · rw [readFile, readEntries_ok, writeOk_eq, AuditEvent.parse_file]
  · rw [LocalAudit.Logger.readCDMOnly_ok, hlocal, AuditEvent.parse_file]

namespace LocalAudit.Sample

open Cdm.Sample (Token)

/-- An entry is a line of two symbols. -/
def lines : LineCodec Entry Token .newline where
  encode := fun e =>
    [.entry { timestamp := e.timestamp, action := .enable, actor := e.action,
              oldState := e.oldState, newState := e.newState, duration := e.duration,
              expiresAt := e.expiresAt, jobID := e.username, jobType := e.interface },
     .entry { action := .enable, actor := e.reason }]
  decode := fun data => match data with
    | [.entry a, .entry b] =>
      some { timestamp := a.timestamp, action := a.actor, username := a.jobID,
             interface := a.jobType, oldState := a.oldState, newState := a.newState,
             duration := a.duration, expiresAt := a.expiresAt, reason := b.actor }
    | _ => none
  decode_encode := fun _ => rfl
  sep_notMem := by simp
  encode_ne_nil := by simp

/-- A line that broke off after its first symbol. -/
def torn : ForeignLine lines where
  text := [.entry { action := .disable }]
  sep_notMem := by simp
  undecodable := rfl

def blank : ForeignLine lines where
  text := []
  sep_notMem := by simp
  undecodable := rfl

def toggled : Entry := (LogCall.cdmToggle "u" "web" "off" "on").entry

def granted : Entry := (LogCall.cdmGrant "u" "cli" "1h" (some 70)).entry

def events : List (AuditEvent lines) :=
  [.write 5 toggled, .foreign torn, .write 6 granted, .foreign blank,
   .write 7 (LogCall.authSuccess "v" "web").entry]

end LocalAudit.Sample

open LocalAudit LocalAudit.Sample in
theorem sample_audit_logs_read_back :
    Logger.readCDMOnly lines 1 none (AuditEvent.file (Logger.write lines .ok) events) =
        .ok [granted.stamp 6] ∧
      Logger.readCDMOnly lines 0 none (AuditEvent.file (Logger.write lines .ok) events) =
        .ok [granted.stamp 6, toggled.stamp 5] :=
  ⟨(audit_logs_read_back lines Cdm.Sample.json 1 events []).2.2,
    (audit_logs_read_back lines Cdm.Sample.json 0 events []).2.2⟩

end Moebius
