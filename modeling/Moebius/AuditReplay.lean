import Moebius.ConsentHistory

/-!
The audit log determines the consent state.

Switching CDM off ends a session without an entry of its own, and switching it on or off again
leaves no entry at all. In the states a manager can be in, replaying the log gives its state
nevertheless.
-/

namespace Moebius

namespace Cdm

structure Replayed where
  enabled : Bool := false
  sessionActive : Bool := false
  sessionExpiresAt : Option Time := none
  deriving DecidableEq

def Replayed.apply (r : Replayed) (e : AuditEntry) : Replayed :=
  match e.action with
  | .enable => { r with enabled := true }
  | .disable => {}
  | .sessionGrant => { r with sessionActive := true, sessionExpiresAt := e.expiresAt }
  | .sessionRevoke => { r with sessionActive := false, sessionExpiresAt := none }
  | .sessionExpired => { r with sessionActive := false, sessionExpiresAt := none }
  | .jobExecuted => r

/-- Replays entries, oldest first. -/
def replay (entries : List AuditEntry) : Replayed := entries.foldl Replayed.apply {}

def State.replayed (s : State) : Replayed :=
  ⟨s.enabled, s.sessionActive, s.sessionExpiresAt⟩

/-! ### The machine -/

variable {s : State} {β : Type}

lemma State.Wf.replayed_of_disabled (h : s.Wf) (hoff : s.enabled = false) :
    s.replayed = State.replayed {} := by
  have hactive : s.sessionActive = false := by
    rcases hact : s.sessionActive
    · rfl
    · rw [h.enabled hact] at hoff
      cases hoff
  have hexpiry : s.sessionExpiresAt = none := by
    rw [← Option.isNone_iff_eq_none, ← Option.not_isSome, h.expiry, hactive]
    rfl
  rw [State.replayed, hoff, hactive, hexpiry]
  rfl

variable {now : Time} {J : Json β}

lemma foldl_expiryEntries :
    (s.expiryEntries now).foldl Replayed.apply s.replayed = (s.expire now).replayed := by
  unfold State.expiryEntries State.expire
  split <;> rfl

lemma foldl_entries (h : s.Wf) {input : Input} :
    (s.entries J now input).foldl Replayed.apply s.replayed = (s.next now input).replayed := by
  rcases input with op | _
  · cases op with
    | enable actor =>
      rcases hen : s.enabled
      · simp [State.entries, State.next, State.replayed, Replayed.apply, hen]
      · simp [State.entries, State.next, State.replayed, hen]
    | disable actor =>
      rcases hen : s.enabled
      · have hoff := h.replayed_of_disabled hen
        simpa [State.entries, State.next, hen] using hoff
      · simp [State.entries, State.next, State.replayed, Replayed.apply, hen]
    | grantSession actor duration =>
      rcases hen : s.enabled
      · simp [State.entries, State.next, hen]
      · simp [State.entries, State.next, State.replayed, State.granted, Replayed.apply, hen]
    | revokeSession actor =>
      rcases hact : s.sessionActive
      · simp [State.entries, State.next, hact]
      · simp [State.entries, State.next, State.replayed, State.clearSession, Replayed.apply, hact]
    | canExecuteJob | snapshot => exact foldl_expiryEntries
    | logJobExecution => rfl
  · exact foldl_expiryEntries

lemma foldl_stamped {io : Io β} {entries : List AuditEntry} {r : Replayed} :
    (State.stamped io entries).foldl Replayed.apply r = entries.foldl Replayed.apply r := by
  rw [State.stamped, List.foldl_map]
  rfl

lemma foldl_log (h : s.Wf) {events : List (Event β)} :
    (s.log J events).foldl Replayed.apply s.replayed = (s.run events).replayed := by
  induction events generalizing s with
  | nil => rfl
  | cons e events ih =>
    rw [State.log, List.foldl_append, foldl_stamped, foldl_entries h]
    exact ih (h.next e.now e.input)

section

variable [DecidableEq β]

lemma reverse_read_all {log : Option (List β)} :
    (AuditLog.read J 0 log).reverse = J.entry.parse (log.getD []) := by
  rcases log with _ | data
  · exact (J.entry.parse_log []).symm
  · simp [AuditLog.read]

/-- **The log determines the state.** On a device that starts without files, whatever calls and
restarts have written theirs, replaying the log gives the state in memory and in the file. -/
theorem replay_exact (J : Json β) (auditLog : Option (List β)) (hlog : auditLog.getD [] = [])
    (events : List (Event β)) (hio : ∀ e ∈ events, e.io.Ok) :
    ∃ memory file, ((Device.fresh auditLog).run J events).memory = some memory ∧
      Manager.load J ((Device.fresh auditLog).run J events).disk = .ok file ∧
      replay (AuditLog.read J 0 ((Device.fresh auditLog).run J events).disk.auditLog).reverse =
        memory.replayed ∧
      replay (AuditLog.read J 0 ((Device.fresh auditLog).run J events).disk.auditLog).reverse =
        file.replayed := by
  obtain ⟨hholds, -, hentries⟩ := run_refines (holds_fresh (J := J) auditLog)
    fun e he => (hio e he).write
  have hread : (AuditLog.read J 0 ((Device.fresh auditLog).run J events).disk.auditLog).reverse =
      State.log J {} events := by
    have hempty : (Device.fresh auditLog).disk.auditLog.getD [] = [] := hlog
    rw [reverse_read_all, hentries fun e he => (hio e he).append, hempty, List.nil_append,
      LineCodec.parse_log]
  have hreplay : replay (State.log J {} events) = (State.run {} events).replayed :=
    foldl_log State.wf_initial
  refine ⟨State.run {} events, State.run {} events, hholds.memory, hholds.file, ?_, ?_⟩
  · rw [hread, hreplay]
  · rw [hread, hreplay]

end

open Sample in
theorem evening_replay :
    replay (AuditLog.read json 0 ((Device.fresh none).run json evening).disk.auditLog).reverse =
      ⟨true, true, some 11⟩ := by
  obtain ⟨memory, file, hmemory, -, hreplay, -⟩ :=
    replay_exact json none rfl evening
    (by rintro e (_ | ⟨_, _ | ⟨_, ⟨⟩⟩⟩) <;> exact ⟨rfl, rfl⟩)
  have hstate : some memory = some ⟨true, true, some 11, "alice", some 1⟩ := hmemory.symm
  rw [hreplay, Option.some.inj hstate]
  rfl

end Cdm

end Moebius
