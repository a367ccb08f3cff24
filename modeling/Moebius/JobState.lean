import Moebius.Models

/-!
The declared job state machine: the transition table, and the predicates on statuses and
job types that the handlers consult.
-/

namespace Moebius

open JobStatus

/-- The `%q` verb, on text that needs no escape. -/
def quoted (s : String) : String := "\"" ++ s ++ "\""

def validTransitions : JobStatus → Option (List JobStatus)
  | pending => some [queued, cancelled]
  | queued => some [dispatched, cdmHold, cancelled]
  | cdmHold => some [dispatched, cancelled]
  | dispatched => some [acknowledged, queued, cancelled]
  | acknowledged => some [running, queued]
  | running => some [completed, failed, timedOut]
  | completed | failed | timedOut | cancelled => none

def isTerminalStatus : JobStatus → Bool
  | completed | failed | timedOut | cancelled => true
  | _ => false

def validateTransition (cur next : JobStatus) : Except String Unit :=
  match validTransitions cur with
  | none =>
    if isTerminalStatus cur then
      .error ("cannot transition from terminal state " ++ quoted cur.text)
    else .error ("unknown state " ++ quoted cur.text)
  | some targets =>
    if next ∈ targets then .ok ()
    else .error ("invalid transition from " ++ quoted cur.text ++ " to " ++ quoted next.text)

def cancellableStatuses : List JobStatus := [pending, queued, cdmHold, dispatched]

variable (s : JobStatus)

def isCancellable : Bool := decide (s ∈ cancellableStatuses)

def isRetryable : Bool := decide (s = failed) || decide (s = timedOut)

def shouldRetry (retryCount maxRetries : ℤ) : Bool :=
  isRetryable s && decide (retryCount < maxRetries)

def allJobTypes : List JobType :=
  [.exec, .packageInstall, .packageRemove, .packageUpdate, .inventoryFull, .fileTransfer,
    .agentUpdate, .agentRollback]

def validateType (jobType : String) : Except String JobType :=
  match allJobTypes.find? fun t => t.text == jobType with
  | some t => .ok t
  | none => .error ("unknown job type " ++ quoted jobType)

def defaultRetryPolicy : JobType → Option RetryPolicy
  | .packageInstall => some ⟨3, 300⟩
  | .packageRemove => some ⟨3, 300⟩
  | .packageUpdate => some ⟨3, 300⟩
  | .inventoryFull => some ⟨5, 60⟩
  | .fileTransfer => some ⟨3, 300⟩
  | .agentUpdate => some ⟨2, 600⟩
  | .exec | .agentRollback => none

lemma validateTransition_ok_iff {cur next : JobStatus} :
    validateTransition cur next = .ok () ↔ ∃ l, validTransitions cur = some l ∧ next ∈ l := by
  unfold validateTransition
  split
  · rename_i h
    constructor
    · intro h'; split at h' <;> cases h'
    · rintro ⟨l, hl, -⟩; rw [h] at hl; cases hl
  · rename_i l h
    constructor
    · intro h'
      split at h'
      · exact ⟨l, h, by assumption⟩
      · cases h'
    · rintro ⟨l', hl', hm⟩
      rw [h] at hl'; cases hl'
      rw [if_pos hm]

lemma validateTransition_acknowledged {cur : JobStatus} :
    validateTransition cur acknowledged = .ok () ↔ cur = dispatched := by
  rw [validateTransition_ok_iff]
  cases cur <;> simp [validTransitions]

lemma not_cancellable_of_terminal {s : JobStatus} (h : isTerminalStatus s = true) :
    isCancellable s = false := by
  cases s <;> simp [isTerminalStatus, isCancellable, cancellableStatuses] at h ⊢

end Moebius
