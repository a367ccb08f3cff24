import Moebius.ConsentMachine
import Mathlib.Data.List.Chain

/-!
What the manager answers, told from the history of its calls.

A session is good from a successful grant to its deadline, unless a revocation or switching CDM
off comes first. The manager clears expired sessions lazily, so its state may still show a session
that is over; what it answers never does, before a restart or after it.
-/

namespace Moebius

open List Option

namespace Cdm

variable {β : Type}

def Answer.ok : Answer → Bool
  | .result (.ok ()) => true
  | _ => false

/-- When the call succeeds, does it end the grant before it? -/
def Input.endsGrant : Input → Bool
  | .call (.grantSession _ _) => true
  | .call (.revokeSession _) => true
  | .call (.disable _) => true
  | _ => false

variable (past : List (Event β × Answer))

/-- The most recent successful grant was made at `g` with duration `d`, and neither a revocation
nor switching CDM off has succeeded since. -/
def Granted (g : Time) (d : ℤ) : Prop :=
  ∃ before e answer after, past = before ++ (e, answer) :: after ∧
    (∃ actor, e.input = .call (.grantSession actor d)) ∧ e.now = g ∧ answer.ok ∧
    ∀ x ∈ after, ¬ (x.1.input.endsGrant ∧ x.2.ok)

/-- The deadline a call sets if it succeeds; `some none` says that there is none. -/
def Input.deadline (now : Time) : Input → Option (Option Time)
  | .call (.grantSession _ d) => some (some (now + d))
  | .call (.revokeSession _) => some none
  | .call (.disable _) => some none
  | _ => none

def setsDeadline (x : Event β × Answer) : Option (Option Time) :=
  if x.2.ok then x.1.input.deadline x.1.now else none

/-- The deadline of the grant in force. -/
def deadline : Option Time :=
  (lastDecided setsDeadline past).join

lemma deadline_snoc {past : List (Event β × Answer)} {x : Event β × Answer} :
    deadline (past ++ [x]) = (setsDeadline x).getD (deadline past) := by
  rw [deadline, deadline, lastDecided_snoc]
  rcases setsDeadline x with _ | u <;> rfl

variable {x : Event β × Answer} {e : Event β} {u t t' : Time} {past : List (Event β × Answer)}
  {s s' : State}

lemma setsDeadline_eq_none_iff : setsDeadline x = none ↔ ¬ (x.1.input.endsGrant ∧ x.2.ok) := by
  obtain ⟨⟨now, input, io⟩, answer⟩ := x
  rcases hok : answer.ok
  · simp [setsDeadline, hok]
  · rcases input with op | _
    · cases op <;> simp [setsDeadline, hok, Input.deadline, Input.endsGrant]
    · simp [setsDeadline, hok, Input.deadline, Input.endsGrant]

lemma setsDeadline_eq_some_iff {answer : Answer} : setsDeadline (e, answer) = some (some u) ↔
      ∃ d, (∃ actor, e.input = .call (.grantSession actor d)) ∧ answer.ok ∧ u = e.now + d := by
  obtain ⟨now, input, io⟩ := e
  rcases hok : answer.ok
  · simp [setsDeadline, hok]
  · rcases input with op | _
    · cases op <;> simp [setsDeadline, hok, Input.deadline, eq_comm]
    · simp [setsDeadline, hok, Input.deadline]

lemma deadline_eq_some_iff : deadline past = some u ↔ ∃ g d, Granted past g d ∧ u = g + d := by
  rw [deadline, join_eq_some_iff, lastDecided_eq_some_iff]
  constructor
  · rintro ⟨before, ⟨e, answer⟩, after, hpast, hset, hafter⟩
    obtain ⟨d, hinput, hok, hu⟩ := setsDeadline_eq_some_iff.mp hset
    exact ⟨e.now, d, ⟨before, e, answer, after, hpast, hinput, rfl, hok,
      fun x hx => setsDeadline_eq_none_iff.mp (hafter x hx)⟩, hu⟩
  · rintro ⟨g, d, ⟨before, e, answer, after, hpast, hinput, rfl, hok, hafter⟩, hu⟩
    exact ⟨before, (e, answer), after, hpast, setsDeadline_eq_some_iff.mpr ⟨d, hinput, hok, hu⟩,
      fun x hx => setsDeadline_eq_none_iff.mpr (hafter x hx)⟩

/-! ### The state follows the deadlines -/

/-- The session ends at the deadline, or it is over and cleared. -/
def Tracks (past : List (Event β × Answer)) (s : State) : Prop :=
  s.sessionExpiresAt = deadline past ∨
    s.sessionExpiresAt = none ∧ ∃ u, deadline past = some u ∧ ∃ x ∈ past, u < x.1.now

lemma Tracks.snoc_of_kept (h : Tracks past s) (hx : setsDeadline x = none)
    (hs : s'.sessionExpiresAt = s.sessionExpiresAt) : Tracks (past ++ [x]) s' := by
  have hd : deadline (past ++ [x]) = deadline past := by rw [deadline_snoc, hx, getD_none]
  unfold Tracks
  rw [hd, hs]
  rcases h with h | ⟨hnone, u, hu, y, hy, hlt⟩
  · exact .inl h
  · exact .inr ⟨hnone, u, hu, y, mem_append_left _ hy, hlt⟩

lemma Tracks.snoc_of_set {u : Option Time} (hx : setsDeadline x = some u)
    (hs : s'.sessionExpiresAt = u) : Tracks (past ++ [x]) s' := by
  left
  rw [deadline_snoc, hx, getD_some, hs]

lemma expired_iff (h : s.Wf) {now : Time} :
    s.expired now ↔ ∃ u, s.sessionExpiresAt = some u ∧ u < now := by
  have he := h.expiry
  rcases hx : s.sessionExpiresAt with _ | u
  · simp [State.expired, hx]
  · rw [hx, isSome_some] at he
    simp [State.expired, hx, ← he]

lemma Tracks.snoc_expire {answer : Answer} (h : Tracks past s) (hwf : s.Wf)
    (hx : setsDeadline (e, answer) = none) : Tracks (past ++ [(e, answer)]) (s.expire e.now) := by
  unfold State.expire
  split
  · next hexp =>
    obtain ⟨u, hu, hlt⟩ := (expired_iff hwf).mp hexp
    have hd : deadline past = some u := by
      rcases h with h | ⟨hnone, -⟩
      · rw [← h, hu]
      · cases hu.symm.trans hnone
    right
    refine ⟨rfl, u, ?_, (e, answer), by simp, hlt⟩
    rw [deadline_snoc, hx, getD_none, hd]
  · exact h.snoc_of_kept hx rfl

lemma Tracks.step (h : Tracks past s) (hwf : s.Wf)
    (e : Event β) : Tracks (past ++ [(e, s.answer e.now e.input)]) (s.next e.now e.input) := by
  obtain ⟨now, input, io⟩ := e
  rcases input with op | _
  · cases op with
    | enable => exact h.snoc_of_kept (by simp [setsDeadline, Input.deadline]) rfl
    | disable => exact Tracks.snoc_of_set (u := none) rfl rfl
    | grantSession actor d =>
      rcases hen : s.enabled
      · exact h.snoc_of_kept (by simp [setsDeadline, State.answer, hen, Answer.ok])
          (by simp [State.next, hen])
      · refine Tracks.snoc_of_set (u := some (now + d)) ?_
          (by simp [State.next, hen, State.granted])
        simp [setsDeadline, State.answer, hen, Answer.ok, Input.deadline]
    | revokeSession actor =>
      rcases hact : s.sessionActive
      · exact h.snoc_of_kept (by simp [setsDeadline, State.answer, hact, Answer.ok])
          (by simp [State.next, hact])
      · refine Tracks.snoc_of_set (u := none) ?_ (by simp [State.next, hact, State.clearSession])
        simp [setsDeadline, State.answer, hact, Answer.ok, Input.deadline]
    | canExecuteJob | snapshot => exact h.snoc_expire hwf rfl
    | logJobExecution => exact h.snoc_of_kept rfl rfl
  · exact h.snoc_expire hwf rfl

lemma Tracks.run (h : Tracks past s) (hwf : s.Wf) (events : List (Event β)) :
    Tracks (past ++ s.history events) (s.run events) := by
  induction events generalizing past s with
  | nil => simpa [State.history, State.run] using h
  | cons e events ih =>
    have hstep := ih (h.step hwf e) (hwf.next e.now e.input)
    simpa [State.history, State.run] using hstep

lemma sessionActive_expire_iff (h : s.Wf) {now : Time} :
    (s.expire now).sessionActive ↔ ∃ u, s.sessionExpiresAt = some u ∧ now ≤ u := by
  unfold State.expire
  split
  · next hexp =>
    obtain ⟨u, hu, hlt⟩ := (expired_iff h).mp hexp
    simp [State.clearSession, hu, hlt]
  · next hexp =>
    rw [expired_iff h] at hexp
    rw [← h.expiry, isSome_iff_exists]
    constructor
    · rintro ⟨u, hu⟩
      exact ⟨u, hu, Int.not_lt.mp fun hlt => hexp ⟨u, hu, hlt⟩⟩
    · rintro ⟨u, hu, -⟩
      exact ⟨u, hu⟩

variable {events : List (Event β)}

@[simp] lemma enabled_expire {now : Time} : (s.expire now).enabled = s.enabled := by
  unfold State.expire
  split <;> rfl

lemma allows_expire_iff (h : Tracks past s) (hwf : s.Wf) {now : Time}
    (hnow : ∀ x ∈ past, x.1.now ≤ now) :
    (s.expire now).allows ↔ s.enabled = false ∨ ∃ g d, Granted past g d ∧ now ≤ g + d := by
  have hsession : (s.expire now).sessionActive ↔ ∃ u, deadline past = some u ∧ now ≤ u := by
    rw [sessionActive_expire_iff hwf]
    rcases h with h | ⟨hnone, u, hu, x, hx, hlt⟩
    · rw [h]
    · have hover : u < now := Int.lt_of_lt_of_le hlt (hnow x hx)
      simp [hnone, hu, hover]
  rw [State.allows, Bool.or_eq_true, Bool.not_eq_true', enabled_expire, hsession]
  refine or_congr Iff.rfl ⟨?_, ?_⟩
  · rintro ⟨u, hu, hle⟩
    obtain ⟨g, d, hg, rfl⟩ := deadline_eq_some_iff.mp hu
    exact ⟨g, d, hg, hle⟩
  · rintro ⟨g, d, hg, hle⟩
    exact ⟨g + d, deadline_eq_some_iff.mpr ⟨g, d, hg, rfl⟩, hle⟩

lemma expire_eq_self {now : Time} (h : s.sessionActive = false) : s.expire now = s := by
  simp [State.expire, State.expired, h]

lemma expire_expire (h : t ≤ t') : (s.expire t).expire t' = s.expire t' := by
  rcases hexp : s.expired t
  · have hkept : s.expire t = s := by simp [State.expire, hexp]
    rw [hkept]
  · have hexp' : s.expired t' := by
      rw [State.expired, Bool.and_eq_true, Option.any_eq_true] at hexp ⊢
      obtain ⟨hact, u, hu, hlt⟩ := hexp
      exact ⟨hact, u, hu, decide_eq_true (Int.lt_of_lt_of_le (of_decide_eq_true hlt) h)⟩
    have hclear : s.expire t = s.clearSession := by rw [State.expire, if_pos hexp]
    rw [hclear, expire_eq_self rfl, State.expire, if_pos hexp']

@[simp] lemma clearSession_expire {now : Time} : (s.expire now).clearSession = s.clearSession := by
  unfold State.expire
  split <;> rfl

lemma expire_enable {now : Time} :
    State.expire now { s with enabled := true } = { s.expire now with enabled := true } := by
  have hexp : State.expired now { s with enabled := true } = s.expired now := rfl
  simp only [State.expire, hexp]
  rcases s.expired now <;> rfl

/-- States that look the same from `now` on. -/
def Alike (now : Time) (s s' : State) : Prop := s.expire now = s'.expire now

lemma Alike.later (h : Alike t s s') (hle : t ≤ t') : Alike t' s s' := by
  unfold Alike at *
  rw [← expire_expire hle, h, expire_expire hle]

lemma Alike.enabled {now : Time} (h : Alike now s s') : s.enabled = s'.enabled := by
  rw [← enabled_expire, h, enabled_expire]

lemma Alike.clearSession {now : Time} (h : Alike now s s') : s.clearSession = s'.clearSession := by
  rw [← clearSession_expire, h, clearSession_expire]

lemma alike_expire {now : Time} (h : Alike now s s') :
    Alike now (s.expire now) (s'.expire now) := by
  rw [h, Alike]

lemma alike_revoked {now : Time} (h : Alike now s s') {actor : String} :
    Alike now (s.next now (.call (.revokeSession actor)))
      (s'.next now (.call (.revokeSession actor))) := by
  -- a session that only one of the two still shows is expired, and revoking clears it
  have hcleared : ∀ {s s' : State}, Alike now s s' → s.sessionActive = false →
      s'.sessionActive = true → Alike now s s'.clearSession := by
    intro s s' h hs hs'
    rw [Alike, expire_eq_self hs] at h
    have hexp : s'.expired now := by
      by_contra hexp
      rw [State.expire, if_neg hexp] at h
      rw [h, hs'] at hs
      cases hs
    rw [State.expire, if_pos hexp] at h
    rw [h, Alike]
  simp only [State.next]
  rcases hs : s.sessionActive <;> rcases hs' : s'.sessionActive
  · exact h
  · exact hcleared h hs hs'
  · exact (hcleared h.symm hs' hs).symm
  · rw [if_pos rfl, if_pos rfl, h.clearSession, Alike]

lemma Alike.next {now : Time} (h : Alike now s s') (input : Input) :
    Alike now (s.next now input) (s'.next now input) := by
  rcases input with op | _
  · cases op with
    | enable =>
      simp only [State.next, Alike]
      rw [expire_enable, expire_enable, h]
    | disable => rfl
    | grantSession actor d =>
      simp only [State.next, h.enabled]
      split
      · simp only [State.granted, h.enabled, Alike]
      · exact h
    | revokeSession actor => exact alike_revoked h
    | canExecuteJob | snapshot => exact alike_expire h
    | logJobExecution => exact h
  · exact alike_expire h

def Input.isRevoke : Input → Bool
  | .call (.revokeSession _) => true
  | _ => false

lemma Alike.answer {now : Time} (h : Alike now s s') {input : Input}
    (hinput : input.isRevoke = false) : s.answer now input = s'.answer now input := by
  rcases input with op | _
  · cases op with
    | grantSession => simp only [State.answer, h.enabled]
    | revokeSession => cases hinput
    | canExecuteJob => exact congrArg (fun s => Answer.decision s.allows) h
    | snapshot => exact congrArg Answer.state h
    | _ => rfl
  · rfl

def InOrder (events : List (Event β)) : Prop := events.Pairwise fun e e' => e.now ≤ e'.now

/-- The part of a history that tells what was answered, the results of revocations left out. -/
def answered (past : List (Event β × Answer)) : List (Event β × Answer) :=
  past.filter fun x => !x.1.input.isRevoke

lemma Alike.answered (h : Alike t s s') (hle : ∀ e ∈ events, t ≤ e.now) (horder : InOrder events) :
    answered (s.history events) = answered (s'.history events) := by
  induction events generalizing s s' t with
  | nil => rfl
  | cons e events ih =>
    have hnow : Alike e.now s s' := h.later (hle e mem_cons_self)
    obtain ⟨hfirst, hrest⟩ := pairwise_cons.mp horder
    have hlater := ih (hnow.next e.input) hfirst hrest
    simp only [Cdm.answered, State.history, filter_cons] at hlater ⊢
    rcases hrev : e.input.isRevoke
    · rw [hnow.answer hrev, hlater]
    · simpa using hlater

lemma fst_mem_of_mem_history {J : Json β} {d : Device β} (h : x ∈ d.history J events) :
    x.1 ∈ events := by
  induction events generalizing d with
  | nil => exact absurd h not_mem_nil
  | cons e events ih =>
    rcases mem_cons.mp h with rfl | h
    · exact mem_cons_self
    · exact mem_cons_of_mem _ (ih h)

/-- **Consent.** On a device that starts without state file, whatever calls and restarts have come
in order and written that file: a session is active only while CDM is on, and has an expiry; a job
may start exactly when CDM is off or a grant that was neither revoked nor replaced lasts; and a
restart changes no later answer but what `RevokeSession` returns after the expiry. -/
theorem consent_exact (J : Json β) (auditLog : Option (List β)) (events : List (Event β))
    (hio : ∀ e ∈ events, e.io.write = .ok) :
    ∃ s, ((Device.fresh auditLog).run J events).memory = some s ∧
      (s.sessionActive → s.enabled) ∧ (s.sessionActive → s.sessionExpiresAt.isSome) ∧
      (∀ now io, InOrder (events ++ [⟨now, .call .canExecuteJob, io⟩]) → ∃ allowed,
          (((Device.fresh auditLog).run J events).step J ⟨now, .call .canExecuteJob, io⟩).1 =
            .decision allowed ∧ (allowed ↔ s.enabled = false ∨
            ∃ g d, Granted ((Device.fresh auditLog).history J events) g d ∧ now ≤ g + d)) ∧
      ∀ restart later, restart.input = .restart → restart.io.write = .ok →
        (∀ e ∈ later, e.io.write = .ok) → InOrder (events ++ restart :: later) →
        answered (((Device.fresh auditLog).run J (events ++ [restart])).history J later) =
          answered (((Device.fresh auditLog).run J events).history J later) := by
  set s := State.run {} events with hs
  obtain ⟨hholds, hhistory, -⟩ := run_refines (holds_fresh (J := J) auditLog) hio
  rw [← hs] at hholds
  have hwf : s.Wf := State.wf_initial.run events
  have htracks : Tracks ((Device.fresh auditLog).history J events) s := by
    rw [hhistory, hs]
    have hinitial : Tracks (β := β) [] {} := .inl rfl
    exact hinitial.run State.wf_initial events
  refine ⟨s, hholds.memory, hwf.enabled, fun h => hwf.expiry.trans h, ?_, ?_⟩
  · intro now io horder
    refine ⟨(s.expire now).allows, ?_, allows_expire_iff htracks hwf fun x hx => ?_⟩
    · simp [Device.step, hholds.memory, Op.call, canExecuteJob_eq]
    · exact (pairwise_append.mp horder).2.2 x.1 (fst_mem_of_mem_history hx)
        _ (mem_singleton_self _)
  · intro restart later hinput hrestart hlater horder
    obtain ⟨hfirst, hrest⟩ := pairwise_cons.mp (pairwise_append.mp horder).2.1
    have hmoved := (step_refines hholds hrestart).2.toHolds
    have hrestarted := (run_refines hmoved hlater).2.1
    have hkept := (run_refines hholds hlater).2.1
    have halike : Alike restart.now (s.next restart.now restart.input) s := by
      rw [hinput]
      exact expire_expire (Int.le_refl _)
    rw [Device.run_snoc, hrestarted, hkept]
    exact halike.answered hfirst hrest

namespace Sample

def event (now : Time) (input : Input) : Event Token := ⟨now, input, { stamp := now }⟩

def evening : List (Event Token) :=
  [event 0 (.call (.enable "alice")), event 1 (.call (.grantSession "alice" 10))]

/-- The same, but the grant cannot be logged. -/
def unlogged : List (Event Token) :=
  [event 0 (.call (.enable "alice")),
    ⟨1, .call (.grantSession "alice" 10), { stamp := 1, append := .notOpened }⟩]

end Sample

open Sample in
theorem evening_consent :
    (((Device.fresh none).run json unlogged).step json (event 11 (.call .canExecuteJob))).1 =
        .decision true ∧
      answered (((Device.fresh none).run json (unlogged ++ [event 5 .restart])).history json
          [event 11 (.call .canExecuteJob)]) =
        answered (((Device.fresh none).run json unlogged).history json
          [event 11 (.call .canExecuteJob)]) := by
  obtain ⟨s, -, -, -, hcheck, hrestart⟩ := consent_exact json none unlogged
    (by simp [unlogged, event])
  constructor
  · obtain ⟨allowed, hanswer, hiff⟩ := hcheck 11 { stamp := 11 } (by unfold InOrder; decide)
    have hgranted : Granted ((Device.fresh none).history json unlogged) 1 10 :=
      ⟨[_], _, _, [], rfl, ⟨_, rfl⟩, rfl, rfl, by simp⟩
    have hallowed : allowed = true := hiff.mpr (.inr ⟨1, 10, hgranted, by decide⟩)
    rw [event, hanswer, hallowed]
  · exact hrestart (event 5 .restart) _ rfl rfl (by simp [event])
      (by unfold InOrder; decide)

end Cdm

end Moebius
