import Mathlib
import Moebius.ConsentHistory

/-!
Calls of the manager that fail.

A call that changes the state writes the state file last. When that write fails the caller is told
so, but only `Enable` takes its change back; the other three leave the new state in memory, where
it decides which jobs may start until the next restart. The file may be left with other contents
as well, and decides from the next restart on.
-/

namespace Moebius

namespace Cdm

/-! ### How long a state lets jobs start -/

def moment (t : Time) : WithBot (WithTop Time) := ((t : WithTop Time) : WithBot (WithTop Time))

/-- The last moment at which a job may start if nobody touches the state: `⊥` when there is none,
`⊤` when there is no end. -/
def State.horizon (s : State) : WithBot (WithTop Time) :=
  if s.enabled then
    if s.sessionActive then
      match s.sessionExpiresAt with
      | none => ⊤
      | some t => moment t
    else ⊥
  else ⊤

variable {t u now : Time}

lemma moment_le_moment : moment t ≤ moment u ↔ t ≤ u := by
  simp [moment]

lemma moment_lt_moment : moment t < moment u ↔ t < u := by
  simp [moment]

lemma not_moment_le_bot : ¬ moment t ≤ ⊥ := by
  simp [moment]

lemma eq_bot_or_moment_or_top (h : WithBot (WithTop Time)) :
    h = ⊥ ∨ (∃ t, h = moment t) ∨ h = ⊤ := by
  induction h using WithBot.recBotCoe with
  | bot => exact .inl rfl
  | coe h =>
    induction h using WithTop.recTopCoe with
    | top => exact .inr (.inr rfl)
    | coe t => exact .inr (.inl ⟨t, rfl⟩)

lemma allows_expire_iff_le_horizon {s : State} :
    (s.expire now).allows ↔ moment now ≤ s.horizon := by
  obtain ⟨enabled, active, expires, _, _⟩ := s
  cases enabled
  · simp [State.expire, State.allows, State.horizon, State.expired, State.clearSession, apply_ite]
  · cases active
    · have hnot : ¬ moment now ≤ ⊥ := not_moment_le_bot
      simp [State.expire, State.allows, State.horizon, State.expired, hnot]
    · rcases expires with _ | u
      · simp [State.expire, State.allows, State.horizon, State.expired]
      · have hle : moment now ≤ moment u ↔ ¬ u < now := moment_le_moment.trans not_lt.symm
        have hhor : State.horizon ⟨true, true, some u, ‹_›, ‹_›⟩ = moment u := rfl
        rw [hhor, hle]
        by_cases hu : u < now <;>
          simp [State.expire, State.allows, State.expired, State.clearSession, hu]

/-- Two horizons give the same answers from `now` on exactly when they are the same, or both are
over. -/
lemma horizons_agree_iff {h h' : WithBot (WithTop Time)} :
    (∀ t, now ≤ t → (moment t ≤ h ↔ moment t ≤ h')) ↔
      h = h' ∨ h < moment now ∧ h' < moment now := by
  constructor
  · intro hagree
    by_contra hne
    push Not at hne
    obtain ⟨hne, hlate⟩ := hne
    wlog hlt : h < h' generalizing h h'
    · refine this (fun t ht => (hagree t ht).symm) hne.symm (fun hh' => ?_)
        (lt_of_le_of_ne (not_lt.mp hlt) hne.symm)
      by_contra hh
      exact absurd hh' (not_lt.mpr (hlate (not_le.mp hh)))
    · -- `h'` reaches `now`, so there is a moment past `h` that it still covers
      have hnow : moment now ≤ h' := by
        rcases lt_or_ge h (moment now) with hbefore | hafter
        · exact hlate hbefore
        · exact hafter.trans hlt.le
      have hcover : ∃ t, now ≤ t ∧ h < moment t ∧ moment t ≤ h' := by
        rcases eq_bot_or_moment_or_top h with rfl | ⟨u, rfl⟩ | rfl
        · exact ⟨now, le_refl now, WithBot.bot_lt_coe _, hnow⟩
        · rcases eq_bot_or_moment_or_top h' with rfl | ⟨v, rfl⟩ | rfl
          · exact absurd hlt (by simp)
          · have huv : u < v := moment_lt_moment.mp hlt
            have hnv : now ≤ v := moment_le_moment.mp hnow
            exact ⟨v, hnv, hlt, le_refl _⟩
          · refine ⟨max now (u + 1), le_max_left _ _, ?_, le_top⟩
            have hpast : u < max now (u + 1) := lt_of_lt_of_le (Int.lt_succ u) (le_max_right _ _)
            exact moment_lt_moment.mpr hpast
        · exact absurd hlt not_top_lt
      obtain ⟨t, ht, hpast, hcov⟩ := hcover
      exact absurd ((hagree t ht).mpr hcov) (not_le.mpr hpast)
  · rintro (rfl | ⟨hlt, hlt'⟩) t ht
    · rfl
    · have hmt : moment now ≤ moment t := moment_le_moment.mpr ht
      constructor
      · intro hle
        exact absurd (hmt.trans hle) (not_le.mpr hlt)
      · intro hle
        exact absurd (hmt.trans hle) (not_le.mpr hlt')

section

variable {β : Type} (J : Json β)

/-- The call ends by writing the state file and returns how that went. -/
def Op.persists (s : State) : Op → Bool
  | .enable _ => true
  | .disable _ => true
  | .grantSession _ _ => s.enabled
  | .revokeSession _ => s.sessionActive
  | _ => false

/-- `Enable` is the only call that takes its change back. -/
def Op.rollsBack : Op → Bool
  | .enable _ => true
  | _ => false

def Device.LetsStart (now : Time) (io : Io β) (d : Device β) : Prop :=
  (d.step J ⟨now, .call .canExecuteJob, io⟩).1 = .decision true

/-- How long the files let jobs start once the agent has been started from them. -/
def Disk.horizon (disk : Disk β) : WithBot (WithTop Time) :=
  match Manager.load J disk with
  | .error _ => ⊥
  | .ok s => s.horizon

/-- The same state, and the same jobs let through from `now` on, without a restart and after
one. -/
structure SameConsent (now : Time) (m m' : Manager β) : Prop where
  state : m'.state = m.state
  running : ∀ t io, now ≤ t → (m'.device.LetsStart J t io ↔ m.device.LetsStart J t io)
  restarted : ∀ r t io io', now ≤ r → r ≤ t →
    ((m'.device.restart J r io).2.LetsStart J t io' ↔ (m.device.restart J r io).2.LetsStart J t io')

/-- If the call returns an error, it has changed nothing. -/
def FailsWithoutEffect (now : Time) (io : Io β) (m : Manager β) (op : Op) : Prop :=
  ∀ err, (op.call J now io m).1 = .result (.error err) → SameConsent J now m (op.call J now io m).2

/-- What is left of a failed write lets jobs start when the file before did. -/
def SameFile (now : Time) (disk : Disk β) (left : Option (List β)) : Prop :=
  Disk.horizon J { disk with stateFile := left } = disk.horizon J ∨
    Disk.horizon J { disk with stateFile := left } < moment now ∧ disk.horizon J < moment now

variable {J}

variable {m : Manager β} {op : Op}

lemma letsStart_iff {io : Io β} : m.device.LetsStart J now io ↔ moment now ≤ m.state.horizon := by
  have hanswer : (m.device.step J ⟨now, .call .canExecuteJob, io⟩).1 =
      .decision (m.canExecuteJob J now io).1 := rfl
  rw [Device.LetsStart, hanswer, canExecuteJob_eq, ← allows_expire_iff_le_horizon]
  simp

lemma restart_letsStart_iff {d : Device β} {r : Time} (hle : r ≤ t) {io io' : Io β} :
    (d.restart J r io).2.LetsStart J t io' ↔ moment t ≤ d.disk.horizon J := by
  unfold Device.restart Disk.horizon Manager.new
  rcases hload : Manager.load J d.disk with err | s
  · have hno : ¬ moment t ≤ ⊥ := not_moment_le_bot
    simp [Device.LetsStart, Device.step, bind, Except.bind, hno]
  · have hnew : ∀ m : Manager β, m.state = s.expire r →
        (m.device.LetsStart J t io' ↔ moment t ≤ s.horizon) := by
      intro m hm
      rw [letsStart_iff, ← allows_expire_iff_le_horizon, ← allows_expire_iff_le_horizon, hm,
        expire_expire hle]
    exact hnew _ (state_checkExpiryLocked r io _)

lemma sameConsent_iff {m' : Manager β} : SameConsent J now m m' ↔ m'.state = m.state ∧
      (m'.disk.horizon J = m.disk.horizon J ∨
        m'.disk.horizon J < moment now ∧ m.disk.horizon J < moment now) := by
  rw [← horizons_agree_iff]
  constructor
  · intro h
    refine ⟨h.state, fun t ht => ?_⟩
    have hr := h.restarted t t { stamp := t } { stamp := t } ht (le_refl t)
    rwa [restart_letsStart_iff (le_refl t), restart_letsStart_iff (le_refl t)] at hr
  · rintro ⟨hstate, hdisk⟩
    refine ⟨hstate, fun t io _ => ?_, fun r t io io' hr ht => ?_⟩
    · rw [letsStart_iff, letsStart_iff, hstate]
    · rw [restart_letsStart_iff ht, restart_letsStart_iff ht]
      exact hdisk t (hr.trans ht)

lemma SameConsent.refl (m : Manager β) (now : Time) : SameConsent J now m m :=
  sameConsent_iff.mpr ⟨rfl, .inl rfl⟩

variable (J) in
lemma call_of_failed (now : Time) {io : Io β} {err : String}
    {left : Option (List β)} (hop : op.persists m.state) (hw : io.write = .failed err left) :
    op.call J now io m = (.result (.error err),
      ⟨if op.rollsBack then m.state else m.state.next now (.call op),
        { m.disk with stateFile := left }⟩) := by
  obtain ⟨⟨enabled, active, _, _, _⟩, disk⟩ := m
  cases op with
  | enable => simp [Op.call, Manager.enable, Manager.persistLocked, hw, Op.rollsBack]
  | disable =>
    simp [Op.call, Manager.disable, Manager.persistLocked, hw, Op.rollsBack, State.next,
      State.clearSession]
  | grantSession =>
    have henabled : enabled = true := hop
    simp [Op.call, Manager.grantSession, Manager.persistLocked, hw, Op.rollsBack, State.next,
      State.granted, henabled]
  | revokeSession =>
    have hactive : active = true := hop
    simp [Op.call, Manager.revokeSession, Manager.persistLocked, hw, Op.rollsBack, State.next,
      State.clearSession, hactive]
  | _ => cases hop

lemma call_ne_error_of_ok {io : Io β} {err : String} (hop : op.persists m.state)
    (hw : io.write = .ok) : (op.call J now io m).1 ≠ .result (.error err) := by
  cases op with
  | enable => simp [Op.call, Manager.enable, Manager.persistLocked, hw]
  | disable => simp [Op.call, Manager.disable, Manager.persistLocked, hw]
  | grantSession =>
    have henabled : m.state.enabled = true := hop
    simp [Op.call, Manager.grantSession, Manager.persistLocked, hw, henabled]
  | revokeSession =>
    have hactive : m.state.sessionActive = true := hop
    simp [Op.call, Manager.revokeSession, Manager.persistLocked, hw, hactive]
  | _ => cases hop

lemma call_of_refused {io : Io β} {err : String} (hop : op.persists m.state = false)
    (herr : (op.call J now io m).1 = .result (.error err)) : (op.call J now io m).2 = m := by
  cases op with
  | enable | disable => cases hop
  | grantSession =>
    have henabled : m.state.enabled = false := hop
    simp [Op.call, Manager.grantSession, henabled]
  | revokeSession =>
    have hactive : m.state.sessionActive = false := hop
    simp [Op.call, Manager.revokeSession, hactive]
  | canExecuteJob | snapshot | logJobExecution => cases herr

end

/-- **Calls that fail.** A call that returns an error has no effect exactly when its write of the
state file does not fail, or else the call takes its change back or had none to make, and what is
left of the file lets jobs start when the file before did. -/
theorem failsWithoutEffect_iff {β : Type} (J : Json β) (now : Time) (io : Io β) (m : Manager β)
    (op : Op) : FailsWithoutEffect J now io m op ↔
      (op.persists m.state → ∀ err left, io.write = .failed err left →
        (op.rollsBack ∨ m.state.next now (.call op) = m.state) ∧ SameFile J now m.disk left) := by
  unfold FailsWithoutEffect
  rcases hop : op.persists m.state
  · have hnone : ∀ err, (op.call J now io m).1 = .result (.error err) →
        SameConsent J now m (op.call J now io m).2 := by
      intro err herr
      rw [call_of_refused hop herr]
      exact .refl m now
    constructor
    · intro _ hpersists
      cases hpersists
    · intro _
      exact hnone
  rcases hw : io.write with _ | ⟨err, left⟩
  · constructor
    · intro _ _ err left hfail
      cases hfail
    · intro _ err herr
      exact absurd herr (call_ne_error_of_ok hop hw)
  · have hcall := call_of_failed J now hop hw
    have hstate : (if op.rollsBack then m.state else m.state.next now (.call op)) = m.state ↔
        op.rollsBack ∨ m.state.next now (.call op) = m.state := by
      rcases op.rollsBack <;> simp
    constructor
    · intro h _ err' left' hfail
      cases hfail
      have hsame := h err (by rw [hcall])
      rw [hcall, sameConsent_iff] at hsame
      exact ⟨hstate.mp hsame.1, hsame.2⟩
    · intro h err' herr
      obtain ⟨hback, hfile⟩ := h rfl err left rfl
      rw [hcall, sameConsent_iff]
      exact ⟨hstate.mpr hback, hfile⟩

def Sample.locked : Manager Token :=
  { state := { enabled := true }, disk := { stateFile := some [.state { enabled := true }] } }

def Sample.readOnlyFile : Io Token :=
  { write := .failed "open: permission denied" (some [.state { enabled := true }]), stamp := 0 }

open Sample in
/-- The user is told that the session could not be granted, and jobs start. -/
theorem failed_grant_lets_jobs_start :
    ¬ FailsWithoutEffect json 0 readOnlyFile locked (.grantSession "user" 60) := by
  intro h
  have hsame := h "open: permission denied" rfl
  have hactive := congrArg State.sessionActive hsame.state
  cases hactive

end Cdm

end Moebius
