import Moebius.Cdm

/-!
What check-ins report about consent.

The poller keeps a copy of the CDM state. A loop of its own takes a snapshot of the manager once a
second and hands it to the poller; the first check-in is made when the agent starts and does not
wait for that loop. Local users call the manager at any time, and the agent may stop and start.
-/

namespace Moebius

/-- What the server is told about consent: CDM on, session active, end of the session. -/
abbrev Consent := Bool × Bool × Option Time

def Cdm.State.consent (s : Cdm.State) : Consent := (s.enabled, s.sessionActive, s.sessionExpiresAt)

def AgentStatus.consent (s : AgentStatus) : Consent :=
  (s.cdmEnabled, s.cdmSessionActive, s.cdmSessionExpiresAt)

structure Poller where
  sequence : ℤ := 0
  cdmEnabled : Bool := false
  cdmSessionActive : Bool := false
  cdmSessionExpiresAt : Option Time := none

namespace Poller

def new : Poller := {}

def setCDMState (enabled sessionActive : Bool) (sessionExpiresAt : Option Time) (p : Poller) :
    Poller :=
  { p with
    cdmEnabled := enabled
    cdmSessionActive := sessionActive
    cdmSessionExpiresAt := sessionExpiresAt }

/-- `checkin` up to the point where it releases the lock. -/
def beginCheckin (version : String) (p : Poller) : CheckinRequest × Poller :=
  let seq := p.sequence + 1
  ({ sequence := seq
     status :=
       { cdmEnabled := p.cdmEnabled
         cdmSessionActive := p.cdmSessionActive
         agentVersion := version
         cdmSessionExpiresAt := p.cdmSessionExpiresAt } },
    { p with sequence := seq })

/-- The rest of `checkin`, up to the request that is posted. -/
def finishCheckin (req : CheckinRequest) (delta : Option InventoryDelta) : CheckinRequest :=
  { req with inventoryDelta := delta }

def consent (p : Poller) : Consent := (p.cdmEnabled, p.cdmSessionActive, p.cdmSessionExpiresAt)

end Poller

/-- An agent, as far as the consent it reports depends on it. -/
structure Reporter (β : Type) where
  clock : Time
  device : Cdm.Device β
  poller : Poller := .new
  /-- The snapshot the feed loop has taken and not handed over yet. -/
  snap : Option Cdm.State := none
  /-- The check-in the poller has begun and not sent yet. -/
  begun : Option CheckinRequest := none
  /-- The states the manager has had since the agent started. -/
  past : List Cdm.State := []
  /-- The poller has been handed a state since the agent started. -/
  fed : Bool := false
  /-- The check-in was begun before that. -/
  early : Bool := false

/-- What happens next. An event that cannot happen changes nothing. -/
inductive ReporterEvent (β : Type)
  | start (io : Cdm.Io β)
  | stop
  | tick (now : Time)
  /-- A local user, or another part of the agent, calls the manager. -/
  | cdm (op : Cdm.Op) (io : Cdm.Io β)
  | snapshot (io : Cdm.Io β)
  /-- The feed loop hands its snapshot to the poller. -/
  | feed
  | beginCheckin
  | finishCheckin (delta : Option InventoryDelta)

namespace Reporter

variable {β : Type} (J : Cdm.Json β) (version : String)

def down (clock : Time) (disk : Cdm.Disk β) : Reporter β := { clock, device := ⟨disk, none⟩ }

def call (op : Cdm.Op) (io : Cdm.Io β) (r : Reporter β) : Cdm.Answer × Reporter β :=
  let (answer, device) := r.device.step J ⟨r.clock, .call op, io⟩
  (answer, { r with device, past := r.past ++ device.memory.toList })

variable (e : ReporterEvent β) (r : Reporter β)

def step : Reporter β :=
  match e with
  | .start io =>
    let device := (r.device.restart J r.clock io).2
    { clock := r.clock, device, past := device.memory.toList }
  | .stop => down r.clock r.device.disk
  | .tick now => { r with clock := now }
  | .cdm op io => (r.call J op io).2
  | .snapshot io =>
    match r.snap, r.call J .snapshot io with
    | none, (.state s, r') => { r' with snap := some s }
    | _, _ => r
  | .feed =>
    match r.snap with
    | none => r
    | some s =>
      { r with
        poller := r.poller.setCDMState s.enabled s.sessionActive s.sessionExpiresAt
        snap := none
        fed := true }
  | .beginCheckin =>
    match r.device.memory, r.begun with
    | some _, none =>
      let (req, poller) := r.poller.beginCheckin version
      { r with poller, begun := some req, early := !r.fed }
    | _, _ => r
  | .finishCheckin _ => { r with begun := none }

def sends : Option CheckinRequest :=
  match e, r.begun with
  | .finishCheckin delta, some req => some (Poller.finishCheckin req delta)
  | _, _ => none

/-- The check-ins of a run, each with the agent at the moment it was sent. -/
def sent (r : Reporter β) : List (ReporterEvent β) → List (CheckinRequest × Reporter β)
  | [] => []
  | e :: events => (r.sends e).toList.map (·, r) ++ sent (r.step J version e) events

/-- What the manager could have been seen to say since the agent started. -/
def consents : List Consent := r.past.map Cdm.State.consent

/-- Every check-in of the run reports what the manager said at some moment since the agent
started. -/
def ReportsRealConsent (events : List (ReporterEvent β)) : Prop :=
  ∀ x ∈ sent J version r events, x.1.status.consent ∈ x.2.consents

/-! ### Where a report comes from -/

/-- What the poller says before it has been told anything. -/
def blank : Consent := (false, false, none)

/-- A reported state was read from the manager, unless nothing had been handed over. -/
def Sourced (early : Bool) (c : Consent) : Prop :=
  if early then c = blank else c ∈ r.consents

/-- All copies of the consent that are on their way to a check-in. -/
structure Faithful (r : Reporter β) : Prop where
  snap : ∀ s, r.snap = some s → s.consent ∈ r.consents
  poller : r.Sourced (!r.fed) r.poller.consent
  begun : ∀ req, r.begun = some req → r.Sourced r.early req.status.consent

variable {J version} {r : Reporter β}

variable {r' : Reporter β} {device : Cdm.Device β} {past : List Cdm.State}

lemma Sourced.mono {early : Bool} {c : Consent} (h : r.Sourced early c)
    (hpast : r.consents ⊆ r'.consents) : r'.Sourced early c := by
  cases early with
  | true => exact h
  | false => exact hpast h

lemma faithful_fresh {clock : Time} : Faithful { clock, device, past } := by
  refine ⟨fun s h => ?_, rfl, fun req h => ?_⟩
  · cases h
  · cases h

lemma Faithful.of_past (h : r.Faithful) (hpast : r.past ⊆ past) :
    Faithful { r with device, past } := by
  have hconsents : r.consents ⊆ ({ r with device, past } : Reporter β).consents :=
    List.map_subset _ hpast
  exact ⟨fun s hs => hconsents (h.snap s hs), h.poller.mono hconsents,
    fun req hreq => (h.begun req hreq).mono hconsents⟩

lemma Faithful.call (h : r.Faithful) (op : Cdm.Op) (io : Cdm.Io β) : (r.call J op io).2.Faithful :=
  h.of_past (List.subset_append_left _ _)

lemma mem_past_of_snapshot {io : Cdm.Io β} {s : Cdm.State}
    (h : r.call J .snapshot io = (.state s, r')) : s ∈ r'.past := by
  obtain ⟨clock, ⟨disk, memory⟩, poller, snap, begun, past, fed, early⟩ := r
  rcases memory with _ | state
  · cases h
  · cases h
    exact List.mem_append_right _ (List.mem_singleton.mpr rfl)

lemma Faithful.step (h : r.Faithful) (e : ReporterEvent β) : (r.step J version e).Faithful := by
  cases e with
  | start io | stop => exact faithful_fresh
  | tick now => exact ⟨h.snap, h.poller, h.begun⟩
  | cdm op io => exact h.call op io
  | snapshot io =>
    simp only [Reporter.step]
    split
    · rename_i s r' _ hcall
      have hr' : (r.call J .snapshot io).2.Faithful := h.call .snapshot io
      rw [hcall] at hr'
      have hs : s.consent ∈ r'.consents := List.mem_map_of_mem (mem_past_of_snapshot hcall)
      refine ⟨fun s' hs' => ?_, hr'.poller, hr'.begun⟩
      cases hs'
      exact hs
    · exact h
  | feed =>
    simp only [Reporter.step]
    split
    · exact h
    · rename_i s hsnap
      refine ⟨fun s' hs' => ?_, h.snap s hsnap, h.begun⟩
      cases hs'
  | beginCheckin =>
    simp only [Reporter.step]
    split
    · refine ⟨h.snap, h.poller, fun req hreq => ?_⟩
      cases hreq
      exact h.poller
    · exact h
  | finishCheckin delta =>
    refine ⟨h.snap, h.poller, fun req hreq => ?_⟩
    cases hreq

lemma Faithful.sends (h : r.Faithful) {e : ReporterEvent β} {req : CheckinRequest}
    (hsend : r.sends e = some req) : r.Sourced r.early req.status.consent := by
  unfold Reporter.sends at hsend
  split at hsend
  · rename_i delta req' hbegun
    cases hsend
    exact h.begun req' hbegun
  · cases hsend

lemma Faithful.sent (h : r.Faithful) (events : List (ReporterEvent β)) :
    ∀ x ∈ sent J version r events, x.2.Sourced x.2.early x.1.status.consent := by
  induction events generalizing r with
  | nil =>
    intro x hx
    cases hx
  | cons e events ih =>
    intro x hx
    rcases List.mem_append.mp hx with hx | hx
    · obtain ⟨req, hreq, rfl⟩ := List.mem_map.mp hx
      exact h.sends (Option.mem_toList.mp hreq)
    · exact ih (h.step e) x hx

end Reporter

open Reporter in
/-- **Reported consent.** In a run from a device whose agent is down, every check-in reports what
the manager said since the agent started exactly when each check-in begun before the poller was
first handed a state comes after the manager said that CDM is off and no session is active. -/
theorem reportsRealConsent_iff {β : Type} (J : Cdm.Json β) (version : String) (clock : Time)
    (disk : Cdm.Disk β) (events : List (ReporterEvent β)) :
    ReportsRealConsent J version (down clock disk) events ↔
      ∀ x ∈ sent J version (down clock disk) events,
        x.2.early → (false, false, none) ∈ x.2.consents := by
  have hsourced : ∀ x ∈ sent J version (down clock disk) events,
      x.2.Sourced x.2.early x.1.status.consent :=
    faithful_fresh.sent events
  constructor
  · intro h x hx hearly
    have hblank := hsourced x hx
    rw [Sourced, if_pos hearly] at hblank
    have hreal := h x hx
    rwa [hblank] at hreal
  · intro h x hx
    have hx' := hsourced x hx
    by_cases hearly : x.2.early
    · rw [Sourced, if_pos hearly] at hx'
      rw [hx']
      exact h x hx hearly
    · rwa [Sourced, if_neg hearly] at hx'

namespace Reporter.Sample

open Cdm.Sample

def disk : Cdm.Disk Token := { stateFile := some [.state { enabled := true }] }

def firstCheckin : List (ReporterEvent Token) :=
  [.start { stamp := 0 }, .beginCheckin, .finishCheckin none]

end Reporter.Sample

open Reporter Reporter.Sample in
/-- The first check-in says that CDM is off, and it has been on since before the agent started. -/
theorem first_checkin_reports_cdm_off :
    ¬ ReportsRealConsent Cdm.Sample.json "1.0" (down 0 disk) firstCheckin := by
  intro h
  have hfirst := h _ (List.mem_singleton.mpr rfl)
  exact absurd hfirst (by decide)

end Moebius
