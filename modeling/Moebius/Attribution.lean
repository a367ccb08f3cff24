import Moebius.LocalAudit
import Moebius.Runs
import Moebius.Sessions

/-!
Who a consent action is attributed to.

Consent is given on the command line, through the agent's socket, and in the local web interface.
Both interfaces check a session before anything else. The web interface hands the user of the
session on to the handlers. The socket only checks that there is a session: who acts is what the
parameters of the request say.
-/

namespace Moebius.Attribution

open LocalAuth LocalAudit Cdm.Manager Cdm Option

variable {β : Type} (J : Json β)

/-- The parts of the agent that the requests use: the sessions, the manager, and the calls that the
local audit log has received. -/
structure Agent (β : Type) where
  sessions : SessionManager := {}
  manager : Manager β := {}
  logged : List LogCall := []

inductive Command
  | enable
  | disable
  | grant (duration : String)
  | revoke

inductive Refusal
  | unauthorized (message : String)
  | invalid (message : String)
  | failed (message : String)

/-- The clock, the answers of the system and `time.ParseDuration`. -/
structure World (β : Type) where
  now : Time
  io : Io β
  parseDuration : String → Except String ℤ

variable (w : World β) (a : Agent β)

/-- The end of a handler: the manager has been called, and if it succeeded the call is logged. -/
def finish (r : Except String Unit × Manager β) (call : LogCall) : Except Refusal Unit × Agent β :=
  match r with
  | (.error err, manager) => (.error (.failed err), { a with manager })
  | (.ok (), manager) => (.ok (), { a with manager, logged := a.logged ++ [call] })

/-- The handlers of either interface, once they know who acts. -/
def perform (iface actor : String) (a : Agent β) : Command → Except Refusal Unit × Agent β
  | .enable =>
    finish a (a.manager.enable J w.io actor) (.cdmToggle actor iface "disabled" "enabled")
  | .disable =>
    finish a (a.manager.disable J w.io actor) (.cdmToggle actor iface "enabled" "disabled")
  | .grant duration =>
    match w.parseDuration duration with
    | .error err => (.error (.invalid ("invalid duration: " ++ err)), a)
    | .ok dur =>
      if dur ≤ 0 then (.error (.invalid "duration must be positive"), a)
      else finish a (a.manager.grantSession J w.now w.io actor dur)
        (.cdmGrant actor iface duration (some (w.io.stamp + dur)))
  | .revoke =>
    finish a (a.manager.revokeSession J w.io actor) (.cdmRevoke actor iface "user request")

def ipcRequest (token : String) (params : Except String (String × Command)) (a : Agent β) :
    Except Refusal Unit × Agent β :=
  if token = "" then (.error (.unauthorized "authentication required"), a)
  else match a.sessions.validate w.now token with
    | (.error _, sessions) =>
      (.error (.unauthorized "invalid or expired session"), { a with sessions })
    | (.ok _, sessions) =>
      match params with
      | .error err => (.error (.invalid err), { a with sessions })
      | .ok (actor, command) => perform J w "cli" actor { a with sessions } command

def webRequest (cookie : Option String) (body : Option Command) (a : Agent β) :
    Except Refusal Unit × Agent β :=
  match cookie with
  | none => (.error (.unauthorized "authentication required"), a)
  | some token =>
    match a.sessions.validate w.now token with
    | (.error _, sessions) => (.error (.unauthorized "session expired"), { a with sessions })
    | (.ok session, sessions) =>
      match body with
      | none => (.error (.invalid "invalid request body"), { a with sessions })
      | some command => perform J w "ui" session.username { a with sessions } command

inductive Event
  | session (op : LocalAuth.Op)
  | ipc (token : String) (params : Except String (String × Command))
  | web (cookie : Option String) (body : Option Command)

def step : World β × Event → Agent β
  | (w, .session op) => { a with sessions := (a.sessions.handle ⟨w.now, op⟩).2 }
  | (w, .ipc token params) => (ipcRequest J w token params a).2
  | (w, .web cookie body) => (webRequest J w cookie body a).2

/-! ### Attribution -/

def Event.user (now : Time) : Event → Option String
  | .session _ => none
  | .ipc token _ => (a.sessions.validate now token).1.toOption.map (·.username)
  | .web cookie _ => cookie.bind fun token =>
    (a.sessions.validate now token).1.toOption.map (·.username)

/-- A new entry of the manager's log and a new granter of the session name the user. -/
structure Records (io : Io β) (user : String) (m m' : Manager β) : Prop where
  audited : m'.disk.auditLog = m.disk.auditLog ∨
    ∃ e, m'.disk.auditLog = AuditLog.write J io e m.disk.auditLog ∧ e.actor = user
  granted : m'.state.sessionGrantedBy = m.state.sessionGrantedBy ∨
    m'.state.sessionGrantedBy = "" ∨ m'.state.sessionGrantedBy = user

/-- So do the calls the local log receives. -/
structure Names (io : Io β) (user : String) (a a' : Agent β) : Prop where
  logged : ∃ calls, a'.logged = a.logged ++ calls ∧ ∀ c ∈ calls, c.entry.username = user
  records : Records J io user a.manager a'.manager

/-- What a step records names the user of the request; a step without one records nothing. -/
def Attributed (e : World β × Event) : Prop :=
  match e.2.user a e.1.now with
  | some user => Names J e.1.io user a (step J a e)
  | none => (step J a e).logged = a.logged ∧ (step J a e).manager = a.manager

/-- A request on the socket gives its own user as the actor. -/
def Honest (e : World β × Event) : Prop :=
  ∀ token actor command, e.2 = .ipc token (.ok (actor, command)) →
    ∀ user, e.2.user a e.1.now = some user → actor = user

section

variable {J} {w : World β} {user : String} {a : Agent β}

variable (m : Manager β)

lemma Records.refl : Records J w.io user m m := ⟨.inl rfl, .inl rfl⟩

lemma records_enable : Records J w.io user m (m.enable J w.io user).2 := by
  unfold enable persistLocked audit
  cases w.io.write with
  | failed err left => exact ⟨.inl rfl, .inl rfl⟩
  | ok =>
    dsimp only
    split
    · exact ⟨.inr ⟨_, rfl, rfl⟩, .inl rfl⟩
    · exact ⟨.inl rfl, .inl rfl⟩

lemma records_disable : Records J w.io user m (m.disable J w.io user).2 := by
  unfold disable persistLocked audit
  cases w.io.write with
  | failed err left => exact ⟨.inl rfl, .inr (.inl rfl)⟩
  | ok =>
    dsimp only
    split
    · exact ⟨.inr ⟨_, rfl, rfl⟩, .inr (.inl rfl)⟩
    · exact ⟨.inl rfl, .inr (.inl rfl)⟩

lemma records_grantSession (dur : ℤ) :
    Records J w.io user m (m.grantSession J w.now w.io user dur).2 := by
  unfold grantSession persistLocked audit
  split
  · exact .refl m
  · cases w.io.write with
    | failed err left => exact ⟨.inl rfl, .inr (.inr rfl)⟩
    | ok => exact ⟨.inr ⟨_, rfl, rfl⟩, .inr (.inr rfl)⟩

lemma records_revokeSession : Records J w.io user m (m.revokeSession J w.io user).2 := by
  unfold revokeSession persistLocked audit
  split
  · exact .refl m
  · cases w.io.write with
    | failed err left => exact ⟨.inl rfl, .inr (.inl rfl)⟩
    | ok => exact ⟨.inr ⟨_, rfl, rfl⟩, .inr (.inl rfl)⟩

lemma names_refl (sessions : SessionManager) : Names J w.io user a { a with sessions } :=
  ⟨⟨[], (List.append_nil _).symm, fun _ hc => absurd hc List.not_mem_nil⟩, .refl _⟩

lemma names_finish {r : Except String Unit × Manager β} {call : LogCall}
    (h : Records J w.io user a.manager r.2) (hcall : call.entry.username = user) :
    Names J w.io user a (finish a r call).2 := by
  obtain ⟨_ | _, m⟩ := r
  · exact ⟨(names_refl (J := J) (w := w) a.sessions).logged, h⟩
  · refine ⟨⟨[call], rfl, fun c hc => ?_⟩, h⟩
    rwa [List.mem_singleton.mp hc]

lemma names_perform (iface : String) (command : Command) :
    Names J w.io user a (perform J w iface user a command).2 := by
  cases command with
  | enable => exact names_finish (records_enable _) rfl
  | disable => exact names_finish (records_disable _) rfl
  | revoke => exact names_finish (records_revokeSession _) rfl
  | grant duration =>
    unfold perform
    dsimp only
    split
    · exact names_refl _
    · split
      · exact names_refl _
      · exact names_finish (records_grantSession _ _) rfl

end

lemma attributed_of_honest {a : Agent β} {e : World β × Event} (h : Honest a e) :
    Attributed J a e := by
  obtain ⟨w, e⟩ := e
  unfold Attributed
  cases e with
  | session op => exact ⟨rfl, rfl⟩
  | ipc token params =>
    dsimp only [Event.user, step, ipcRequest]
    rcases hv : a.sessions.validate w.now token with ⟨_ | session, sessions⟩
    · dsimp only [Except.toOption, map_none]
      split <;> exact ⟨rfl, rfl⟩
    · have huser : (Event.ipc token params).user a w.now = some session.username := by
        simp [Event.user, hv, Except.toOption]
      dsimp only [Except.toOption, map_some]
      split
      · exact names_refl _
      rcases params with _ | ⟨actor, command⟩
      · exact names_refl _
      · have hactor : actor = session.username := h token actor command rfl _ huser
        subst hactor
        obtain ⟨hlogged, hrecords⟩ :
            Names J w.io session.username { a with sessions } (perform J w "cli" _ _ command).2 :=
          names_perform "cli" command
        exact ⟨hlogged, hrecords⟩
  | web cookie body =>
    rcases cookie with _ | token
    · exact ⟨rfl, rfl⟩
    dsimp only [Event.user, step, webRequest, bind_some]
    rcases a.sessions.validate w.now token with ⟨_ | session, sessions⟩
    · exact ⟨rfl, rfl⟩
    · rcases body with _ | command
      · exact names_refl _
      · obtain ⟨hlogged, hrecords⟩ :
            Names J w.io session.username { a with sessions } (perform J w "ui" _ _ command).2 :=
          names_perform "ui" command
        exact ⟨hlogged, hrecords⟩

/-- If the requests on the socket give their own users as actors, what a run records names, step by
step, the user whose token came with the request. -/
theorem attributed_run (a : Agent β) (events : List (World β × Event))
    (h : Along (step J) Honest events a) : Along (step J) (Attributed J) events a :=
  h.imp fun _ _ _ => attributed_of_honest J

def Impersonation.world : World Sample.Token where
  now := 0
  io := { stamp := 0 }
  parseDuration _ := .ok 60

/-- Alice logs in on the command line and switches consent on, in the name of `actor`. -/
def Impersonation.events (actor : String) : List (World Sample.Token × Event) :=
  [(world, .session (.create (fun _ => .ok [1]) "alice" .cli)),
    (world, .ipc "01" (.ok (actor, .enable))), (world, .ipc "01" (.ok (actor, .grant "1m")))]

open Impersonation in
theorem attributed_own : Along (step Sample.json) (Attributed Sample.json) (events "alice") {} := by
  refine attributed_run Sample.json {} (events "alice") ⟨?_, ?_, ?_, trivial⟩
  · rintro _ _ _ ⟨⟩
  · rintro _ _ _ ⟨⟩ user huser
    exact some.inj huser
  · rintro _ _ _ ⟨⟩ user huser
    exact some.inj huser

open Impersonation in
/-- Both logs and the session name Bob, who has never logged in. -/
theorem recorded_as_bob :
    let a := (events "bob").foldl (step Sample.json) {}
    a.logged.map (·.entry.username) = ["bob", "bob"] ∧
      (AuditLog.read Sample.json 0 a.manager.disk.auditLog).map (·.actor) =
        ["bob", "bob"] ∧
      a.manager.state.sessionGrantedBy = "bob" := by
  decide

end Moebius.Attribution
