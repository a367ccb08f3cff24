import Moebius.AccountSteps
import Moebius.ApiEffects
import Moebius.EnrollmentScope
import Moebius.Ticks

/-!
The backend as a whole: requests to all endpoints, enrollments, requests of agents and ticks of the
scheduler, one after the other, each with its own clock, identifiers and failing statements.

Roles, users, keys, tokens and certificates have no part in what devices are grouped by and what
jobs they get. `SameEstate` says so of every statement that writes them.
-/

namespace Moebius

open Proc Enrollment Renew SameBeside Table

/-- Devices, groups, tags, sites, memberships, jobs and schedules are as they were. -/
structure SameEstate (a b : Db) : Prop where
  places : SamePlaces a b
  jobs : b.jobs = a.jobs
  schedules : b.scheduledJobs = a.scheduledJobs

namespace SameEstate

variable {a b c : Db}

lemma of_eq (h : b = { a with
    tenants := b.tenants, users := b.users, certs := b.certs
    enrollmentTokens := b.enrollmentTokens, auditLog := b.auditLog, roles := b.roles
    apiKeys := b.apiKeys }) : SameEstate a b := by
  rw [h]
  exact ⟨⟨rfl, fun o => by cases o <;> rfl, fun o => by cases o <;> rfl⟩, rfl, rfl⟩

lemma refl (a : Db) : SameEstate a a := of_eq rfl

lemma trans (h : SameEstate a b) (h' : SameEstate b c) : SameEstate a c :=
  ⟨h.places.trans h'.places, h'.jobs.trans h.jobs, h'.schedules.trans h.schedules⟩

lemma of_sameFleet (h : SameFleet a b) : SameEstate a b := by
  rw [h]
  exact of_eq rfl

lemma insertToken {row : EnrollmentTokenRow} (h : a.insertToken row = some b) : SameEstate a b := by
  obtain ⟨-, t, -, rfl⟩ := eq_some_of_guard h
  exact .of_eq rfl

end SameEstate

section

variable (env : Env)

lemma SameEstate.log (db : Db) (log : Table AuditRow.id) :
    SameEstate db { db with auditLog := log } := .of_eq rfl

lemma SameEstate.of_accountStep {caller : Caller} {req : Accounts.Request} {db a b : Db}
    (h : AccountStep caller db req a b) : SameEstate a b := by
  rw [h.writes.1]
  exact .of_eq rfl

end

section

variable (C : Crypto) (env : Env)

lemma each_createToken {caller : Caller} {body : Option CreateTokenRequest} :
    (create C env caller body).Each SameEstate := by
  rcases body with _ | req
  · trivial
  unfold create
  dsimp only
  split
  · trivial
  refine each_bind (each_of_readOnly (readOnly_validateScopeTenant _ _) .refl) fun r => ?_
  rcases r with e | _
  · trivial
  refine each_bind ?_ fun r => ?_
  · unfold createToken
    rcases env.rawToken with _ | raw
    · trivial
    refine each_bind (each_attempt .refl fun a b => .insertToken) fun ok => ?_
    cases ok <;> trivial
  · rcases r with _ | ⟨row, raw⟩
    · trivial
    · exact each_bind (each_logAction .log) fun _ => trivial

lemma each_renew {who : AgentIdentity} {body : Option RenewRequest} :
    (serveHTTP C env who body).Each SameEstate := by
  refine each_of_opens (FleetRequest.opens_renew C .refl fun a b x n _ h => ?_)
    (afterFirst_renew .log C env who body)
  obtain ⟨db₁, hinsert, rfl⟩ := run_store h
  obtain ⟨⟨t, -, rfl⟩, -⟩ := Db.insertCert_eq_some hinsert
  exact .of_eq rfl

end

/-! ### Agents -/

inductive AgentRequest
  | checkin (body : Option CheckinRequest)
  | acknowledge (jobID : String)
  | submitResult (jobID : String) (body : Option JobResultSubmission)

def AgentRequest.op (cert : Option ClientCert) : AgentRequest → Op
  | checkin body => .checkin cert body
  | acknowledge jobID => .acknowledge cert jobID
  | submitResult jobID body => .submitResult cert jobID body

/-- Devices stay with their tenants, and what they are grouped by and scheduled for is as it was. -/
structure SameGrouping (a b : Db) : Prop where
  tenants : ∀ id, (b.devices.get? id).map (·.tenantID) = (a.devices.get? id).map (·.tenantID)
  owners : ∀ o, Db.Owner.rows o b = o.rows a
  members : ∀ o, Db.Owner.members o b = o.members a
  schedules : b.scheduledJobs = a.scheduledJobs

namespace SameGrouping

variable {a b c : Db}

lemma trans (h : SameGrouping a b) (h' : SameGrouping b c) : SameGrouping a c :=
  ⟨fun id => (h'.tenants id).trans (h.tenants id), fun o => (h'.owners o).trans (h.owners o),
    fun o => (h'.members o).trans (h.members o), h'.schedules.trans h.schedules⟩

lemma of_sameBeside (h : SameBeside a b) : SameGrouping a b := by
  rw [h]
  exact ⟨fun _ => rfl, fun o => by cases o <;> rfl, fun o => by cases o <;> rfl, rfl⟩

lemma refl (a : Db) : SameGrouping a a := of_sameBeside rfl

lemma updateDevice (a : Db) (now : Time) (req : CheckinRequest) (agentID tenantID : String) :
    SameGrouping a (a.updateDevice now req agentID tenantID) := by
  refine ⟨fun id => ?_, fun o => by cases o <;> rfl, fun o => by cases o <;> rfl, rfl⟩
  rw [Db.updateDevice, get?_update, Option.map_map]
  refine Option.map_congr fun row _ => ?_
  simp only [Function.comp_apply]
  split <;> rfl

end SameGrouping

section

variable (cfg : ServerConfig) (env : Env) (cert : Option ClientCert)

lemma each_agent {req : AgentRequest} : ((req.op cert).proc cfg env).Each SameGrouping := by
  have hsame : ∀ a b, SameBeside a b → SameGrouping a b := fun _ _ => .of_sameBeside
  cases req with
  | checkin body =>
    refine each_bind (each_authenticate cert .refl (fun who => ?_) _) fun _ => trivial
    exact each_of_opens (FleetRequest.opens_checkin env who body fun db now req =>
      .updateDevice db now req _ _) (afterFirst_checkin hsame env who body)
  | acknowledge jobID =>
    refine each_bind (each_authenticate cert .refl (fun who => ?_) _) fun _ => trivial
    exact each_acknowledge (log hsame) fun db => hsame db _ rfl
  | submitResult jobID body =>
    refine each_bind (each_authenticate cert .refl (fun who => ?_) _) fun _ => trivial
    exact each_submitResult hsame env who jobID body

def JobsFrom (a b : Db) : Prop :=
  ∀ j ∈ b.jobs.rows, ∃ j' ∈ a.jobs.rows, j'.tenantID = j.tenantID ∧ j'.deviceID = j.deviceID

lemma JobsFrom.trans {a b c : Db} (h : JobsFrom a b) (h' : JobsFrom b c) : JobsFrom a c := by
  intro j hj
  obtain ⟨j', hj', ht', hd'⟩ := h' j hj
  obtain ⟨j'', hj'', ht'', hd''⟩ := h j' hj'
  exact ⟨j'', hj'', ht''.trans ht', hd''.trans hd'⟩

lemma jobsFrom_of_jobStep {reported : Option String} {a b : Db} (h : JobStep reported none a b) :
    JobsFrom a b := by
  intro j hj
  have hjb : b.job? j.id = some j := get?_of_mem hj
  rcases ha : a.job? j.id with _ | j₀
  · -- the agent's jobs are retried, for the same device
    obtain ⟨-, hchained⟩ := h.new ha hjb
    cases hchained with
    | root hp ho => cases ho
    | retry hparent hr =>
      exact ⟨_, mem_of_get? hparent, hr.tenantID.symm, hr.deviceID.symm⟩
  · obtain ⟨j', hj', hmove⟩ := h.kept ha
    cases hjb.symm.trans hj'
    have hsame := hmove.same
    exact ⟨j₀, mem_of_get? ha, hsame.tenantID.symm, hsame.deviceID.symm⟩

lemma agent_after (req : AgentRequest) (faults : List Bool) (db : Db) :
    SameGrouping db (((req.op cert).proc cfg env).run faults db).2 ∧
      JobsFrom db (((req.op cert).proc cfg env).run faults db).2 := by
  constructor
  · exact wp_rel .refl (fun _ _ _ => .trans) (wp_of_each (each_agent cfg env cert) db) faults
  · have hsteps : ((req.op cert).proc cfg env).wp JobsFrom (fun _ _ => True) db := by
      refine wp_mono (fun a b h => ?_) (fun _ _ h => h) (wp_proc cfg env (req.op cert) db)
      cases req <;> exact jobsFrom_of_jobStep h
    exact wp_rel (fun _ j hj => ⟨j, hj, rfl, rfl⟩) (fun _ _ _ => .trans) hsteps faults

end

namespace Backend

structure Config where
  api : Api.Config
  accounts : Accounts.Config
  crypto : Crypto
  scheduler : Scheduler.Config

/-- Whatever else the server does to its database. -/
structure Outside where
  apply : Db → Db
  same : ∀ db, SameEstate db (apply db)

inductive Action
  | request (caller : Caller) (req : Api.Request)
  | account (caller : Caller) (req : Accounts.Request)
  | createToken (caller : Caller) (body : Option CreateTokenRequest)
  | deleteToken (caller : Caller) (tokenID : String)
  | enroll (body : Option Enroll.EnrollRequest)
  | renew (cert : Option ClientCert) (body : Option RenewRequest)
  | agent (cert : Option ClientCert) (req : AgentRequest)
  | tick
  | outside (o : Outside)

def Action.Aside : Action → Prop
  | .account _ _ | .createToken _ _ | .deleteToken _ _ | .renew _ _ | .outside _ => True
  | _ => False

structure Event where
  action : Action
  env : Env
  faults : List Bool := []

variable (cfg : Config) (db : Db)

def Event.after (e : Event) : Db :=
  match e.action with
  | .request caller req => ((Api.serve cfg.api e.env caller req).run e.faults db).2
  | .account caller req => ((Accounts.serve cfg.accounts e.env caller req).run e.faults db).2
  | .createToken caller body =>
    ((create cfg.crypto e.env caller body).run e.faults db).2
  | .deleteToken caller tokenID => ((delete e.env caller tokenID).run e.faults db).2
  | .enroll body => ((Enroll.serveHTTP cfg.crypto e.env cfg.api.quota body).run e.faults db).2
  | .renew cert body =>
    ((authenticate (Op.authTime e.env) cert fun who =>
      serveHTTP cfg.crypto e.env who body).run e.faults db).2
  | .agent cert req =>
    (((req.op cert).proc ⟨cfg.api.quota, cfg.scheduler⟩ e.env).run e.faults db).2
  | .tick => ((Scheduler.runTick cfg.api.cron cfg.scheduler e.env).run e.faults db).2
  | .outside o => o.apply db

def run (events : List Event) : Db := events.foldl (Event.after cfg) db

lemma sameEstate_after {cfg : Config} {e : Event} {db : Db} (h : e.action.Aside) :
    SameEstate db (e.after cfg db) := by
  have hrun : ∀ {α : Type} {p : Proc Db α}, p.Each SameEstate →
      SameEstate db (p.run e.faults db).2 :=
    fun hp => wp_rel .refl (fun _ _ _ => .trans) (wp_of_each hp db) e.faults
  obtain ⟨action, env, faults⟩ := e
  cases action with
  | account caller req =>
    exact wp_rel .refl (fun _ _ _ => .trans) (wp_mono (fun _ _ => .of_accountStep)
      (fun _ _ h => h) (AccountStep.wp_serve env cfg.accounts req db)) faults
  | createToken caller body => exact hrun (each_createToken cfg.crypto env)
  | deleteToken caller tokenID => exact hrun (each_delete env .log fun _ => .of_eq rfl)
  | renew cert body =>
    exact hrun (each_authenticate cert .refl (fun who => each_renew cfg.crypto env) _)
  | outside o => exact o.same db
  | request | enroll | agent | tick => exact h.elim

end Backend

end Moebius
