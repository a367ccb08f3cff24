import Moebius.Cdm
import Moebius.Server

/-!
An agent and the server, with the network between them.

The agent runs one goroutine for every job of every check-in response it receives. Messages stay
in the network for good: a check-in response, an acknowledge request or the response to one may
arrive late, never, or many times over, in any order, but a response to an acknowledge request
only reaches the call that waits for it. Local users call the CDM manager in between, the clock
moves on, and the agent may crash and start again.
-/

namespace Moebius

inductive JobStage
  /-- Before the CDM gate. -/
  | received
  | acknowledging
  /-- The call returned success. -/
  | acknowledged
  /-- CDM was found enabled. -/
  | enabled
  /-- A session was found active; the execution is about to be logged. -/
  | logging (actor : String)
  /-- The payload is about to be started. -/
  | ready
  | executing
  | stopped
  deriving DecidableEq

structure JobRun where
  job : JobDispatch
  stage : JobStage
  deriving DecidableEq

variable {β : Type}

namespace Executor

variable (J : Cdm.Json β)

/-- The next thing `runJob` does without the server. A goroutine whose acknowledge call is out
waits; the result of an execution is submitted by a request of its own. -/
def runJob (now : Time) (io : Cdm.Io β) (m : Cdm.Manager β) (g : JobRun) :
    JobStage × Cdm.Manager β :=
  match g.stage with
  | .received =>
    let (allowed, m) := m.canExecuteJob J now io
    (if allowed then .acknowledging else .stopped, m)
  | .acknowledging => (.acknowledging, m)
  | .acknowledged => (if m.enabled then .enabled else .ready, m)
  | .enabled =>
    let (snap, m) := m.snapshot J now io
    (if snap.sessionActive then .logging snap.sessionGrantedBy else .ready, m)
  | .logging actor => (.ready, m.logJobExecution J io g.job.jobID g.job.type.text actor)
  | .ready => (.executing, m)
  | .executing => (.stopped, m)
  | .stopped => (.stopped, m)

/-- The acknowledge call returns: only `204` and `200` are a success. -/
def acknowledge (r : Reply Unit) : JobStage :=
  if r.status ≠ 204 ∧ r.status ≠ 200 then .stopped else .acknowledged

end Executor

/-! ### The system -/

structure System (β : Type) where
  db : Db
  /-- The agent's clock. -/
  clock : Time
  device : Cdm.Device β
  /-- The goroutines, in the order they were started. -/
  runs : List JobRun := []
  /-- The check-in responses sent so far. -/
  responses : List CheckinResponse := []
  /-- The acknowledge requests sent so far: the goroutine that calls, and the job. -/
  requests : List (ℕ × String) := []
  /-- The responses to acknowledge requests sent so far, with the goroutine that called. -/
  replies : List (ℕ × Reply Unit) := []
  /-- The acknowledge requests answered with success so far, from whomever they came. -/
  accepted : List (Option ℕ × String) := []
  /-- The jobs started so far, with the goroutine that started them. -/
  started : List (ℕ × String) := []

/-- What happens next. An event that cannot happen changes nothing. -/
inductive SystemEvent (β : Type)
  /-- The server serves a request from anyone, or runs one of its own jobs. -/
  | serve (c : Call)
  | arrive (k : ℕ) (cert : Option ClientCert) (env : Env) (faults : List Bool)
  | deliver (k : ℕ)
  /-- A copy of the response to an acknowledge request reaches the agent. -/
  | reply (k : ℕ)
  /-- An acknowledge call returns without a response. -/
  | fail (i : ℕ)
  | step (i : ℕ) (io : Cdm.Io β)
  | cdm (op : Cdm.Op) (io : Cdm.Io β)
  | crash
  | restart (io : Cdm.Io β)
  | tick (now : Time)

def Answer.responses : Answer → List CheckinResponse
  | .checkin (.ok _ resp) => [resp]
  | _ => []

/-- The response to an acknowledge request, for the goroutine that called. -/
def Answer.replies (sender : Option ℕ) (answer : Answer) : List (ℕ × Reply Unit) :=
  match sender, answer with
  | some i, .noBody r => [(i, r)]
  | _, _ => []

instance {β : Type} (r : Reply β) : Decidable r.Is2xx := inferInstanceAs (Decidable (_ ∧ _))

/-- The job whose acknowledgement the server has just answered with success. -/
def Call.accepts (c : Call) (answer : Answer) : List String :=
  match c.op, answer with
  | .acknowledge _ jobID, .noBody r => if r.Is2xx then [jobID] else []
  | _, _ => []

namespace System

variable (J : Cdm.Json β) (cfg : ServerConfig)

def serve (sender : Option ℕ) (c : Call) (s : System β) : System β :=
  let answer := c.answer cfg s.db
  { s with
    db := c.after cfg s.db
    responses := s.responses ++ answer.responses
    replies := s.replies ++ answer.replies sender
    accepted := s.accepted ++ (c.accepts answer).map (sender, ·) }

variable (i : ℕ) (g : JobRun) (s : System β)

def setStage (stage : JobStage) (s : System β) : System β :=
  { s with runs := s.runs.set i { g with stage } }

def advance (io : Cdm.Io β) (m : Cdm.Manager β) (s : System β) : System β :=
  let next := Executor.runJob J s.clock io m g
  let s := { s.setStage i g next.1 with device := next.2.device }
  match g.stage, next.1 with
  | .received, .acknowledging => { s with requests := s.requests ++ [(i, g.job.jobID)] }
  | .ready, _ => { s with started := s.started ++ [(i, g.job.jobID)] }
  | _, _ => s

def kill : System β :=
  { s with
    device := { s.device with memory := none }
    runs := s.runs.map ({ · with stage := .stopped }) }

def after : SystemEvent β → System β
  | .serve c => s.serve cfg none c
  | .arrive k cert env faults =>
    match s.requests[k]? with
    | none => s
    | some (i, jobID) => s.serve cfg (some i) ⟨.acknowledge cert jobID, env, faults⟩
  | .deliver k =>
    match s.responses[k]?, s.device.memory with
    | some resp, some _ => { s with runs := s.runs ++ resp.jobs.map (⟨·, .received⟩) }
    | _, _ => s
  | .reply k =>
    match s.replies[k]? with
    | none => s
    | some (i, r) =>
      match s.runs[i]? with
      | some ⟨job, .acknowledging⟩ =>
        s.setStage i ⟨job, .acknowledging⟩ (Executor.acknowledge r)
      | _ => s
  | .fail i =>
    match s.runs[i]? with
    | some ⟨job, .acknowledging⟩ => s.setStage i ⟨job, .acknowledging⟩ .stopped
    | _ => s
  | .step i io =>
    match s.runs[i]?, s.device.memory with
    | some g, some state => s.advance J i g io { state, disk := s.device.disk }
    | _, _ => s
  | .cdm op io => { s with device := (s.device.step J ⟨s.clock, .call op, io⟩).2 }
  | .crash => s.kill
  | .restart io => { s.kill with device := (s.device.restart J s.clock io).2 }
  | .tick now => if s.clock ≤ now then { s with clock := now } else s

def run (events : List (SystemEvent β)) : System β :=
  events.foldl (System.after J cfg) s

lemma run_invariant {I : System β → Prop} {s : System β} {events : List (SystemEvent β)}
    (hI : ∀ s, I s → ∀ e ∈ events, I (s.after J cfg e)) (h : I s) : I (s.run J cfg events) := by
  induction events generalizing s with
  | nil => exact h
  | cons e events ih =>
    exact ih (fun s hs x hx => hI s hs x (List.mem_cons_of_mem _ hx)) (hI s h e List.mem_cons_self)

end System

namespace Sample

open Cdm.Sample

/-- The small server with the agent of one of its devices, before anything has happened. -/
def system : System Token := { db, clock := 0, device := .fresh none }

def step (i : ℕ) : SystemEvent Token := .step i { stamp := 0 }

def arrive (k : ℕ) : SystemEvent Token := .arrive k (some (cert "d")) (env 3 "l") []

def handedOut : List (SystemEvent Token) :=
  [.serve (call (create "d") 1 "j"), .serve (call (checkin "d" {}) 2 "k")]

end Sample

end Moebius
