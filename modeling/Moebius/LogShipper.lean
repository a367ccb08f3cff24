import Moebius.Models

/-!
The log shipper of the agent.

Log entries are buffered and a loop sends them to the server, a batch at a time. While a batch is on
its way more entries may be added; a batch that fails is put back in front of them, and what does
not fit into the buffer then is cut off at its end.
-/

namespace Moebius.LogShipper

open List Sublist

def defaultMaxBatch : ℕ := 500
def defaultMaxBuffer : ℕ := 5000

structure LogEntry where
  timestamp : Time
  level : String
  message : String
  deriving DecidableEq

structure LogShipment where
  agentID : String
  entries : List LogEntry
  deriving DecidableEq

structure Shipper where
  agentID : String
  maxBatch : ℕ := defaultMaxBatch
  buffer : List LogEntry := []

namespace Shipper

variable (s : Shipper)

/-- An entry that finds the buffer full is dropped. -/
def add (entry : LogEntry) : Shipper :=
  if s.buffer.length ≥ defaultMaxBuffer then s
  else { s with buffer := s.buffer ++ [entry] }

/-- `flush` until it gives up the lock: nothing to do, or a shipment to send. -/
def takeBatch : Option LogShipment × Shipper :=
  if s.buffer.length = 0 then (none, s)
  else
    let n := if s.buffer.length > s.maxBatch then s.maxBatch else s.buffer.length
    (some { agentID := s.agentID, entries := s.buffer.take n },
      { s with buffer := s.buffer.drop n })

def rebuffer (batch : List LogEntry) : Shipper :=
  let buffer := batch ++ s.buffer
  { s with
    buffer := if buffer.length > defaultMaxBuffer then buffer.take defaultMaxBuffer else buffer }

end Shipper

inductive Outcome
  /-- It cannot be encoded, or no request can be made of it. -/
  | unsent
  | transportError
  | status (code : ℕ)

/-- Where the flush loop stands; the last flush is the one after the context has been cancelled. -/
inductive Loop
  | waiting
  | posting (shipment : LogShipment) (last : Bool)
  | returned

/-- The shipper with its loop, and the batches answered with a status below 500. -/
structure State where
  shipper : Shipper
  loop : Loop := .waiting
  delivered : List (List LogEntry) := []

inductive Event
  | add (entry : LogEntry)
  | tick
  | done
  | outcome (o : Outcome)

namespace State

variable (last : Bool) (s : State)

def flush : State :=
  match s.shipper.takeBatch with
  | (none, shipper) => { s with shipper, loop := if last then .returned else .waiting }
  | (some shipment, shipper) => { s with shipper, loop := .posting shipment last }

def finish (shipment : LogShipment) (last : Bool) (o : Outcome) (s : State) : State :=
  let s := { s with loop := if last then .returned else .waiting }
  match o with
  | .unsent => s
  | .transportError => { s with shipper := s.shipper.rebuffer shipment.entries }
  | .status code =>
    if code ≥ 500 then { s with shipper := s.shipper.rebuffer shipment.entries }
    else { s with delivered := s.delivered ++ [shipment.entries] }

def step : Event → State
  | .add entry => { s with shipper := s.shipper.add entry }
  | .tick =>
    match s.loop with
    | .waiting => s.flush false
    | _ => s
  | .done =>
    match s.loop with
    | .waiting => s.flush true
    | _ => s
  | .outcome o =>
    match s.loop with
    | .posting shipment last => s.finish shipment last o
    | _ => s

def run (events : List Event) : State := events.foldl step s

def inFlight : List LogEntry :=
  match s.loop with
  | .posting shipment _ => shipment.entries
  | _ => []

/-- Everything that has been delivered or still may be, in this order. -/
def accounted : List LogEntry := s.delivered.flatten ++ s.inFlight ++ s.shipper.buffer

end State

def added (events : List Event) : List LogEntry :=
  events.filterMap fun
    | .add entry => some entry
    | _ => none

/-! ### The invariant -/

/-- The buffer is within its bound, and what is accounted for is part of what was added. -/
structure InOrder (sofar : List LogEntry) (s : State) : Prop where
  bounded : s.shipper.buffer.length ≤ defaultMaxBuffer
  sublist : s.accounted.Sublist sofar

namespace InOrder

variable {sofar : List LogEntry} {s : State}

lemma add (h : InOrder sofar s) (entry : LogEntry) :
    InOrder (sofar ++ [entry]) { s with shipper := s.shipper.add entry } := by
  unfold Shipper.add
  split
  · exact ⟨h.bounded, h.sublist.trans (sublist_append_left _ _)⟩
  · rename_i hroom
    constructor
    · simp only [length_append, length_singleton]
      omega
    · have hsublist := h.sublist.append (refl [entry])
      rwa [State.accounted, append_assoc] at hsublist

lemma flush (h : InOrder sofar s) (hidle : s.inFlight = []) (last : Bool) :
    InOrder sofar (s.flush last) := by
  have hsublist : (s.delivered.flatten ++ s.shipper.buffer).Sublist sofar := by
    have hs := h.sublist
    rwa [State.accounted, hidle, append_nil] at hs
  unfold State.flush Shipper.takeBatch
  by_cases hempty : s.shipper.buffer.length = 0
  · rw [if_pos hempty]
    refine ⟨h.bounded, ?_⟩
    cases last <;> simpa [State.accounted, State.inFlight] using hsublist
  · rw [if_neg hempty]
    constructor
    · have hbounded := h.bounded
      simp only [length_drop]
      omega
    · simpa [State.accounted, State.inFlight] using hsublist

lemma rebuffer {batch : List LogEntry} (shipper : Shipper)
    (h : (s.delivered.flatten ++ batch ++ shipper.buffer).Sublist sofar) :
    (shipper.rebuffer batch).buffer.length ≤ defaultMaxBuffer ∧
      (s.delivered.flatten ++ (shipper.rebuffer batch).buffer).Sublist sofar := by
  rw [append_assoc] at h
  unfold Shipper.rebuffer
  dsimp only
  split
  · rename_i hlong
    refine ⟨?_, ?_⟩
    · rw [length_take]
      exact Nat.min_le_left _ _
    · exact ((refl _).append (take_sublist _ _)).trans h
  · rename_i hshort
    exact ⟨Nat.le_of_not_lt hshort, h⟩

lemma finish (h : InOrder sofar s) {shipment : LogShipment} {last : Bool}
    (hloop : s.loop = .posting shipment last) (o : Outcome) :
    InOrder sofar (s.finish shipment last o) := by
  have hsublist : (s.delivered.flatten ++ shipment.entries ++ s.shipper.buffer).Sublist sofar := by
    have hs := h.sublist
    rwa [State.accounted, State.inFlight, hloop] at hs
  have hidle : ∀ s' : State, s'.loop = (if last then .returned else .waiting) →
      s'.inFlight = [] := by
    intro s' hs'
    unfold State.inFlight
    rw [hs']
    cases last <;> rfl
  -- the batch is back in the buffer
  have hback : InOrder sofar { s with
      loop := if last then .returned else .waiting
      shipper := s.shipper.rebuffer shipment.entries } := by
    obtain ⟨hbounded, hkept⟩ := rebuffer s.shipper hsublist
    refine ⟨hbounded, ?_⟩
    rw [State.accounted, hidle _ rfl, append_nil]
    exact hkept
  cases o with
  | unsent =>
    refine ⟨h.bounded, ?_⟩
    rw [State.accounted]
    rw [hidle _ rfl, append_nil]
    exact ((sublist_append_left _ _).append (refl _)).trans hsublist
  | transportError => exact hback
  | status code =>
    unfold State.finish
    dsimp only
    split
    · exact hback
    · refine ⟨h.bounded, ?_⟩
      rw [State.accounted, hidle _ rfl, append_nil]
      simpa using hsublist

lemma step (h : InOrder sofar s) (e : Event) : InOrder (sofar ++ added [e]) (s.step e) := by
  cases e with
  | add entry => exact h.add entry
  | tick =>
    rw [show added [Event.tick] = [] from rfl, append_nil]
    dsimp only [State.step]
    split
    · rename_i hloop
      exact h.flush (by rw [State.inFlight, hloop]) false
    · exact h
  | done =>
    rw [show added [Event.done] = [] from rfl, append_nil]
    dsimp only [State.step]
    split
    · rename_i hloop
      exact h.flush (by rw [State.inFlight, hloop]) true
    · exact h
  | outcome o =>
    rw [show added [Event.outcome o] = [] from rfl, append_nil]
    dsimp only [State.step]
    split
    · rename_i hloop
      exact h.finish hloop o
    · exact h

lemma run (h : InOrder sofar s) (events : List Event) :
    InOrder (sofar ++ added events) (s.run events) := by
  induction events generalizing sofar s with
  | nil =>
    rw [show added [] = [] from rfl, append_nil]
    exact h
  | cons e events ih =>
    have hadded : added (e :: events) = added [e] ++ added events := filterMap_append (l := [e])
    rw [hadded, ← append_assoc]
    exact ih (h.step e)

end InOrder

/-- **The shipper keeps the order and never repeats.** However calls of `Add`, the loop and its
requests interleave, the buffer holds at most 5000 entries; and the batches answered with a status
below 500, the batch on its way and the buffer make up a subsequence of what was added. -/
theorem shipper_keeps_order (agentID : String) (events : List Event) :
    let s := State.run { shipper := { agentID } } events
    s.shipper.buffer.length ≤ 5000 ∧
      (s.delivered.flatten ++ s.inFlight ++ s.shipper.buffer).Sublist (added events) ∧
      ((added events).Nodup →
        (s.delivered.flatten ++ s.inFlight ++ s.shipper.buffer).Nodup) := by
  have hstart : InOrder [] { shipper := { agentID } } := ⟨Nat.zero_le _, .slnil⟩
  have h := hstart.run events
  rw [nil_append] at h
  exact ⟨h.bounded, h.sublist, fun hnodup => hnodup.sublist h.sublist⟩

end Moebius.LogShipper
