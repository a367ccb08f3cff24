import Moebius.Hex
import Moebius.Models

/-!
The sessions of local users on an agent.

A session manager keeps sessions in memory, by token. A session that is used in time is refreshed;
one that has been idle for too long, or a web session that is too old, is dropped by whoever finds
it, be it a validation or the periodic cleanup.
-/

namespace Moebius.LocalAuth

open Function List

inductive SessionType
  | cli
  | web
  deriving DecidableEq

def minute : Time := 60 * second

def cliIdleTimeout : Time := 15 * minute
def webIdleTimeout : Time := 30 * minute
def webMaxLifetime : Time := 8 * 60 * minute
def tokenBytes : ℕ := 32

structure Session where
  token : String
  username : String
  type : SessionType
  createdAt : Time
  lastUsed : Time
  expiresAt : Time
  deriving DecidableEq

structure SessionManager where
  sessions : String → Option Session := fun _ => none

def idleTimeout : SessionType → Time
  | .cli => cliIdleTimeout
  | .web => webIdleTimeout

/-- `read` is the source of random bytes. -/
def generateToken (read : ℕ → Except String (List ℕ)) : Except String String :=
  match read tokenBytes with
  | .error err => .error ("generate token: " ++ err)
  | .ok b => .ok (Hex.encode b)

def Session.issue (token username : String) (st : SessionType) (now : Time) : Session where
  token := token
  username := username
  type := st
  createdAt := now
  lastUsed := now
  expiresAt := match st with
    | .cli => now + cliIdleTimeout
    | .web => now + webMaxLifetime

def Session.refresh (now : Time) (s : Session) : Session :=
  let s := { s with lastUsed := now }
  if s.type = .cli then { s with expiresAt := now + cliIdleTimeout } else s

namespace SessionManager

variable (now : Time) (token : String) (sm : SessionManager)

def put (token : String) (s : Session) : SessionManager :=
  ⟨update sm.sessions token (some s)⟩

def delete (token : String) : SessionManager :=
  ⟨update sm.sessions token none⟩

def create (read : ℕ → Except String (List ℕ)) (username : String) (st : SessionType)
    (sm : SessionManager) : Except String Session × SessionManager :=
  match generateToken read with
  | .error err => (.error err, sm)
  | .ok token => (.ok (.issue token username st now), sm.put token (.issue token username st now))

def validate : Except String Session × SessionManager :=
  match sm.sessions token with
  | none => (.error "unknown session token", sm)
  | some s =>
    if s.expiresAt < now then (.error "session expired", sm.delete token)
    else if idleTimeout s.type < now - s.lastUsed then
      (.error "session idle timeout", sm.delete token)
    else (.ok (s.refresh now), sm.put token (s.refresh now))

def revoke : SessionManager := sm.delete token

def revokeAll (_ : SessionManager) : SessionManager := {}

def cleanup : SessionManager :=
  ⟨fun token => (sm.sessions token).filter fun s =>
    let expired := decide (s.expiresAt < now)
    let idle := decide (idleTimeout s.type < now - s.lastUsed)
    !(expired || idle)⟩

end SessionManager

inductive Op
  | create (read : ℕ → Except String (List ℕ)) (username : String) (st : SessionType)
  | validate (token : String)
  | revoke (token : String)
  | revokeAll
  | cleanup

structure Call where
  now : Time
  op : Op

inductive Answer
  | create (r : Except String Session)
  | validate (r : Except String Session)
  | nothing

variable (sm : SessionManager) (calls : List Call)

def SessionManager.handle (c : Call) : Answer × SessionManager :=
  match c.op with
  | .create read username st =>
    (.create (sm.create c.now read username st).1, (sm.create c.now read username st).2)
  | .validate token => (.validate (sm.validate c.now token).1, (sm.validate c.now token).2)
  | .revoke token => (.nothing, sm.revoke token)
  | .revokeAll => (.nothing, sm.revokeAll)
  | .cleanup => (.nothing, sm.cleanup c.now)

def SessionManager.run : SessionManager :=
  calls.foldl (fun sm c => (sm.handle c).2) sm

def SessionManager.history (sm : SessionManager) : List Call → List (Call × Answer)
  | [] => []
  | c :: calls => (c, (sm.handle c).1) :: history (sm.handle c).2 calls

def InOrder : Prop := calls.Pairwise fun a b => a.now ≤ b.now

namespace Call

def drawn (c : Call) : Option (String × SessionType) :=
  match c.op with
  | .create read _ st => (generateToken read).toOption.map fun token => (token, st)
  | _ => none

def Revokes (token : String) (c : Call) : Prop :=
  match c.op with
  | .revoke t => t = token
  | .revokeAll => True
  | _ => False

def isCleanup (c : Call) : Bool :=
  match c.op with
  | .cleanup => true
  | _ => false

end Call

variable (past : List (Call × Answer)) (token : String)

def validatedAt (x : Call × Answer) : Option Time :=
  match x.1.op, x.2 with
  | .validate t, .validate (.ok _) => if t = token then some x.1.now else none
  | _, _ => none

/-- What a history says of a token at time `t`: it was created and not revoked, no gap between its
creation, its successful validations and `t` is longer than the idle timeout, and a web session is
no older than its lifetime. -/
def Alive (t : Time) : Prop :=
  ∃ before x after st, past = before ++ x :: after ∧ x.1.drawn = some (token, st) ∧
    (∀ y ∈ after, ¬ y.1.Revokes token) ∧
    (x.1.now :: (after.filterMap (validatedAt token) ++ [t])).IsChain
      (fun a b => b - a ≤ idleTimeout st) ∧
    (st = .web → t ≤ x.1.now + webMaxLifetime)

/-- What the validations of a history have answered: a session, or nothing. -/
def validations : List (Option Session) :=
  past.filterMap fun x => match x.2 with
    | .validate r => some r.toOption
    | _ => none

namespace Session

def live (now : Time) (s : Session) : Bool :=
  decide (now ≤ s.expiresAt ∧ now - s.lastUsed ≤ idleTimeout s.type)

lemma live_iff {now : Time} {s : Session} :
    s.live now = true ↔ now ≤ s.expiresAt ∧ now - s.lastUsed ≤ idleTimeout s.type :=
  decide_eq_true_iff

lemma live_of_later {now now' : Time} (h : now ≤ now') {s : Session} (hs : s.live now' = true) :
    s.live now = true := by
  rw [live_iff] at hs ⊢
  exact ⟨h.trans hs.1, by linarith [hs.2]⟩

end Session

namespace SessionManager

variable {now now' : Time} {sm sm' : SessionManager} {token : String}

def good (now : Time) (sm : SessionManager) (token : String) : Option Session :=
  (sm.sessions token).filter (Session.live now)

variable {s : Session} {token' : String}

lemma cleanup_sessions : (sm.cleanup now).sessions token = sm.good now token := by
  unfold cleanup good
  dsimp only
  congr 1
  funext s
  rw [Bool.eq_iff_iff, Session.live_iff]
  simp [not_lt]

lemma good_put : (sm.put token s).good now token' =
      if token' = token then (some s).filter (Session.live now) else sm.good now token' := by
  unfold good put
  dsimp only
  rw [update_apply]
  split <;> rfl

lemma good_delete :
    (sm.delete token).good now token' = if token' = token then none else sm.good now token' := by
  unfold good delete
  dsimp only
  rw [update_apply]
  split <;> rfl

lemma sessions_of_good (h : sm.good now token = some s) :
    sm.sessions token = some s ∧ s.live now = true :=
  Option.filter_eq_some_iff.mp h

lemma validate_of_good (h : sm.good now token = some s) :
    sm.validate now token = (.ok (s.refresh now), sm.put token (s.refresh now)) := by
  obtain ⟨hs, hlive⟩ := sessions_of_good h
  obtain ⟨hexpiry, hidle⟩ := Session.live_iff.mp hlive
  simp only [validate, hs]
  rw [if_neg (not_lt.mpr hexpiry), if_neg (not_lt.mpr hidle)]

lemma validate_of_not_good (h : sm.good now token = none) :
    (∃ err, (sm.validate now token).1 = .error err) ∧
      ((sm.validate now token).2 = sm ∨ (sm.validate now token).2 = sm.delete token) := by
  unfold validate
  rcases hs : sm.sessions token with _ | s
  · exact ⟨⟨_, rfl⟩, .inl rfl⟩
  dsimp only
  split
  · exact ⟨⟨_, rfl⟩, .inr rfl⟩
  split
  · exact ⟨⟨_, rfl⟩, .inr rfl⟩
  · rename_i hexpiry hidle
    have hlive : s.live now = true := Session.live_iff.mpr ⟨not_lt.mp hexpiry, not_lt.mp hidle⟩
    rw [good, hs, Option.filter_some, if_pos hlive] at h
    cases h

/-! ### Managers that are alike -/

def Alike (now : Time) (sm sm' : SessionManager) : Prop :=
  ∀ token, sm.good now token = sm'.good now token

lemma good_later (h : now ≤ now') :
    sm.good now' token = (sm.good now token).filter (Session.live now') := by
  unfold good
  rw [Option.filter_filter]
  congr 1
  funext s
  rw [Bool.eq_iff_iff, Bool.and_eq_true]
  exact ⟨fun hs => ⟨Session.live_of_later h hs, hs⟩, fun hs => hs.2⟩

namespace Alike

lemma refl (now : Time) (sm : SessionManager) : Alike now sm sm := fun _ => rfl

lemma symm (h : Alike now sm sm') : Alike now sm' sm := fun token => (h token).symm

lemma trans {sm'' : SessionManager} (h : Alike now sm sm') (h' : Alike now sm' sm'') :
    Alike now sm sm'' :=
  fun token => (h token).trans (h' token)

lemma later (h : Alike now sm sm') (hle : now ≤ now') : Alike now' sm sm' := fun token => by
  rw [good_later hle, h token, good_later hle]

lemma put (h : Alike now sm sm') (token : String) (s : Session) :
    Alike now (sm.put token s) (sm'.put token s) := fun token' => by
  rw [good_put, good_put, h token']

lemma delete (h : Alike now sm sm') (token : String) :
    Alike now (sm.delete token) (sm'.delete token) := fun token' => by
  rw [good_delete, good_delete, h token']

lemma delete_of_not_good (h : sm.good now token = none) : Alike now (sm.delete token) sm :=
  fun token' => by
    rw [good_delete]
    split
    · rename_i heq
      rw [heq, h]
    · rfl

lemma cleanup (now : Time) (sm : SessionManager) : Alike now (sm.cleanup now) sm := fun token => by
  rw [good, cleanup_sessions, ← good_later (le_refl now)]

lemma validate_of_not_good (h : sm.good now token = none) :
    Alike now (sm.validate now token).2 sm := by
  rcases (SessionManager.validate_of_not_good h).2 with he | he
  · rw [he]
    exact refl now sm
  · rw [he]
    exact delete_of_not_good h

lemma create (h : Alike now sm sm') (read : ℕ → Except String (List ℕ)) (username : String)
    (st : SessionType) :
    Alike now (sm.create now read username st).2 (sm'.create now read username st).2 := by
  unfold SessionManager.create
  split
  · exact h
  · exact h.put _ _

lemma validate (h : Alike now sm sm') (token : String) :
    (sm.validate now token).1.toOption = (sm'.validate now token).1.toOption ∧
      Alike now (sm.validate now token).2 (sm'.validate now token).2 := by
  rcases hgood : sm.good now token with _ | s
  · have hgood' : sm'.good now token = none := (h token).symm.trans hgood
    obtain ⟨err, herr⟩ := (SessionManager.validate_of_not_good hgood).1
    obtain ⟨err', herr'⟩ := (SessionManager.validate_of_not_good hgood').1
    refine ⟨by rw [herr, herr']; rfl, ?_⟩
    exact (validate_of_not_good hgood).trans (h.trans (validate_of_not_good hgood').symm)
  · have hgood' : sm'.good now token = some s := (h token).symm.trans hgood
    rw [validate_of_good hgood, validate_of_good hgood']
    exact ⟨rfl, h.put _ _⟩

lemma handle {c : Call} (h : Alike c.now sm sm') :
    validations [(c, (sm.handle c).1)] = validations [(c, (sm'.handle c).1)] ∧
      Alike c.now (sm.handle c).2 (sm'.handle c).2 := by
  obtain ⟨now, op⟩ := c
  cases op with
  | create read username st => exact ⟨rfl, h.create read username st⟩
  | validate token =>
    obtain ⟨hanswer, hafter⟩ := h.validate token
    exact ⟨congrArg (fun r => [r]) hanswer, hafter⟩
  | revoke token => exact ⟨rfl, h.delete token⟩
  | revokeAll => exact ⟨rfl, refl _ _⟩
  | cleanup =>
    refine ⟨rfl, ?_⟩
    exact (Alike.cleanup now sm).trans (h.trans (Alike.cleanup now sm').symm)

end Alike

lemma validations_cons {x : Call × Answer} {past : List (Call × Answer)} :
    validations (x :: past) = validations [x] ++ validations past :=
  filterMap_append (l := [x])

lemma validations_filter {calls : List Call} (h : Alike now sm sm') (horder : InOrder calls)
    (hnow : ∀ c ∈ calls, now ≤ c.now) : validations (sm.history calls) =
      validations (sm'.history (calls.filter fun c => !c.isCleanup)) := by
  induction calls generalizing now sm sm' with
  | nil => rfl
  | cons c calls ih =>
    obtain ⟨hlater, hrest⟩ := pairwise_cons.mp horder
    have hc : Alike c.now sm sm' := h.later (hnow c mem_cons_self)
    rcases hcleanup : c.isCleanup with _ | _
    · obtain ⟨hanswer, hafter⟩ := hc.handle
      rw [filter_cons_of_pos (by simp [hcleanup])]
      calc validations (sm.history (c :: calls))
          = validations [(c, (sm.handle c).1)] ++ validations ((sm.handle c).2.history calls) :=
            validations_cons
        _ = validations [(c, (sm'.handle c).1)] ++
            validations ((sm'.handle c).2.history (calls.filter fun c => !c.isCleanup)) := by
            rw [hanswer, ih hafter hrest hlater]
        _ = validations (sm'.history (c :: calls.filter fun c => !c.isCleanup)) :=
            validations_cons.symm
    · obtain ⟨at', op⟩ := c
      cases op with
      | cleanup =>
        have hafter : Alike at' (sm.cleanup at') sm' := (Alike.cleanup at' sm).trans hc
        rw [filter_cons_of_neg (by simp [hcleanup])]
        exact ih hafter hrest hlater
      | _ => cases hcleanup

end SessionManager

end Moebius.LocalAuth
