import Moebius.ApiEffects
import Moebius.Runs

/-!
Whether a scoped key can widen its own reach.

The reach of a scope is read from tables that requests with the same key may edit. A request moves
it only by adding a link to a group, tag or site that the scope lists.
-/

namespace Moebius.Api

open Proc

/-- What `ResolveScope` finds when no query fails. -/
def reach (env : Env) (tenantID : String) (s : APIScope) (db : Db) : List String :=
  match ((resolveScope env tenantID (some s)).run [] db).1 with
  | .ok (some ids) => ids
  | _ => []

lemma mem_reach {env : Env} {tenantID d : String} {s : APIScope} {db : Db} :
    d ∈ reach env tenantID s db ↔ db.InScope tenantID s d := by
  have hrun : ((resolveScope env tenantID (some s)).run [] db).1 =
      .ok (some (selected env tenantID s db)) := by
    simp only [resolveScope, bind_eq, run_nil_bind, run_nil_expandAll]
    rfl
  rw [reach, hrun]
  exact mem_selected env

def HasDevice (db : Db) (tenantID d : String) : Prop :=
  (db.devices.get? d).map (·.tenantID) = some tenantID

def Within (tenantID : String) (s : APIScope) (db : Db) (d : String) : Prop :=
  HasDevice db tenantID d → db.InScope tenantID s d

/-- What the handlers leave unchecked: a request that adds links to something the scope lists names
no device of the tenant outside the scope. The tag endpoint does check, unless a query of the check
fails. -/
def Contained (tenantID : String) (s : APIScope) (db : Db) (c : Call) : Prop :=
  match c.req with
  | .group (.addDevices id (some ids)) => id ∈ s.groupIDs → ∀ d ∈ ids, Within tenantID s db d
  | .site (.addDevices id (some ids)) => id ∈ s.siteIDs → ∀ d ∈ ids, Within tenantID s db d
  | .tag (.addToDevice d (some tags)) =>
    (∃ t ∈ tags, t ∈ s.tagIDs) → Within tenantID s db d ∨ true ∉ c.faults
  | _ => True

section

variable {cfg : Config} {tenantID : String} {s : APIScope} {db a b : Db} {e : Effect} {d : String}
  {c : Call}

/-- Only a link to something the scope lists brings a device into the scope. -/
lemma inScope_of_effect (h : e.apply a = some b) (hd : b.InScope tenantID s d) :
    a.InScope tenantID s d ∨
      ∃ o : Db.Owner, ∃ id ∈ o.idsOf s, e = .addLink o d id ∧ HasDevice a tenantID d := by
  have hdelta := Effect.delta h
  rcases hd with hlisted | ⟨o, id, hid, hmember, row, hrow, htenant⟩
  · exact .inl (.inl hlisted)
  · have hdevice : HasDevice a tenantID d := by
      rw [HasDevice, ← hdelta.devices d, hrow, ← htenant]
      rfl
    rcases hdelta.members o _ hmember with hold | hnew
    · obtain ⟨row', hrow', htenant'⟩ := Option.map_eq_some_iff.mp hdevice
      exact .inl (.inr ⟨o, id, hid, hold, row', hrow', htenant'⟩)
    · exact .inr ⟨o, id, hid, hnew, hdevice⟩

lemma inScope_after
    (hadd : ∀ a o d id, Issues c.caller db a c.req (.addLink o d id) → id ∈ o.idsOf s →
      Within tenantID s db d) (hd : (c.after cfg db).InScope tenantID s d) :
    db.InScope tenantID s d := by
  -- devices stay with their tenants, so a device can be looked up before the request
  have hinv : (∀ id, ((c.after cfg db).devices.get? id).map (·.tenantID) =
        (db.devices.get? id).map (·.tenantID)) ∧
      ∀ d, (c.after cfg db).InScope tenantID s d → db.InScope tenantID s d := by
    refine after_invariant (I := fun a =>
      (∀ id, (a.devices.get? id).map (·.tenantID) = (db.devices.get? id).map (·.tenantID)) ∧
        ∀ d, a.InScope tenantID s d → db.InScope tenantID s d)
      (fun a b e hissue happly ha => ⟨fun id => ?_, fun d hd => ?_⟩)
      ⟨fun _ => rfl, fun _ h => h⟩
    · rw [(Effect.delta happly).devices id, ha.1 id]
    · rcases inScope_of_effect happly hd with hold | ⟨o, id, hid, rfl, hdevice⟩
      · exact ha.2 d hold
      · refine hadd a o d id hissue hid ?_
        rw [HasDevice, ← ha.1 d]
        exact hdevice
  exact hinv.2 d hd

lemma after_addToDevice {body : Option (List String)} (hreq : c.req = .tag (.addToDevice d body))
    (hadmin : c.caller.isAdmin = false) (htenant : c.caller.tenantID = tenantID)
    (hscope : c.caller.scope = some s) (hclean : true ∉ c.faults)
    (hout : ¬ db.InScope tenantID s d) : c.after cfg db = db := by
  subst htenant
  have hcheck := run_nil_outOfScope c.env hadmin hscope hout
  rw [Call.after, Call.result, run_of_clean hclean, serve, hreq]
  unfold ApiAuth.require
  rw [if_neg (by rw [hadmin]; exact Bool.false_ne_true)]
  split
  · simp only [handler, tagHandler, answer, Tags.addToDevice, bind_eq, run_nil_bind, hcheck]
    rfl
  · rfl

lemma inScope_after_of_contained (hadmin : c.caller.isAdmin = false)
    (htenant : c.caller.tenantID = tenantID) (hscope : c.caller.scope = some s)
    (hc : Contained tenantID s db c) (hd : (c.after cfg db).InScope tenantID s d) :
    db.InScope tenantID s d := by
  by_cases hskip : ∃ x body, c.req = .tag (.addToDevice x body) ∧ true ∉ c.faults ∧
      ¬ db.InScope tenantID s x
  · obtain ⟨x, body, hreq, hclean, hout⟩ := hskip
    rwa [after_addToDevice hreq hadmin htenant hscope hclean hout] at hd
  refine inScope_after (fun a o x id hissue hid => ?_) hd
  obtain ⟨caller, req, env, faults⟩ := c
  cases hissue with
  | group h | site h =>
    cases h with
    | addDevice hfield hx => exact hc hid x hx
  | tag h =>
    cases h with
    | addToDevice hpass ht =>
      rcases hc ⟨id, ht, hid⟩ with hwithin | hclean
      · exact hwithin
      · intro _
        by_contra hout
        exact hskip ⟨x, _, rfl, hclean, hout⟩
  | device h | job h | schedule h => cases h

end

/-- **The reach of a key never grows, as far as it goes.** Along every run of requests with one
scoped key without the admin flag, all of them `Contained`: a device that `ResolveScope` finds for
the key afterwards is one it found before. -/
theorem reach_never_grows (cfg : Config) (tenantID : String) (s : APIScope) (db : Db)
    (calls : List Call)
    (hcaller : ∀ c ∈ calls, c.caller.isAdmin = false ∧ c.caller.tenantID = tenantID ∧
      c.caller.scope = some s)
    (hcontained : Along (Call.after cfg) (Contained tenantID s) calls db) (env env' : Env) :
    ∀ d ∈ reach env' tenantID s (run cfg db calls), d ∈ reach env tenantID s db := by
  have hboth : Along (Call.after cfg) (fun db c => c.caller.isAdmin = false ∧
      c.caller.tenantID = tenantID ∧ c.caller.scope = some s ∧ Contained tenantID s db c)
      calls db :=
    hcontained.imp fun db c hc h => ⟨(hcaller c hc).1, (hcaller c hc).2.1, (hcaller c hc).2.2, h⟩
  intro d hd
  rw [mem_reach] at hd ⊢
  refine hboth.rel (R := fun a b => ∀ d, b.InScope tenantID s d → a.InScope tenantID s d)
    (fun _ _ h => h) (fun _ _ _ hab hbc d hd => hab d (hbc d hd))
    (fun db c hc d hd => ?_) d hd
  exact inScope_after_of_contained hc.1 hc.2.1 hc.2.2.1 hc.2.2.2 hd

namespace Sample

def tenant : TenantRow := { id := "t" }

def user : UserRow := { id := "u", tenantID := tenant.id }

def device (id : String) : DeviceRow := { id, tenantID := tenant.id }

def group : OwnerRow := { id := "g", tenantID := tenant.id }

def db : Db where
  tenants := ⟨[tenant], by decide⟩
  users := ⟨[user], by decide⟩
  devices := ⟨[device "d", device "e"], by decide⟩
  groups := ⟨[group], by decide⟩
  deviceGroups := ⟨[⟨"d", "g"⟩], by decide⟩

def cron : Cron := ⟨fun _ => .error "no cron"⟩

def cfg : Config :=
  { quota := none, cron := cron, ilike := fun a b => a = b, rollbackPayload := id }

def scope : APIScope := { groupIDs := ["g"] }

def caller : Caller :=
  { tenantID := "t", userID := "u", isAdmin := false, scope := some scope
    permissions := ["groups:write", "devices:read", "devices:write", "tags:write"] }

def env : Env := .plain 0 "x"

def call (req : Request) : Call := { caller, req, env }

def addToGroup (d : String) : Call := call (.group (.addDevices "g" (some [d])))

end Sample

theorem reach_never_grows_sample :
    "d" ∈ reach Sample.env "t" Sample.scope (run Sample.cfg Sample.db [Sample.addToGroup "d"]) ∧
    "d" ∈ reach Sample.env "t" Sample.scope Sample.db := by
  have hafter : "d" ∈ reach Sample.env "t" Sample.scope
      (run Sample.cfg Sample.db [Sample.addToGroup "d"]) := by decide
  refine ⟨hafter, reach_never_grows Sample.cfg "t" Sample.scope Sample.db [Sample.addToGroup "d"]
    (fun c hc => ?_) ⟨fun _ d hd _ => ?_, trivial⟩ _ _ "d" hafter⟩
  · cases List.mem_singleton.mp hc
    exact ⟨rfl, rfl, rfl⟩
  · cases List.mem_singleton.mp hd
    have hd : "d" ∈ reach Sample.env "t" Sample.scope Sample.db := by decide
    exact mem_reach.mp hd

/-- A key restricted to a group puts another device of the tenant into the group, and has it within
reach from then on. -/
theorem addToGroup_widens : "e" ∉ reach Sample.env "t" Sample.scope Sample.db ∧
    "e" ∈ reach Sample.env "t" Sample.scope (run Sample.cfg Sample.db [Sample.addToGroup "e"]) := by
  decide

end Moebius.Api
