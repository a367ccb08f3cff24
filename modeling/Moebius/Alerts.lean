import Moebius.Server
import Moebius.Targets

/-!
Alerts.

The scheduler evaluates the enabled rules on every tick. The only kind of rule is about devices that
have not been seen for some minutes. A rule may be confined to devices, groups, tags and sites; they
are resolved first, and if that finds nothing the rule is evaluated for all devices of the tenant,
as if it were not confined.
-/

namespace Moebius.Scheduler

open Proc List

structure AlertCondition where
  type : String
  thresholdMinutes : ℤ
  scope : Option JobTarget := none

structure AlertRule where
  id : String
  tenantID : String
  name : String
  /-- The condition, if its JSON can be read as one. -/
  condition : Option AlertCondition

structure Alert where
  rule : AlertRule
  conditionType : String
  message : String

/-- At most `n` items, with dots for the rest. -/
def truncateList (items : List String) (n : ℕ) : String :=
  if items.length ≤ n then ", ".intercalate items
  else ", ".intercalate (items.take n) ++ ", ..."

def offlineMessage (cond : AlertCondition) (rows : List DeviceRow) : String :=
  toString rows.length ++ " device(s) offline for >" ++ toString cond.thresholdMinutes ++
    " minutes: " ++ truncateList (rows.map fun d => d.hostname ++ " (" ++ d.id ++ ")") 10

def alertFor (rule : AlertRule) (cond : AlertCondition) : List DeviceRow → Option Alert
  | [] => none
  | rows => some ⟨rule, cond.type, offlineMessage cond rows⟩

def minute : Time := 60 * second

/-- `now.Add(-time.Duration(minutes) * time.Minute)`. -/
def offlineThreshold (now : Time) (minutes : ℤ) : Time := now + int64 (int64 (-minutes) * minute)

/-- The device is not revoked and was last seen before the threshold; one that was never seen has
no such time. -/
def overdue (tenantID : String) (threshold : Time) (d : DeviceRow) : Bool :=
  d.tenantID = tenantID && d.status ≠ .revoked &&
    match d.lastSeenAt with
    | none => false
    | some t => t < threshold

def selectOffline (env : Env) (tenantID : String) (threshold : Time) (deviceIDs : List String)
    (db : Db) : List DeviceRow :=
  if 0 < deviceIDs.length then
    env.scanDevices.order
      (db.devices.select fun d => overdue tenantID threshold d && d.id ∈ deviceIDs)
  else env.scanDevices.order (db.devices.select (overdue tenantID threshold))

def Named (t : JobTarget) : Prop :=
  0 < t.deviceIDs.length + t.groupIDs.length + t.tagIDs.length + t.siteIDs.length
  deriving Decidable

def scopeDevices (env : Env) (tenantID : String) (scope : Option JobTarget) :
    Proc Db (Except Unit (List String)) :=
  match scope with
  | none => pure (.ok [])
  | some t => if Named t then resolveTargets env tenantID t else pure (.ok [])

def evaluateAgentOffline (env : Env) (rule : AlertRule) (cond : AlertCondition) (now : Time) :
    Proc Db (Option Alert) := do
  match ← scopeDevices env rule.tenantID cond.scope with
  | .error _ => pure none
  | .ok deviceIDs =>
    match ← read (selectOffline env rule.tenantID (offlineThreshold now cond.thresholdMinutes)
        deviceIDs) with
    | none => pure none
    | some rows => pure (alertFor rule cond rows)

def evaluateAlertRule (env : Env) (rule : AlertRule) (now : Time) : Proc Db (Option Alert) :=
  match rule.condition with
  | none => pure none
  | some cond =>
    if cond.type = "agent_offline" then evaluateAgentOffline env rule cond now else pure none

/-! ### What an alert is about -/

section

variable {env : Env} {rule : AlertRule} {cond : AlertCondition} {now : Time} {db : Db}
  {tenantID : String} {threshold : Time} {deviceIDs : List String}

lemma mem_selectOffline {d : DeviceRow} : d ∈ selectOffline env tenantID threshold deviceIDs db ↔
      d ∈ db.devices.rows ∧ overdue tenantID threshold d ∧ (deviceIDs ≠ [] → d.id ∈ deviceIDs) := by
  unfold selectOffline Table.select
  split
  · rename_i hpos
    simp [ne_nil_of_length_pos hpos]
  · rename_i hpos
    simp [length_eq_zero_iff.mp (Nat.eq_zero_of_not_pos hpos)]

lemma nodup_selectOffline : (selectOffline env tenantID threshold deviceIDs db).Nodup := by
  have hrows : db.devices.rows.Nodup := Nodup.of_map _ db.devices.nodup
  unfold selectOffline Table.select
  split
  · exact (env.scanDevices.perm _).nodup_iff.mpr (hrows.filter _)
  · exact (env.scanDevices.perm _).nodup_iff.mpr (hrows.filter _)

/-- The alert is about the devices of the tenant that the scope resolves to, that are not revoked
and that were last seen before the threshold, each of them once. -/
def Reports (rule : AlertRule) (cond : AlertCondition) (t : JobTarget) (now : Time) (db : Db)
    (alert : Option Alert) : Prop :=
  ∃ rows : List DeviceRow, rows.Nodup ∧ alert = alertFor rule cond rows ∧
    ∀ d, d ∈ rows ↔ d ∈ db.devices.rows ∧
      overdue rule.tenantID (offlineThreshold now cond.thresholdMinutes) d ∧
      db.InScope rule.tenantID t.selection d.id

variable {t : JobTarget}

def found (env : Env) (rule : AlertRule) (cond : AlertCondition) (t : JobTarget) (now : Time)
    (db : Db) : List DeviceRow :=
  selectOffline env rule.tenantID (offlineThreshold now cond.thresholdMinutes)
    (selected env rule.tenantID t.selection db) db

lemma reports_found (h : ∃ d, db.InScope rule.tenantID t.selection d) :
    Reports rule cond t now db (alertFor rule cond (found env rule cond t now db)) := by
  obtain ⟨d, hd⟩ := h
  have hne : selected env rule.tenantID t.selection db ≠ [] :=
    ne_nil_of_mem ((mem_selected env).mpr hd)
  refine ⟨_, nodup_selectOffline, rfl, fun d => ?_⟩
  rw [mem_selectOffline, mem_selected]
  simp [hne]

lemma reports_found_iff :
    Reports rule cond t now db (alertFor rule cond (found env rule cond t now db)) ↔
      (∃ d, db.InScope rule.tenantID t.selection d) ∨ ∀ d ∈ db.devices.rows,
        ¬ overdue rule.tenantID (offlineThreshold now cond.thresholdMinutes) d := by
  constructor
  · rintro ⟨rows, -, halert, hrows⟩
    by_contra! h
    obtain ⟨hempty, d, hd, hover⟩ := h
    -- nothing is in scope, so no alert is due, yet the overdue device is found
    obtain rfl : rows = [] := eq_nil_iff_forall_not_mem.mpr fun d hd =>
      hempty d.id ((hrows d).mp hd).2.2
    have hfound : d ∈ found env rule cond t now db := by
      refine mem_selectOffline.mpr ⟨hd, hover, fun hne => ?_⟩
      obtain ⟨id, hid⟩ := exists_mem_of_ne_nil _ hne
      exact absurd ((mem_selected env).mp hid) (hempty id)
    rcases hlist : found env rule cond t now db with _ | ⟨e, es⟩
    · rw [hlist] at hfound
      cases hfound
    · rw [hlist] at halert
      cases halert
  · rintro (h | h)
    · exact reports_found h
    · refine ⟨_, nodup_selectOffline, rfl, fun d => ?_⟩
      rw [mem_selectOffline]
      exact ⟨fun hd => absurd hd.2.1 (h d hd.1), fun hd => absurd hd.2.1 (h d hd.1)⟩

section

variable (hcond : rule.condition = some cond) (htype : cond.type = "agent_offline")
  (hscope : cond.scope = some t) (hnamed : Named t)

include hcond htype hscope hnamed

lemma run_evaluateAlertRule (fs : List Bool) :
    ((evaluateAlertRule env rule now).run fs db).1 = none ∨
      ((evaluateAlertRule env rule now).run fs db).1 =
        alertFor rule cond (found env rule cond t now db) := by
  refine wp_run (R := fun _ _ => True) (Q := fun alert _ => alert = none ∨
    alert = alertFor rule cond (found env rule cond t now db)) ?_ fs
  simp only [evaluateAlertRule, hcond, htype, if_pos, evaluateAgentOffline, scopeDevices, hscope,
    if_pos hnamed, bind_eq, wp_bind]
  refine wp_expandAll env (s := t.selection) trivial (fun _ => .inl rfl) ?_
  exact ⟨⟨trivial, .inr rfl⟩, .inl rfl⟩

lemma run_nil_evaluateAlertRule : ((evaluateAlertRule env rule now).run [] db).1 =
      alertFor rule cond (found env rule cond t now db) := by
  have hresolve : (resolveTargets env rule.tenantID t).run [] db =
      (.ok (selected env rule.tenantID t.selection db), db) :=
    run_nil_expandAll env rule.tenantID t.selection
  simp only [evaluateAlertRule, hcond, htype, if_pos, evaluateAgentOffline, scopeDevices, hscope,
    if_pos hnamed, bind_eq, run_nil_bind, hresolve, run_nil_read]
  rfl

/-- **Scope of offline alerts.** A rule that names devices, groups, tags or sites reports the
devices they resolve to, exactly when they resolve to some device or no device of the tenant is
overdue. -/
theorem reports_scope :
    (Reports rule cond t now db ((evaluateAlertRule env rule now).run [] db).1 ∧
      ∀ fs, ((evaluateAlertRule env rule now).run fs db).1 = none ∨
        Reports rule cond t now db ((evaluateAlertRule env rule now).run fs db).1) ↔
      (∃ d, db.InScope rule.tenantID t.selection d) ∨ ∀ d ∈ db.devices.rows,
        ¬ overdue rule.tenantID (offlineThreshold now cond.thresholdMinutes) d := by
  rw [run_nil_evaluateAlertRule hcond htype hscope hnamed, ← @reports_found_iff env]
  refine ⟨And.left, fun hreports => ⟨hreports, fun fs => ?_⟩⟩
  refine (run_evaluateAlertRule hcond htype hscope hnamed fs).imp_right fun he => ?_
  rwa [he]

end

end

namespace EmptyGroup

def host : DeviceRow := { id := "d", tenantID := "t", hostname := "host", lastSeenAt := some 0 }

def db : Db where
  devices := ⟨[host], by decide⟩
  groups := ⟨[{ id := "g", tenantID := "t" }], nodup_singleton _⟩

def cond (t : JobTarget) : AlertCondition :=
  { type := "agent_offline", thresholdMinutes := 5, scope := some t }

def rule (t : JobTarget) : AlertRule :=
  { id := "r", tenantID := "t", name := "offline", condition := some (cond t) }

def env : Env := Sample.env (10 * minute) "x"

end EmptyGroup

open EmptyGroup in
theorem reports_listed :
    Reports (rule { deviceIDs := ["d"] }) (cond { deviceIDs := ["d"] }) { deviceIDs := ["d"] }
      (10 * minute) db
      ((evaluateAlertRule env (rule { deviceIDs := ["d"] }) (10 * minute)).run [] db).1 :=
  And.left ((reports_scope rfl rfl rfl (by decide)).mpr
    (.inl ⟨"d", .inl (mem_singleton.mpr rfl)⟩))

open EmptyGroup in
/-- A rule for the empty group reports a device that is not in it. -/
theorem empty_group_reports :
    (¬ ∃ d, db.InScope "t" ({ groupIDs := ["g"] } : JobTarget).selection d) ∧
      (((evaluateAlertRule env (rule { groupIDs := ["g"] }) (10 * minute)).run [] db).1.map
        (·.message)) = some "1 device(s) offline for >5 minutes: host (d)" := by
  refine ⟨?_, by decide⟩
  rintro ⟨d, hd | ⟨o, id, -, hmem, -⟩⟩
  · exact not_mem_nil hd
  · cases o <;> exact not_mem_nil hmem

end Moebius.Scheduler
