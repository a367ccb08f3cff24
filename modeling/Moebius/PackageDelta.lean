import Mathlib.Data.List.Induction
import Moebius.Checkin
import Moebius.Diff
import Moebius.Runs

/-!
Package deltas: what the agent computes and what the server makes of them.

The agent keeps the last collection under keys in which the manager and the name are joined by a
colon; the server keeps rows with a manager and a name.
-/

namespace Moebius.Inventory

open Proc Diff List Table Checkin Patch Bool

variable (scan : Scan PackageRef) (p : PackageRef) (current : List PackageRef)

def pkgKey : String := p.manager ++ ":" ++ p.name

/-- The map of the last collection; a package is stored under its own key. -/
abbrev Snapshot := Table pkgKey

/-- Of the packages with one key the last one listed stays. -/
def snapshot : Snapshot := current.foldl put .empty

/-- The added, updated and removed packages, in the order in which the maps are ranged over. -/
def diff (last current : Snapshot) : PackageDelta where
  added := (scan.order current.rows).filter fun p => (last.get? (pkgKey p)).isNone
  updated := (scan.order current.rows).filter fun p =>
    (last.get? (pkgKey p)).any fun prev => prev.version ≠ p.version
  removed := (scan.order last.rows).filter fun p => (current.get? (pkgKey p)).isNone

def isEmpty (d : PackageDelta) : Bool := d.added.isEmpty && d.removed.isEmpty && d.updated.isEmpty

/-- `ComputeDelta`, with the snapshot it leaves. A collection without packages is `nil`, like one
that has failed. -/
def computeDelta (last : Option Snapshot) : Option PackageDelta × Option Snapshot :=
  if current = [] then (none, last)
  else match last with
    | none => (none, some (snapshot current))
    | some last =>
      let d := diff scan last (snapshot current)
      (if isEmpty d then none else some d, some (snapshot current))

def nameKey : String × String := (p.manager, p.name)

def Plain (ps : List PackageRef) : Prop := ∀ p ∈ ps, ':' ∉ p.manager.toList
  deriving Decidable

variable {p q : PackageRef} {ps : List PackageRef}

lemma pkgKey_of_nameKey (h : nameKey p = nameKey q) : pkgKey p = pkgKey q := by
  simp only [nameKey, Prod.mk.injEq] at h
  rw [pkgKey, pkgKey, h.1, h.2]

lemma append_cons_inj {c : Char} {xs ys us vs : List Char} (hx : c ∉ xs) (hu : c ∉ us)
    (h : xs ++ c :: ys = us ++ c :: vs) : xs = us ∧ ys = vs := by
  induction xs generalizing us with
  | nil =>
    cases us with
    | nil => exact ⟨rfl, (cons.inj h).2⟩
    | cons u us => exact absurd ((cons.inj h).1 ▸ mem_cons_self) hu
  | cons x xs ih =>
    cases us with
    | nil => exact absurd ((cons.inj h).1 ▸ mem_cons_self) hx
    | cons u us =>
      obtain ⟨hxu, hrest⟩ := cons.inj h
      obtain ⟨hxs, hys⟩ := ih (fun hm => hx (mem_cons_of_mem _ hm))
        (fun hm => hu (mem_cons_of_mem _ hm)) hrest
      exact ⟨by rw [hxu, hxs], hys⟩

lemma nameKey_of_pkgKey (hp : ':' ∉ p.manager.toList) (hq : ':' ∉ q.manager.toList)
    (h : pkgKey p = pkgKey q) : nameKey p = nameKey q := by
  have hlist : p.manager.toList ++ ':' :: p.name.toList =
      q.manager.toList ++ ':' :: q.name.toList := by
    simpa [pkgKey, String.toList_append] using congrArg String.toList h
  obtain ⟨hm, hn⟩ := append_cons_inj hp hq hlist
  simp only [nameKey, Prod.mk.injEq]
  exact ⟨String.toList_inj.mp hm, String.toList_inj.mp hn⟩

def listed (ps : List PackageRef) (k : String × String) : Option PackageRef :=
  (ps.filter fun p => nameKey p = k).getLast?

variable {k : String × String}

lemma nameKey_of_listed (h : listed ps k = some p) : p ∈ ps ∧ nameKey p = k := by
  have hmem := mem_of_getLast? h
  simpa using hmem

lemma filter_snapshot (h : Plain ps) (k : String × String) :
    ((snapshot ps).rows.filter fun p => nameKey p = k) = (listed ps k).toList ∧
      ∀ p ∈ (snapshot ps).rows, p ∈ ps := by
  induction ps using reverseRecOn with
  | nil => exact ⟨rfl, fun p hp => hp⟩
  | append_singleton ps p ih =>
    have hps : Plain ps := fun q hq => h q (mem_append_left _ hq)
    have hp : ':' ∉ p.manager.toList := h p (mem_append_right _ mem_cons_self)
    obtain ⟨ih, hmem⟩ := ih hps
    have hrows : (snapshot (ps ++ [p])).rows =
        ((snapshot ps).rows.filter fun q => pkgKey q ≠ pkgKey p) ++ [p] := by
      simp only [snapshot, foldl_append]
      rfl
    constructor
    · rw [hrows, filter_append, filter_filter]
      by_cases hk : nameKey p = k
      · have hgone : ((snapshot ps).rows.filter fun q =>
            decide (nameKey q = k) && decide (pkgKey q ≠ pkgKey p)) = [] := by
          rw [filter_eq_nil_iff]
          intro q _ hq
          simp only [and_eq_true, decide_eq_true_eq] at hq
          exact hq.2 (pkgKey_of_nameKey (hq.1.trans hk.symm))
        rw [hgone]
        simp [listed, hk]
      · have hsame : ((snapshot ps).rows.filter fun q =>
            decide (nameKey q = k) && decide (pkgKey q ≠ pkgKey p)) =
              (snapshot ps).rows.filter fun q => nameKey q = k := by
          refine filter_congr fun q hq => ?_
          by_cases hqk : nameKey q = k
          · have hne : pkgKey q ≠ pkgKey p := fun he =>
              hk ((nameKey_of_pkgKey (hps q (hmem q hq)) hp he).symm.trans hqk)
            simp [hqk, hne]
          · simp [hqk]
        rw [hsame, ih]
        simp [listed, hk]
    · intro q hq
      rw [hrows] at hq
      rcases mem_append.mp hq with hq | hq
      · exact mem_append_left _ (hmem q (mem_filter.mp hq).1)
      · exact mem_append_right _ hq

lemma get?_snapshot (h : Plain ps) (hp : ':' ∉ p.manager.toList) :
    (snapshot ps).get? (pkgKey p) = listed ps (nameKey p) := by
  have hfilter := filter_snapshot h (nameKey p)
  have hhead : ((snapshot ps).rows.filter fun q => nameKey q = nameKey p).head? =
      listed ps (nameKey p) := by
    rw [hfilter.1]
    cases listed ps (nameKey p) <;> rfl
  rw [← hhead, get?, ← head?_filter]
  refine congrArg head? (filter_congr fun q hq => ?_)
  have hiff : pkgKey q = pkgKey p ↔ nameKey q = nameKey p :=
    ⟨nameKey_of_pkgKey (h q (hfilter.2 q hq)) hp, pkgKey_of_nameKey⟩
  simp [hiff]

lemma filter_order_snapshot (h : Plain ps) {scan : Scan PackageRef} :
    ((scan.order (snapshot ps).rows).filter fun p => nameKey p = k) = (listed ps k).toList := by
  have hperm := (scan.perm (snapshot ps).rows).filter fun p => nameKey p = k
  rw [(filter_snapshot h k).1] at hperm
  cases hl : listed ps k with
  | none =>
    rw [hl] at hperm
    exact hperm.eq_nil
  | some p =>
    rw [hl] at hperm
    exact perm_singleton.mp hperm

def patches (d : PackageDelta) : List (Patch (String × String) String) :=
  d.added.map (fun p => .add (nameKey p) p.version) ++
    (d.updated.map (fun p => .set (nameKey p) p.version) ++
      d.removed.map fun p => .drop (nameKey p))

lemma filter_key_map {f : PackageRef → Patch (String × String) String}
    (hf : ∀ p, (f p).key = nameKey p) (k : String × String) :
    ((ps.map f).filter fun c => c.key = k) = (ps.filter fun p => nameKey p = k).map f := by
  rw [filter_map]
  refine congrArg (map f) (filter_congr fun p _ => ?_)
  simp [hf]

lemma filter_filter_order (h : Plain ps) {scan : Scan PackageRef} {f : PackageRef → Bool} :
    (((scan.order (snapshot ps).rows).filter f).filter fun p => nameKey p = k) =
      (listed ps k).toList.filter f := by
  rw [← filter_order_snapshot h, filter_filter, filter_filter]
  exact filter_congr fun p _ => and_comm _ _

/-- The value a collection gives for a manager and a name. -/
def versionOf (ps : List PackageRef) (k : String × String) : Option String :=
  (listed ps k).map (·.version)

lemma isDiff_patches {qs : List PackageRef} (hp : Plain ps) (hq : Plain qs)
    (scan : Scan PackageRef) :
    IsDiff (versionOf ps) (versionOf qs) (patches (diff scan (snapshot ps) (snapshot qs))) := by
  intro k
  have hprev : ∀ q, listed qs k = some q → (snapshot ps).get? (pkgKey q) = listed ps k := by
    intro q hlisted
    obtain ⟨hmem, hname⟩ := nameKey_of_listed hlisted
    rw [get?_snapshot hp (hq q hmem), hname]
  have hcur : ∀ p, listed ps k = some p → (snapshot qs).get? (pkgKey p) = listed qs k := by
    intro p hlisted
    obtain ⟨hmem, hname⟩ := nameKey_of_listed hlisted
    rw [get?_snapshot hq (hp p hmem), hname]
  simp only [patches, filter_append]
  rw [filter_key_map (fun _ => rfl), filter_key_map (fun _ => rfl), filter_key_map (fun _ => rfl)]
  simp only [diff, filter_filter_order hp, filter_filter_order hq, versionOf]
  cases hl : listed ps k with
  | none =>
    cases hl' : listed qs k with
    | none => rfl
    | some q =>
      have hname := (nameKey_of_listed hl').2
      simp [hprev q hl', hl, between, hname]
  | some p =>
    have hname := (nameKey_of_listed hl).2
    cases hl' : listed qs k with
    | none => simp [hcur p hl, hl', between, hname]
    | some q =>
      have hname' := (nameKey_of_listed hl').2
      by_cases hv : p.version = q.version
      · simp [hprev q hl', hcur p hl, hl, hl', between, hv]
      · simp [hprev q hl', hcur p hl, hl, hl', between, hv, hname']

def held (deviceID : String) (db : Db) (k : String × String) : List String :=
  (db.inventoryPackages.select fun r => r.deviceID = deviceID ∧ (r.manager, r.name) = k).map
    (·.version)

variable {deviceID : String}

lemma matches_iff {r : PackageRow} (hr : r.deviceID = deviceID ∧ (r.manager, r.name) = k) :
    r.deviceID = deviceID ∧ r.name = p.name ∧ r.manager = p.manager ↔ nameKey p = k := by
  obtain ⟨rfl, rfl⟩ := hr
  simp only [nameKey, Prod.mk.injEq]
  grind

lemma held_updatePackage (version : String) (now : Time) (p : PackageRef) (db : Db) :
    held deviceID (db.updatePackage version now deviceID p.name p.manager) =
      apply (held deviceID db) (.set (nameKey p) version) := by
  funext k
  rw [apply_at]
  have hsame : ∀ r : PackageRow, ∀ r', r' = r ∨ r' = { r with version, lastSeenAt := now } →
      (r'.deviceID = deviceID ∧ (r'.manager, r'.name) = k ↔
        r.deviceID = deviceID ∧ (r.manager, r.name) = k) := by
    rintro r r' (rfl | rfl) <;> rfl
  simp only [held, Db.updatePackage, select, update, filter_map, map_map]
  rw [filter_congr (q := fun r => decide (r.deviceID = deviceID ∧ (r.manager, r.name) = k))]
  · split
    · rename_i hk
      simp only [onValues, map_map]
      refine map_congr_left fun r hr => ?_
      have hmatch := (matches_iff (of_decide_eq_true (mem_filter.mp hr).2)).mpr hk
      simp [hmatch]
    · rename_i hk
      refine map_congr_left fun r hr => ?_
      have hother := mt (matches_iff (of_decide_eq_true (mem_filter.mp hr).2)).mp hk
      simp [hother]
  · intro r _
    refine decide_eq_decide.mpr (hsame r _ ?_)
    dsimp only
    split
    · exact .inr rfl
    · exact .inl rfl

lemma held_deletePackage (p : PackageRef) (db : Db) :
    held deviceID (db.deletePackage deviceID p.name p.manager) =
      apply (held deviceID db) (.drop (nameKey p)) := by
  funext k
  rw [apply_at]
  simp only [held, Db.deletePackage, select, delete, filter_filter]
  split
  · rename_i hk
    have hgone : (db.inventoryPackages.rows.filter fun r =>
        decide (r.deviceID = deviceID ∧ (r.manager, r.name) = k) &&
          !decide (r.deviceID = deviceID ∧ r.name = p.name ∧ r.manager = p.manager)) = [] := by
      rw [filter_eq_nil_iff]
      intro r _ hr
      simp only [and_eq_true, decide_eq_true_eq, not_eq_true', decide_eq_false_iff_not]
        at hr
      exact hr.2 ((matches_iff hr.1).mpr hk)
    rw [hgone]
    rfl
  · rename_i hk
    refine congrArg (map _) (filter_congr fun r _ => ?_)
    by_cases hr : r.deviceID = deviceID ∧ (r.manager, r.name) = k
    · rw [decide_eq_true hr, decide_eq_false (mt (matches_iff hr).mp hk)]
      rfl
    · simp [hr]

lemma held_addPackage {row : PackageRow} {db : Db} (hrow : row.deviceID = deviceID)
    (hdevice : (db.devices.get? deviceID).isSome)
    (hfresh : db.inventoryPackages.get? row.id = none) :
    ∃ db', db.addPackage row = some db' ∧ db'.devices = db.devices ∧
      db'.inventoryPackages.rows = db.inventoryPackages.rows ++ [row] ∧ held deviceID db' =
        apply (held deviceID db) (.add (row.manager, row.name) row.version) := by
  obtain ⟨t, ht⟩ := exists_insert hfresh
  refine ⟨{ db with inventoryPackages := t }, ?_, rfl, rows_of_insert ht, ?_⟩
  · rw [← hrow] at hdevice
    simp [Db.addPackage, hdevice, ht]
  · funext k
    rw [apply_at]
    simp only [held, select, rows_of_insert ht, filter_append, map_append]
    split
    · rename_i hk
      have hk' : (row.manager, row.name) = k := hk
      simp [hrow, hk', onValues]
    · rename_i hk
      have hk' : ¬ (row.manager, row.name) = k := hk
      simp [hk']

/-! ### The deltas at the server -/

/-- The identifiers drawn for `n` rows are new. -/
def Fresh (env : Env) (n : ℕ) (db : Db) : Prop :=
  ((range n).map env.newInventoryPkgID ++ db.inventoryPackages.rows.map (·.id)).Nodup
  deriving Decidable

/-- Packages inserted one by one, from the `i`-th identifier on. Where the identifier is new it does
not matter what the statement does on a conflict. -/
lemma run_addPackages (env : Env) (now : Time) {add : PackageRow → Db → Option Db}
    (hadd : ∀ row db, db.inventoryPackages.get? row.id = none → add row db = db.addPackage row)
    (ps : List PackageRef) (i : ℕ) {db : Db}
    (hdevice : (db.devices.get? deviceID).isSome)
    (hfresh : ((range' i ps.length).map env.newInventoryPkgID ++
      db.inventoryPackages.rows.map (·.id)).Nodup) :
    ∃ n db', (loop (fun i p => do
        if ← attempt (add
          { id := env.newInventoryPkgID i, deviceID, name := p.name, version := p.version
            manager := p.manager, lastSeenAt := now }) then pure (.ok (i + 1))
        else pure (.error ()) : ℕ → PackageRef → Proc Db (Except Unit ℕ)) ps i).run [] db =
          (.ok n, db') ∧ db'.devices = db.devices ∧
      held deviceID db' =
        applyAll (held deviceID db) (ps.map fun p => .add (nameKey p) p.version) := by
  induction ps generalizing i db with
  | nil => exact ⟨i, db, rfl, rfl, rfl⟩
  | cons p ps ih =>
    let row : PackageRow :=
      { id := env.newInventoryPkgID i, deviceID, name := p.name, version := p.version
        manager := p.manager, lastSeenAt := now }
    rw [length_cons, range'_succ, map_cons, cons_append, nodup_cons] at hfresh
    obtain ⟨hnew, hrest⟩ := hfresh
    have hnone : db.inventoryPackages.get? row.id = none := by
      rw [get?, find?_eq_none]
      intro r hr hid
      exact hnew (mem_append_right _ (mem_map.mpr ⟨r, hr, of_decide_eq_true hid⟩))
    obtain ⟨db₁, hrow, hdevices, hrows, hheld⟩ := @held_addPackage deviceID row db rfl hdevice hnone
    have hrest' : ((range' (i + 1) ps.length).map env.newInventoryPkgID ++
        db₁.inventoryPackages.rows.map (·.id)).Nodup := by
      rw [hrows, map_append, map_singleton, ← append_assoc]
      refine nodup_append.mpr ⟨hrest, nodup_singleton _, ?_⟩
      intro a ha b hb hab
      rw [mem_singleton] at hb
      exact hnew (by rw [hab, hb] at ha; exact ha)
    obtain ⟨n, db', hrun, hdevices', hend⟩ := ih (i + 1) (by rw [hdevices]; exact hdevice) hrest'
    refine ⟨n, db', ?_, hdevices'.trans hdevices, ?_⟩
    · rw [loop, bind_eq, Proc.bind_assoc, run_nil_bind, run_nil_attempt, hadd row db hnone, hrow]
      exact hrun
    · rw [hend, hheld]
      rfl

variable {w : Db → PackageRef → Db}

lemma devices_foldl (h : ∀ db p, (w db p).devices = db.devices) (ps : List PackageRef) (db : Db) :
    (ps.foldl w db).devices = db.devices := by
  induction ps generalizing db with
  | nil => rfl
  | cons p ps ih => rw [foldl_cons, ih, h]

lemma held_foldl {f : PackageRef → Patch (String × String) String}
    (h : ∀ db p, held deviceID (w db p) = (f p).apply (held deviceID db)) (ps : List PackageRef)
    (db : Db) : held deviceID (ps.foldl w db) = applyAll (held deviceID db) (ps.map f) := by
  induction ps generalizing db with
  | nil => rfl
  | cons p ps ih =>
    rw [foldl_cons, ih, h]
    rfl

lemma run_forPackages_exec (w : PackageRef → Db → Db) (ps : List PackageRef) (db : Db) :
    ∃ n, (forPackages (fun _ p => exec (w p)) ps).run [] db =
      (.ok n, ps.foldl (fun db p => w p db) db) :=
  ⟨_, run_nil_loop (fun _ _ _ => rfl) ps 0 db⟩

lemma run_processPackageDelta {env : Env} {d : PackageDelta} {db : Db}
    (hdevice : (db.devices.get? deviceID).isSome) (hfresh : Fresh env d.added.length db) :
    ((processPackageDelta env deviceID d).run [] db).2.devices = db.devices ∧
    held deviceID ((processPackageDelta env deviceID d).run [] db).2 =
      applyAll (held deviceID db) (patches d) := by
  rw [Fresh, range_eq_range'] at hfresh
  obtain ⟨n₁, db₁, hadd, hdevices, hheld⟩ :=
    run_addPackages env (env.clock 2) (fun _ _ _ => rfl) d.added 0 hdevice hfresh
  obtain ⟨n₂, hset⟩ := run_forPackages_exec
    (fun p => Db.updatePackage p.version (env.clock 2) deviceID p.name p.manager) d.updated db₁
  obtain ⟨n₃, hdrop⟩ := run_forPackages_exec
    (fun p => Db.deletePackage deviceID p.name p.manager) d.removed
    (d.updated.foldl (fun db p =>
      db.updatePackage p.version (env.clock 2) deviceID p.name p.manager) db₁)
  have hrun : ((processPackageDelta env deviceID d).run [] db).2 =
      d.removed.foldl (fun db p => db.deletePackage deviceID p.name p.manager)
        (d.updated.foldl (fun db p =>
          db.updatePackage p.version (env.clock 2) deviceID p.name p.manager) db₁) := by
    have hadd' : (forPackages (fun i p => attempt (Db.addPackage
        { id := env.newInventoryPkgID i, deviceID, name := p.name, version := p.version
          manager := p.manager, lastSeenAt := env.clock 2 })) d.added).run [] db =
            (.ok n₁, db₁) := hadd
    simp only [processPackageDelta, bind_eq, run_nil_bind, hadd', hset, hdrop]
    rfl
  rw [hrun]
  constructor
  · refine (devices_foldl ?_ _ _).trans ((devices_foldl ?_ _ _).trans hdevices)
    all_goals exact fun _ _ => rfl
  · rw [held_foldl (fun db p => held_deletePackage p db),
      held_foldl (fun db p => held_updatePackage p.version _ p db), hheld, patches,
      applyAll_append, applyAll_append]

/-! ### Collections, one after the other -/

/-- The server's rows for the device are the packages of the collection, one for each manager and
name. -/
def Mirrors (deviceID : String) (ps : List PackageRef) (db : Db) : Prop :=
  ∀ k, held deviceID db k = (versionOf ps k).toList

structure Collection where
  packages : List PackageRef
  scan : Scan PackageRef
  env : Env

structure Pair where
  last : Option Snapshot := none
  db : Db

namespace Pair

def process (deviceID : String) (env : Env) (delta : Option PackageDelta) (db : Db) : Db :=
  match delta with
  | none => db
  | some d => ((processPackageDelta env deviceID d).run [] db).2

def deliver (deviceID : String) (s : Pair) (c : Collection) : Pair where
  last := (computeDelta c.scan c.packages s.last).2
  db := process deviceID c.env (computeDelta c.scan c.packages s.last).1 s.db

/-- The identifiers the server draws for the rows it adds are new. -/
def DrawsFresh (s : Pair) (c : Collection) : Prop :=
  ∀ d ∈ (computeDelta c.scan c.packages s.last).1, Fresh c.env d.added.length s.db
  deriving Decidable

/-- The server has what the agent has collected last. -/
structure Agrees (deviceID : String) (ps : List PackageRef) (s : Pair) : Prop where
  plain : Plain ps
  last : s.last = some (snapshot ps)
  device : (s.db.devices.get? deviceID).isSome
  mirrors : Mirrors deviceID ps s.db

lemma patches_of_isEmpty {d : PackageDelta} (h : isEmpty d = true) : patches d = [] := by
  simp only [isEmpty, and_eq_true, List.isEmpty_iff] at h
  simp [patches, h]

variable {s : Pair} {first : Collection}

lemma Agrees.deliver (h : s.Agrees deviceID ps) {c : Collection} (hne : c.packages ≠ [])
    (hplain : Plain c.packages) (hfresh : s.DrawsFresh c) :
    (s.deliver deviceID c).Agrees deviceID c.packages := by
  have hcompute : computeDelta c.scan c.packages s.last =
      (if isEmpty (diff c.scan (snapshot ps) (snapshot c.packages)) then none
        else some (diff c.scan (snapshot ps) (snapshot c.packages)),
        some (snapshot c.packages)) := by
    simp [computeDelta, hne, h.last]
  have hheld : held deviceID s.db = fun k => (versionOf ps k).toList := funext h.mirrors
  have hdiff := applyAll_of_isDiff (isDiff_patches h.plain hplain c.scan)
  unfold DrawsFresh at hfresh
  rw [hcompute] at hfresh
  unfold Pair.deliver
  rw [hcompute]
  by_cases hempty : isEmpty (diff c.scan (snapshot ps) (snapshot c.packages)) = true
  · rw [if_pos hempty] at hfresh ⊢
    rw [patches_of_isEmpty hempty, applyAll_nil] at hdiff
    refine ⟨hplain, rfl, h.device, fun k => ?_⟩
    change held deviceID s.db k = _
    rw [hheld]
    exact congrFun hdiff k
  · rw [if_neg hempty] at hfresh ⊢
    obtain ⟨hdevices, hrows⟩ := run_processPackageDelta h.device (hfresh _ rfl)
    refine ⟨hplain, rfl, ?_, fun k => ?_⟩
    · change (((processPackageDelta c.env deviceID _).run [] s.db).2.devices.get?
        deviceID).isSome
      rw [hdevices]
      exact h.device
    · change held deviceID ((processPackageDelta c.env deviceID _).run [] s.db).2 k = _
      rw [hrows, hheld, hdiff]

lemma agrees_first {db : Db} (hdevice : (db.devices.get? deviceID).isSome)
    (hfirst : Mirrors deviceID first.packages db) (hne : first.packages ≠ [])
    (hplain : Plain first.packages) :
    (({ db } : Pair).deliver deviceID first).Agrees deviceID first.packages := by
  have hcompute : computeDelta first.scan first.packages none =
      (none, some (snapshot first.packages)) := by
    simp [computeDelta, hne]
  unfold Pair.deliver
  rw [hcompute]
  exact ⟨hplain, rfl, hdevice, hfirst⟩

lemma Agrees.run (h : s.Agrees deviceID first.packages) {rest : List Collection}
    (hrest : ∀ c ∈ rest, c.packages ≠ [] ∧ Plain c.packages)
    (hfresh : Along (Pair.deliver deviceID) Pair.DrawsFresh rest s) :
    (rest.foldl (Pair.deliver deviceID) s).Agrees deviceID
      ((first :: rest).getLast (cons_ne_nil _ _)).packages := by
  induction rest generalizing s first with
  | nil => exact h
  | cons c rest ih =>
    obtain ⟨hne, hplain⟩ := hrest c mem_cons_self
    rw [getLast_cons_cons]
    exact ih (h.deliver hne hplain hfresh.1)
      (fun c' hc' => hrest c' (mem_cons_of_mem c hc')) hfresh.2

end Pair

/-- The deltas of a sequence of collections, each delivered once and in order, reproduce the last
collection. -/
theorem deltas_reproduce_packages (deviceID : String) (db : Db) (first : Collection)
    (rest : List Collection) (hdevice : (db.devices.get? deviceID).isSome)
    (hfirst : Mirrors deviceID first.packages db)
    (hcollections : ∀ c ∈ first :: rest, c.packages ≠ [] ∧ Plain c.packages)
    (hfresh : Along (Pair.deliver deviceID) Pair.DrawsFresh (first :: rest) { db }) :
    Mirrors deviceID ((first :: rest).getLast (cons_ne_nil _ _)).packages
      ((first :: rest).foldl (Pair.deliver deviceID) { db }).db := by
  obtain ⟨hne, hplain⟩ := hcollections first mem_cons_self
  have hagrees := Pair.agrees_first hdevice hfirst hne hplain
  exact (hagrees.run (fun c hc => hcollections c (mem_cons_of_mem first hc)) hfresh.2).mirrors

namespace Sample

def package (name version : String) : PackageRef := { name, version, manager := "apt" }

def env (salt : String) : Env where
  clock _ := 0
  rand _ i := salt ++ toString i

def collection (salt : String) (packages : List PackageRef) : Collection :=
  { packages, scan := .heap, env := env salt }

def db : Db where
  devices := ⟨[{ id := "d", tenantID := "t" }], by decide⟩
  inventoryPackages := ⟨[
    { id := "ipk_1", deviceID := "d", name := "a", version := "1", manager := "apt"
      lastSeenAt := 0 },
    { id := "ipk_2", deviceID := "d", name := "b", version := "1", manager := "apt"
      lastSeenAt := 0 }], by decide⟩

def first : Collection := collection "w" [package "a" "1", package "b" "1"]

lemma mirrors_first : Mirrors "d" first.packages db := by
  intro k
  by_cases ha : k = ("apt", "a")
  · subst ha
    decide
  by_cases hb : k = ("apt", "b")
  · subst hb
    decide
  · simp [held, versionOf, listed, select, db, first, collection, package, nameKey,
      Ne.symm ha, Ne.symm hb]

def collections : List Collection :=
  [collection "x" [package "a" "2"], collection "y" [package "a" "2", package "c" "1"]]

end Sample

open Sample in
theorem sample_deltas_reproduce : Mirrors "d" [package "a" "2", package "c" "1"]
      ((first :: collections).foldl (Pair.deliver "d") { db := db }).db :=
  deltas_reproduce_packages "d" db first collections (by decide)
    mirrors_first (by decide) (by decide)

end Moebius.Inventory
