import Mathlib.Data.List.Chain
import Moebius.Migrate

/-!
Migrations across failures.

A run may fail at any statement, and between runs the program may be replaced by one that knows
more migrations, all of higher versions. A run skips what is not above the highest version
recorded; this is right because the versions recorded never have a gap.
-/

namespace Moebius.Migrate

open Proc List Migration Database Nat

variable {width : ℕ}

/-- A directory of migrations, with its up-migrations listed by increasing versions. -/
structure Directory (width : ℕ) where
  files : List File
  ups : List (Migration width)
  nodup : (files.map File.name).Nodup
  perm : (files.filter fun file => hasUpSuffix file.name).Perm (ups.map file)
  increasing : ups.Pairwise fun m m' => m.version < m'.version

namespace Directory

variable (d : Directory width)

lemma upNames_eq : upNames d.files = d.ups.map name := by
  have hperm : (upNames d.files).Perm (d.ups.map name) := by
    have hfilter : (d.files.map File.name).filter hasUpSuffix =
        (d.files.filter fun file => hasUpSuffix file.name).map File.name :=
      filter_map
    refine (perm_insertionSort _ _).trans ?_
    have hnames : d.ups.map name = (d.ups.map file).map File.name := by
      rw [map_map]
      rfl
    rw [hfilter, hnames]
    exact d.perm.map File.name
  have hsorted : (d.ups.map name).Pairwise (· ≤ ·) :=
    pairwise_map.mpr (d.increasing.imp fun h => (name_lt h).le)
  exact hperm.eq_of_pairwise (fun _ _ _ _ => le_antisymm) (pairwise_insertionSort _ _) hsorted

lemma readFile_eq {m : Migration width} (h : m ∈ d.ups) :
    readFile d.files m.name = some m.data := by
  have hmem : m.file ∈ d.files := (mem_filter.mp (d.perm.mem_iff.mpr (mem_map_of_mem h))).1
  obtain ⟨file, hfind⟩ : ∃ file, d.files.find? (fun file => file.name = m.name) = some file :=
    Option.isSome_iff_exists.mp (find?_isSome.mpr ⟨m.file, hmem, by simp [file]⟩)
  have hname : file.name = m.name := by simpa using find?_some hfind
  have hfile : file = m.file := inj_on_of_nodup_map d.nodup (mem_of_find?_eq_some hfind) hmem hname
  rw [readFile, hfind, hfile]
  rfl

def ofUps (ups : List (Migration width))
    (increasing : ups.Pairwise fun m m' => m.version < m'.version) : Directory width where
  files := ups.map Migration.file
  ups := ups
  nodup := by
    rw [map_map]
    exact (pairwise_map.mpr (increasing.imp fun h => (Migration.name_lt h).ne))
  perm := by
    have hall : ∀ file ∈ ups.map Migration.file, hasUpSuffix file.name = true := by
      intro file hfile
      obtain ⟨m, -, rfl⟩ := mem_map.mp hfile
      exact m.hasUpSuffix_name
    rw [filter_eq_self.mpr hall]
  increasing := increasing

end Directory

structure Holds (ms : List (Migration width)) (db : Database) : Prop where
  inEffect : db.inEffect = ms.map file
  recorded : db.recorded = ms.map fun m => (m.version : ℤ)

/-- What is in effect is what is recorded, the migrations up to some version. -/
def Consistent (d : Directory width) (db : Database) : Prop := ∃ ms, ms <+: d.ups ∧ Holds ms db

lemma Consistent.grow {d d' : Directory width} {db : Database} (h : Consistent d db)
    (hgrows : d.ups <+: d'.ups) : Consistent d' db := by
  obtain ⟨ms, hms, hholds⟩ := h
  exact ⟨ms, hms.trans hgrows, hholds⟩

lemma version_le_current_iff (d : Directory width) {n k : ℕ} (hk : k < d.ups.length) :
    ((d.ups[k].version : ℤ) ≤ (((d.ups.take n).map fun m => (m.version : ℤ)).max?).getD 0) ↔
      k < n := by
  constructor
  · intro hle
    by_contra hnot
    -- all that is recorded is below this version
    have hbelow : ∀ v ∈ (d.ups.take n).map fun m => (m.version : ℤ), v < d.ups[k].version := by
      intro v hv
      obtain ⟨m, hm, rfl⟩ := mem_map.mp hv
      obtain ⟨i, hi, rfl⟩ := mem_iff_getElem.mp hm
      rw [length_take] at hi
      rw [getElem_take]
      exact_mod_cast pairwise_iff_getElem.mp d.increasing i k (by omega) hk (by omega)
    have hpos : (0 : ℤ) < d.ups[k].version := by exact_mod_cast d.ups[k].number_pos
    rcases hmax : ((d.ups.take n).map fun m => (m.version : ℤ)).max? with _ | v
    · rw [hmax, Option.getD_none] at hle
      omega
    · rw [hmax, Option.getD_some] at hle
      exact absurd hle (not_le.mpr (hbelow v (max?_mem hmax)))
  · intro hlt
    have hmem : (d.ups[k].version : ℤ) ∈ (d.ups.take n).map fun m => (m.version : ℤ) := by
      refine mem_map.mpr ⟨d.ups[k], ?_, rfl⟩
      exact mem_take_iff_getElem.mpr ⟨k, by omega, rfl⟩
    rcases hmax : ((d.ups.take n).map fun m => (m.version : ℤ)).max? with _ | v
    · rw [max?_eq_none_iff] at hmax
      rw [hmax] at hmem
      exact absurd hmem not_mem_nil
    · rw [hmax, Option.getD_some]
      exact (max?_eq_some_iff.mp hmax).2 _ hmem

lemma applyMigration_ok {env : Env} {m : Migration width} {ms : List (Migration width)}
    {db db' : Database} {fs : List Bool} {u : Unit} (h : Holds ms db)
    (hrun : (applyMigration env m.file m.version).run fs db = (.ok u, db')) :
    Holds (ms ++ [m]) db' := by
  have hwp : (applyMigration env m.file m.version).wp (fun _ _ => True)
      (fun r db' => r = .ok u → Holds (ms ++ [m]) db') db := by
    unfold applyMigration
    simp only [bind_eq, pure_eq, wp_bind, wp_exec, true_and]
    refine ⟨?_, by simp⟩
    simp only [if_true, wp_bind]
    refine wp_attempt _ _ trivial (by simp) fun db₁ hrecord => ⟨trivial, ?_⟩
    have hdone : Holds (ms ++ [m]) db₁ := by
      unfold record at hrecord
      split at hrecord
      · cases hrecord
      · rename_i versions htable
        split at hrecord
        · cases hrecord
        · cases hrecord
          have hversions : db.recorded = versions := by
            have htable' : db.schemaMigrations = some versions := htable
            rw [recorded, htable', Option.getD_some]
          refine ⟨?_, ?_⟩
          · simp [execute, h.inEffect]
          · rw [recorded, Option.getD_some, ← hversions, h.recorded]
            simp
    simp only [if_true, commit, wp_bind, wp_exec, true_and, wp_done]
    exact ⟨fun _ => hdone, by simp⟩
  have hpost := wp_run hwp fs
  rw [hrun] at hpost
  exact hpost rfl

section

variable (env : Env) (d : Directory width)

/-- When the loop comes to the `k`th file, the first `n` migrations having been recorded before the
run, exactly the first `n` or `k` are in effect. -/
def AtFile (n : ℕ) (names : List String) (db : Database) : Prop :=
  ∃ k, names = (d.ups.drop k).map name ∧ Holds (d.ups.take (max n k)) db

variable {n : ℕ} {names : List String} {db : Database}

lemma AtFile.consistent (h : AtFile d n names db) : Consistent d db := by
  obtain ⟨k, -, hholds⟩ := h
  exact ⟨_, take_prefix _ _, hholds⟩

lemma wp_applyNext {current : ℤ} {name : String} {applied : ℕ}
    (hcurrent : current = (((d.ups.take n).map fun m => (m.version : ℤ)).max?).getD 0)
    (h : AtFile d n (name :: names) db) :
    (applyNext env d.files current applied name).wp (fun _ db' => Consistent d db')
      (fun r db' => match r with
        | .error _ => True
        | .ok _ => AtFile d n names db') db := by
  obtain ⟨k, hnames, hholds⟩ := id h
  have hk : k < d.ups.length := by
    by_contra hk
    rw [drop_of_length_le (not_lt.mp hk)] at hnames
    cases hnames
  rw [drop_eq_getElem_cons hk, map_cons, cons.injEq] at hnames
  obtain ⟨rfl, hnames⟩ := hnames
  have hiff := version_le_current_iff (n := n) d hk
  rw [← hcurrent] at hiff
  unfold applyNext
  rcases d.ups[k].parseVersion_name env.texts with ⟨err, hparse⟩ | hparse
  · rw [hparse]
    trivial
  · rw [hparse]
    dsimp only
    split
    · -- recorded before this run
      rename_i hle
      have hkn : k < n := hiff.mp hle
      refine ⟨k + 1, hnames, ?_⟩
      rwa [max_eq_left (by omega), ← max_eq_left (by omega : k ≤ n)]
    · rename_i hnew
      have hnk : n ≤ k := not_lt.mp fun hkn => hnew (hiff.mpr hkn)
      rw [d.readFile_eq (getElem_mem hk)]
      rw [max_eq_right hnk] at hholds
      simp only [bind_eq, pure_eq, wp_bind]
      refine wp_transaction h.consistent trivial (fun _ _ _ => trivial) fun u db' hrun => ?_
      have hdone : Holds (d.ups.take (k + 1)) db' := by
        rw [take_succ_eq_append_getElem hk]
        exact applyMigration_ok hholds hrun
      refine ⟨⟨_, take_prefix _ _, hdone⟩, ?_⟩
      dsimp only
      split
      · trivial
      · refine ⟨k + 1, hnames, ?_⟩
        rwa [max_eq_right (by omega)]

/-- **One run**: whatever fails, every statement leaves the database consistent, and a run without
an error has applied everything. -/
lemma wp_run_migrations (h : Consistent d db) : (run env d.files).wp (fun _ db' => Consistent d db')
      (fun r db' => Consistent d db' ∧ ∀ n, r = .ok n → Holds d.ups db') db := by
  obtain ⟨ms, hms, hholds⟩ := id h
  have hcreated : Holds ms db.createTable := ⟨hholds.inEffect, hholds.recorded⟩
  have hconsistent : Consistent d db.createTable := ⟨ms, hms, hcreated⟩
  have htake : ms = d.ups.take ms.length := prefix_iff_eq_take.mp hms
  unfold run
  simp only [bind_eq, pure_eq, wp_bind, wp_exec]
  refine ⟨⟨hconsistent, ?_⟩, h, by simp⟩
  simp only [if_true, wp_bind, wp_read]
  refine ⟨⟨hconsistent, ?_⟩, hconsistent, by simp⟩
  have hversion : db.createTable.currentVersion =
      some ((((d.ups.take ms.length).map fun m => (m.version : ℤ)).max?).getD 0) := by
    rw [← htake, ← hholds.recorded]
    rfl
  rw [Option.join_some, hversion]
  refine wp_loop (fun names _ db' => AtFile d ms.length names db')
    (fun _ db' => Consistent d db') ?_ ?_ ?_ ?_
  · intro name names applied db' hat
    refine wp_post (fun r db'' hr => ?_)
      (wp_carry (I := Consistent d) (fun _ _ h _ => h) hat.consistent
        (wp_applyNext env d rfl hat))
    rcases r with err | applied'
    · exact hr.1
    · exact hr.2
  · intro applied db' hat
    refine ⟨hat.consistent, fun _ _ => ?_⟩
    obtain ⟨k, hnames, hk⟩ := hat
    have hlength : d.ups.length ≤ k := by
      simpa using hnames.symm
    rwa [take_of_length_le (by omega)] at hk
  · intro err db' hc
    exact ⟨hc, by simp⟩
  · refine ⟨0, ?_, ?_⟩
    · rw [d.upNames_eq, drop_zero]
    · rw [max_eq_left (zero_le _), ← htake]
      exact hcreated

end

/-! ### One run after the other -/

structure Start (width : ℕ) where
  dir : Directory width
  env : Env
  faults : List Bool

namespace Start

variable (x : Start width) (db : Database)

def result : Except String ℕ × Database :=
  (run x.env x.dir.files).run x.faults db

/-- The states of the database from the start of the run on: the one it finds, and one after each
statement that goes through. -/
def states : List Database :=
  db :: ((run x.env x.dir.files).steps x.faults db).map Prod.snd

def history (xs : List (Start width)) : Database :=
  xs.foldl (fun db x => (x.result db).2) {}

/-- The later of two directories has everything the earlier one had, and beyond that only higher
versions. -/
def Grows (y : Start width) : Prop := x.dir.ups <+: y.dir.ups

lemma consistent_history {xs : List (Start width)} {x : Start width}
    (hgrows : (xs ++ [x]).IsChain Grows) : Consistent x.dir (history xs) := by
  induction xs using reverseRecOn generalizing x with
  | nil => exact ⟨[], nil_prefix, rfl, rfl⟩
  | append_singleton xs y ih =>
    have hchain := isChain_append.mp hgrows
    have hyx : Grows y x := hchain.2.2 y (by simp) x (by simp)
    have hy := wp_run (wp_run_migrations y.env y.dir (ih hchain.1)) y.faults
    rw [history, foldl_append]
    exact hy.1.grow hyx

end Start

/-- **Migrations are applied once and in order.** However often the server is started, with whatever
new migrations of higher versions and whatever failures: the migrations in effect are those
recorded, the first ones in the order of their versions, each applied once; and a run without an
error leaves all of them applied. -/
theorem migrations_applied_in_order (before after : List (Start width)) (x : Start width)
    (hgrows : (before ++ x :: after).IsChain Start.Grows) :
    (∀ db ∈ x.states (Start.history before), db.inEffect.Nodup ∧
      ∃ ms, ms <+: x.dir.ups ∧ db.inEffect = ms.map file ∧
        db.recorded = ms.map fun m => (m.version : ℤ)) ∧
      ∀ n, (x.result (Start.history before)).1 = .ok n →
        (x.result (Start.history before)).2.inEffect = x.dir.ups.map file := by
  have hchain : (before ++ [x]).IsChain Start.Grows := by
    rw [← singleton_append, ← append_assoc] at hgrows
    exact (isChain_append.mp hgrows).1
  have hstart := Start.consistent_history hchain
  have hwp := wp_run_migrations x.env x.dir hstart
  constructor
  · intro db hdb
    have hconsistent : Consistent x.dir db := by
      rcases mem_cons.mp hdb with rfl | hdb
      · exact hstart
      · obtain ⟨step, hstep, rfl⟩ := mem_map.mp hdb
        exact wp_steps hwp x.faults step hstep
    obtain ⟨ms, hms, hholds⟩ := hconsistent
    refine ⟨?_, ms, hms, hholds.inEffect, hholds.recorded⟩
    rw [hholds.inEffect]
    exact (x.dir.perm.nodup_iff.mp (x.dir.nodup.of_map.filter _)).sublist (hms.sublist.map _)
  · intro n hn
    exact ((wp_run hwp x.faults).2 n hn).inEffect

namespace Sample

def initialSchema : Migration 3 where
  digits := [0, 0, 1]
  description := "initial_schema"
  data := "CREATE TABLE tenants ();"
  length_digits := rfl
  number_pos := by decide

def deviceLogs : Migration 3 where
  digits := [0, 0, 2]
  description := "device_logs"
  data := "CREATE TABLE device_logs ();"
  length_digits := rfl
  number_pos := by decide

def first : Start 3 where
  dir := .ofUps [initialSchema] (by simp)
  env := { txFaults := fun _ => [true] }
  faults := []

def second : Start 3 where
  dir := .ofUps [initialSchema, deviceLogs] (by decide)
  env := {}
  faults := []

end Sample

open Sample in
theorem second_start_in_order : [first, second].IsChain Start.Grows ∧
      (∀ db ∈ second.states (Start.history [first]), ∃ ms, ms <+: [initialSchema, deviceLogs] ∧
        db.inEffect = ms.map file) ∧
      (second.result (Start.history [first])).2.inEffect =
        [initialSchema, deviceLogs].map file := by
  have hgrows : [first, second].IsChain Start.Grows := isChain_pair.mpr ⟨[deviceLogs], rfl⟩
  obtain ⟨hstates, hall⟩ := migrations_applied_in_order [first] [] second hgrows
  refine ⟨hgrows, fun db hdb => ?_, hall 2 ?_⟩
  · obtain ⟨-, ms, hms, hin, -⟩ := hstates db hdb
    exact ⟨ms, hms, hin⟩
  · decide

end Moebius.Migrate
