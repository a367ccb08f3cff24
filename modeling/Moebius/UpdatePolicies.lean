import Mathlib.Data.Int.Notation
import Moebius.Table

/-!
Update policies as a map.

A policy belongs to a group or, without one, is the default of its tenant. The table has a unique
constraint on tenant and group, and an upsert relies on it to find the row it replaces. To the
constraint two missing groups are different, so the upsert of a default always adds a row.
-/

namespace Moebius.UpdatePolicies

open Option Table List

structure Settings where
  enabled : Bool := true
  channel : String := "stable"
  schedule : String := ""
  rolloutStrategy : String := "gradual"
  rolloutBatchPercent : ℤ := 10
  rolloutBatchIntervalMinutes : ℤ := 60
  deriving DecidableEq

/-- A policy; the default of the tenant has no group. -/
structure UpdatePolicy where
  id : String
  tenantID : String
  groupID : String := ""
  settings : Settings := {}
  deriving DecidableEq

structure PolicyRow where
  id : String
  tenantID : String
  groupID : Option String
  settings : Settings
  deriving DecidableEq

abbrev Policies := Table PolicyRow.id

def nilIfEmpty (s : String) : Option String := if s = "" then none else some s

/-- Equality of SQL, where nothing equals a missing value. -/
def sqlEq : Option String → Option String → Bool
  | some a, some b => a = b
  | _, _ => false

variable (scan : Scan PolicyRow) (b : Book) (p : UpdatePolicy) (tenantID policyID : String)
  (t : Policies)

def UpdatePolicy.row : PolicyRow :=
  { id := p.id, tenantID := p.tenantID, groupID := nilIfEmpty p.groupID, settings := p.settings }

def PolicyRow.policy (r : PolicyRow) : UpdatePolicy :=
  { id := r.id, tenantID := r.tenantID, groupID := r.groupID.getD "", settings := r.settings }

/-- The rows have the same tenant and group, for the constraint. -/
def conflict (r r' : PolicyRow) : Bool := r.tenantID = r'.tenantID && sqlEq r.groupID r'.groupID

/-- `UpsertUpdatePolicy`, or nothing if the identifier is taken by another policy. -/
def upsertUpdatePolicy : Option Policies :=
  if t.rows.any (conflict p.row) then
    some (t.update (fun r => if conflict p.row r then { r with settings := p.settings } else r)
      fun r => by split <;> rfl)
  else t.insert p.row

/-- `GetUpdatePolicy`: one of the rows that are found. -/
def getUpdatePolicy (groupID : String) (t : Policies) : Option UpdatePolicy :=
  (scan.order (t.select fun r => r.tenantID = tenantID &&
    if groupID = "" then r.groupID.isNone else sqlEq r.groupID (some groupID))).head?.map
      PolicyRow.policy

def deleteUpdatePolicy : Except String Unit × Policies :=
  (if t.rows.any fun r => r.id = policyID && r.tenantID = tenantID then .ok ()
    else .error "policy not found",
    t.delete fun r => r.id = policyID && r.tenantID = tenantID)

def getEffectiveUpdatePolicy (groupIDs : List String) (t : Policies) : Option UpdatePolicy :=
  match groupIDs.findSome? (getUpdatePolicy scan tenantID · t) with
  | some p => some p
  | none => getUpdatePolicy scan tenantID "" t

inductive Op
  | upsert (p : UpdatePolicy)
  | delete (tenantID policyID : String)

/-- An upsert that is refused changes nothing. -/
def Op.apply : Op → Policies
  | .upsert p => (upsertUpdatePolicy p t).getD t
  | .delete tenantID policyID => (deleteUpdatePolicy tenantID policyID t).2

/-! ### The map -/

/-- The policy of each tenant and group; the default stands under the empty group. -/
abbrev Book := String × String → Option UpdatePolicy

def UpdatePolicy.key : String × String := (p.tenantID, p.groupID)

open Classical in
/-- An upsert replaces the settings under its key, or adds a policy if its identifier is new. -/
noncomputable def Book.upsert : Book :=
  match b p.key with
  | some q => Function.update b p.key (some { p with id := q.id })
  | none =>
    if ∃ k q, b k = some q ∧ q.id = p.id then b else Function.update b p.key (some p)

def Book.delete : Book := fun k =>
  (b k).filter fun p => !(p.id = policyID && p.tenantID = tenantID)

noncomputable def Book.apply : Op → Book
  | .upsert p => b.upsert p
  | .delete tenantID policyID => b.delete tenantID policyID

/-- No default is upserted while the tenant has one. -/
def Book.Allows : Op → Prop
  | .upsert p => p.groupID = "" → b p.key = none
  | .delete _ _ => True

structure Holds (t : Policies) (b : Book) : Prop where
  group : ∀ r ∈ t.rows, r.groupID ≠ some ""
  iff : ∀ k p, b k = some p ↔ ∃ r ∈ t.rows, r.policy = p ∧ p.key = k

lemma policy_row {p : UpdatePolicy} : p.row.policy = p ∧ p.row.groupID ≠ some "" := by
  unfold UpdatePolicy.row PolicyRow.policy nilIfEmpty
  by_cases hempty : p.groupID = ""
  · rw [if_pos hempty, ← hempty]
    exact ⟨rfl, by simp⟩
  · rw [if_neg hempty]
    exact ⟨rfl, fun h => hempty (some.inj h)⟩

lemma conflict_iff {p : UpdatePolicy} {r : PolicyRow} :
    conflict p.row r = true ↔ p.groupID ≠ "" ∧ r.policy.key = p.key := by
  unfold conflict UpdatePolicy.row nilIfEmpty UpdatePolicy.key PolicyRow.policy
  rw [Prod.mk.injEq, eq_comm (a := r.tenantID), eq_comm (a := r.groupID.getD "")]
  rcases hgroup : r.groupID with _ | g
  · by_cases hempty : p.groupID = "" <;> simp [sqlEq, hempty]
  · by_cases hempty : p.groupID = "" <;> simp [sqlEq, hempty]

namespace Holds

variable {t : Policies} {b : Book}

lemma empty : Holds .empty fun _ => none where
  group := fun r hr => absurd hr not_mem_nil
  iff := fun k p => by simp [Table.empty]

lemma get (h : Holds t b) {r : PolicyRow} (hr : r ∈ t.rows) : b r.policy.key = some r.policy :=
  (h.iff _ _).mpr ⟨r, hr, rfl, rfl⟩

lemma eq_of_key (h : Holds t b) {r r' : PolicyRow} (hr : r ∈ t.rows) (hr' : r' ∈ t.rows)
    (hkey : r.policy.key = r'.policy.key) : r = r' := by
  have hpolicy := h.get hr
  rw [hkey, h.get hr', some.injEq] at hpolicy
  exact eq_of_key_eq hr hr' (congrArg UpdatePolicy.id hpolicy).symm

variable {p : UpdatePolicy}

/-- One policy takes the place of what was under its key. -/
lemma set (h : Holds t b) {t' : Policies} {r : PolicyRow} (hgroup : r.groupID ≠ some "")
    (hpolicy : r.policy = p)
    (hrows : ∀ x, x ∈ t'.rows ↔ x = r ∨ x ∈ t.rows ∧ x.policy.key ≠ p.key) :
    Holds t' (Function.update b p.key (some p)) := by
  refine ⟨fun x hx => ?_, fun k q => ?_⟩
  · rcases (hrows x).mp hx with rfl | ⟨hx, -⟩
    · exact hgroup
    · exact h.group x hx
  · rcases eq_or_ne k p.key with rfl | hne
    · rw [Function.update_self, some.injEq]
      constructor
      · rintro rfl
        exact ⟨r, (hrows r).mpr (.inl rfl), hpolicy, rfl⟩
      · rintro ⟨x, hx, rfl, hkey⟩
        rcases (hrows x).mp hx with rfl | ⟨-, hne⟩
        · exact hpolicy.symm
        · exact absurd hkey hne
    · rw [Function.update_of_ne hne, h.iff]
      constructor
      · rintro ⟨x, hx, rfl, hkey⟩
        exact ⟨x, (hrows x).mpr (.inr ⟨hx, hkey ▸ hne⟩), rfl, hkey⟩
      · rintro ⟨x, hx, rfl, hkey⟩
        rcases (hrows x).mp hx with rfl | ⟨hx, -⟩
        · exact absurd (hkey.symm.trans (congrArg _ hpolicy)) hne
        · exact ⟨x, hx, rfl, hkey⟩

lemma upsert (h : Holds t b) (hallows : b.Allows (.upsert p)) :
    Holds ((upsertUpdatePolicy p t).getD t) (b.upsert p) := by
  unfold upsertUpdatePolicy Book.upsert
  split
  · rename_i hany
    obtain ⟨r, hr, hconflict⟩ := any_eq_true.mp hany
    have hkey := (conflict_iff.mp hconflict).2
    have hget := h.get hr
    rw [hkey] at hget
    rw [hget]
    refine h.set (r := { r with settings := p.settings }) (p := { p with id := r.id })
      (h.group r hr) ?_ fun x => ?_
    · obtain ⟨htenant, hgroup⟩ := Prod.mk.inj hkey
      exact congrArg₂ (UpdatePolicy.mk r.id · · p.settings) htenant hgroup
    · refine mem_map.trans ⟨?_, ?_⟩
      · rintro ⟨y, hy, rfl⟩
        by_cases hconflict' : conflict p.row y = true
        · rw [if_pos hconflict', h.eq_of_key hy hr ((conflict_iff.mp hconflict').2.trans hkey.symm)]
          exact .inl rfl
        · rw [if_neg hconflict']
          exact .inr ⟨hy, fun hkey' =>
            hconflict' (conflict_iff.mpr ⟨(conflict_iff.mp hconflict).1, hkey'⟩)⟩
      · rintro (rfl | ⟨hx, hne⟩)
        · exact ⟨r, hr, if_pos hconflict⟩
        · exact ⟨x, hx, if_neg fun hconflict' => hne (conflict_iff.mp hconflict').2⟩
  · rename_i hany
    have hfree : ∀ r ∈ t.rows, r.policy.key ≠ p.key := by
      intro r hr hkey
      by_cases hgroup : p.groupID = ""
      · have hget := h.get hr
        rw [hkey, hallows hgroup] at hget
        cases hget
      · exact hany (any_eq_true.mpr ⟨r, hr, conflict_iff.mpr ⟨hgroup, hkey⟩⟩)
    have hnone : b p.key = none := by
      refine eq_none_iff_forall_ne_some.mpr fun q hq => ?_
      obtain ⟨r, hr, rfl, hkey⟩ := (h.iff _ _).mp hq
      exact hfree r hr hkey
    rw [hnone]
    rcases hinsert : t.insert p.row with _ | t'
    · obtain ⟨r, hr⟩ := isSome_iff_exists.mp (insert_eq_none.mp hinsert)
      have hid : r.id = p.row.id := key_of_get? hr
      rw [if_pos ⟨_, _, h.get (mem_of_get? hr), hid⟩]
      exact h
    · rw [if_neg]
      · refine h.set policy_row.2 policy_row.1 fun x => ?_
        rw [getD_some, mem_insert hinsert, or_comm]
        exact or_congr_right ⟨fun hx => ⟨hx, hfree x hx⟩, And.left⟩
      · rintro ⟨k, q, hq, hid⟩
        obtain ⟨r, hr, rfl, -⟩ := (h.iff _ _).mp hq
        have hfresh := fresh_of_insert hinsert
        rw [show p.row.id = r.id from hid.symm, get?_of_mem hr] at hfresh
        cases hfresh

lemma delete (h : Holds t b) (tenantID policyID : String) :
    Holds (deleteUpdatePolicy tenantID policyID t).2 (b.delete tenantID policyID) := by
  refine ⟨fun r hr => h.group r (mem_filter.mp hr).1, fun k p => ?_⟩
  unfold Book.delete
  rw [filter_eq_some_iff, h.iff]
  constructor
  · rintro ⟨⟨r, hr, rfl, hkey⟩, hkept⟩
    exact ⟨r, mem_filter.mpr ⟨hr, hkept⟩, rfl, hkey⟩
  · rintro ⟨r, hr, rfl, hkey⟩
    obtain ⟨hr, hkept⟩ := mem_filter.mp hr
    exact ⟨⟨r, hr, rfl, hkey⟩, hkept⟩

lemma apply (h : Holds t b) {op : Op} (hallows : b.Allows op) :
    Holds (op.apply t) (b.apply op) := by
  cases op with
  | upsert p => exact h.upsert hallows
  | delete tenantID policyID => exact h.delete tenantID policyID

lemma getUpdatePolicy_eq (h : Holds t b) (scan : Scan PolicyRow) (tenantID groupID : String) :
    getUpdatePolicy scan tenantID groupID t = b (tenantID, groupID) := by
  have hfound : ∀ r, r ∈ scan.order (t.select fun r => r.tenantID = tenantID &&
      if groupID = "" then r.groupID.isNone else sqlEq r.groupID (some groupID)) ↔
        r ∈ t.rows ∧ r.policy.key = (tenantID, groupID) := by
    intro r
    rw [Scan.mem_order, select, mem_filter]
    refine and_congr_right fun hr => ?_
    have hgroup := h.group r hr
    unfold UpdatePolicy.key PolicyRow.policy
    rcases hg : r.groupID with _ | g
    · by_cases hempty : groupID = "" <;> simp [sqlEq, hempty, eq_comm]
    · rw [hg, ne_eq, some.injEq] at hgroup
      by_cases hempty : groupID = "" <;> simp [sqlEq, hempty, hgroup]
  unfold getUpdatePolicy
  generalize scan.order _ = rows at hfound ⊢
  rcases rows with _ | ⟨r, rows⟩
  · refine (eq_none_iff_forall_ne_some.mpr fun p hp => ?_).symm
    obtain ⟨r, hr, rfl, hkey⟩ := (h.iff _ _).mp hp
    exact not_mem_nil ((hfound r).mpr ⟨hr, hkey⟩)
  · obtain ⟨hr, hkey⟩ := (hfound r).mp mem_cons_self
    rw [← hkey, h.get hr]
    rfl

end Holds

def run (ops : List Op) : Policies := ops.foldl Op.apply .empty

noncomputable def book (ops : List Op) : Book := ops.foldl Book.apply fun _ => none

/-- The book allows each of the operations when its turn comes. -/
def Book.AllowsAll (b : Book) : List Op → Prop
  | [] => True
  | op :: ops => b.Allows op ∧ (b.apply op).AllowsAll ops

lemma Holds.foldl {ops : List Op} {t : Policies} {b : Book} (h : Holds t b)
    (hallows : b.AllowsAll ops) : Holds (ops.foldl Op.apply t) (ops.foldl Book.apply b) := by
  induction ops generalizing t b with
  | nil => exact h
  | cons op ops ih => exact ih (h.apply hallows.1) hallows.2

/-- As long as no default is upserted while the tenant has one, the table has at most one row for
each tenant and group, missing groups included, and the policies that are read are those of the
map. -/
theorem policies_are_map (ops : List Op) (h : Book.AllowsAll (fun _ => none) ops) :
    (∀ r ∈ (run ops).rows, ∀ r' ∈ (run ops).rows,
      r.tenantID = r'.tenantID → r.groupID = r'.groupID → r = r') ∧ (∀ scan tenantID groupID,
      getUpdatePolicy scan tenantID groupID (run ops) = book ops (tenantID, groupID)) ∧
    ∀ scan tenantID groupIDs, getEffectiveUpdatePolicy scan tenantID groupIDs (run ops) =
      (groupIDs.findSome? fun groupID => book ops (tenantID, groupID)).or
        (book ops (tenantID, "")) := by
  have hholds : Holds (run ops) (book ops) := Holds.empty.foldl h
  have hget := fun scan => hholds.getUpdatePolicy_eq scan
  refine ⟨fun r hr r' hr' htenant hgroup => hholds.eq_of_key hr hr' ?_, hget,
    fun scan tenantID groupIDs => ?_⟩
  · simp [UpdatePolicy.key, PolicyRow.policy, htenant, hgroup]
  · unfold getEffectiveUpdatePolicy
    simp only [hget]
    cases groupIDs.findSome? fun groupID => book ops (tenantID, groupID) <;> rfl

def twoUpserts (groupID : String) : List Op :=
  [.upsert { id := "a", tenantID := "t" },
    .upsert { id := "b", tenantID := "t", groupID, settings := { enabled := false } }]

theorem policy_of_group :
    getUpdatePolicy .heap "t" "g" (run (twoUpserts "g")) = book (twoUpserts "g") ("t", "g") :=
  (policies_are_map (twoUpserts "g") ⟨fun _ => rfl, fun h => absurd h (by decide), trivial⟩).2.1
    .heap "t" "g"

/-- A default that is changed is there twice, and the old settings may be read. -/
theorem default_kept_twice :
    (run (twoUpserts "")).rows.map (fun r => (r.tenantID, r.groupID)) = [("t", none), ("t", none)] ∧
    getUpdatePolicy .heap "t" "" (run (twoUpserts "")) = some { id := "a", tenantID := "t" } := by
  decide

end Moebius.UpdatePolicies
