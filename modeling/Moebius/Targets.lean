import Mathlib.Data.List.Induction
import Moebius.Scheduler
import Moebius.Scopes

/-!
The two resolvers of targets.

The API and the scheduler have a copy each. Both walk through the listed devices and then through
the members of the listed groups, tags and sites, and keep a map of what they have seen beside the
list they return. The map says what the list holds, so either copy is the resolver that the
handlers are modelled with, and what it returns is everything met on the way, once each, in the
order in which it was met first.
-/

namespace Moebius

open Proc List Db

/-! ### The resolvers -/

structure Found where
  seen : String → Bool := fun _ => false
  deviceIDs : List String := []

namespace Found

def add (f : Found) (id : String) : Found :=
  if f.seen id then f
  else { seen := Function.update f.seen id true, deviceIDs := f.deviceIDs ++ [id] }

def Faithful (f : Found) : Prop := ∀ id, f.seen id = true ↔ id ∈ f.deviceIDs

lemma faithful_empty : ({} : Found).Faithful := fun id => by simp

variable {f : Found}

lemma deviceIDs_add (h : f.Faithful) {id : String} :
    (f.add id).deviceIDs = if id ∈ f.deviceIDs then f.deviceIDs else f.deviceIDs ++ [id] := by
  unfold add
  by_cases hid : id ∈ f.deviceIDs
  · rw [if_pos ((h id).mpr hid), if_pos hid]
  · rw [if_neg (mt (h id).mp hid), if_neg hid]

lemma Faithful.add (h : f.Faithful) (id : String) : (f.add id).Faithful := by
  unfold Found.add
  split
  · exact h
  · intro d
    by_cases hd : d = id
    · subst hd
      simp
    · simp [hd, h d]

lemma Faithful.addAll (h : f.Faithful) {ids : List String} : (ids.foldl Found.add f).Faithful ∧
      (ids.foldl Found.add f).deviceIDs = union f.deviceIDs ids := by
  induction ids generalizing f with
  | nil => exact ⟨h, rfl⟩
  | cons id ids ih =>
    obtain ⟨hfaithful, hids⟩ := ih (h.add id)
    refine ⟨hfaithful, ?_⟩
    rw [foldl_cons, hids, deviceIDs_add h]
    rfl

end Found

variable (env : Env) (tenantID : String) (target : JobTarget)

/-- The members of the owners of one kind, added to what was found before. -/
def collect (table : Db → Table Membership.key) :
    List String → Found → Proc Db (Except Unit Found) :=
  loop fun found ownerID => do
    match ← read (members env table ownerID tenantID) with
    | none => pure (.error ())
    | some rows => pure (.ok (rows.foldl Found.add found))

def jobsResolveTargets : Proc Db (Except Unit (List String)) := do
  let found := target.deviceIDs.foldl Found.add {}
  match ← collect env tenantID deviceGroups target.groupIDs found with
  | .error e => pure (.error e)
  | .ok found =>
    match ← collect env tenantID deviceTags target.tagIDs found with
    | .error e => pure (.error e)
    | .ok found =>
      match ← collect env tenantID deviceSites target.siteIDs found with
      | .error e => pure (.error e)
      | .ok found => pure (.ok found.deviceIDs)

def schedulerResolveTargets : Proc Db (Except Unit (List String)) := do
  let found := target.deviceIDs.foldl Found.add {}
  match ← collect env tenantID deviceGroups target.groupIDs found with
  | .error e => pure (.error e)
  | .ok found =>
    match ← collect env tenantID deviceTags target.tagIDs found with
    | .error e => pure (.error e)
    | .ok found =>
      match ← collect env tenantID deviceSites target.siteIDs found with
      | .error e => pure (.error e)
      | .ok found => pure (.ok found.deviceIDs)

variable {env : Env} {tenantID : String} {target : JobTarget}

/-- A loop that keeps the map is the loop that looks into the list. -/
lemma bind_collect {α : Type} {table : Db → Table Membership.key}
    {k : Except Unit Found → Proc Db α} {k' : Except Unit (List String) → Proc Db α}
    (herr : k (.error ()) = k' (.error ()))
    (hok : ∀ f : Found, f.Faithful → k (.ok f) = k' (.ok f.deviceIDs)) {owners : List String}
    {f : Found} (hf : f.Faithful) :
    (collect env tenantID table owners f).bind k =
      (expand env table tenantID owners f.deviceIDs).bind k' := by
  unfold collect expand
  induction owners generalizing f with
  | nil => exact hok f hf
  | cons owner owners ih =>
    simp only [loop, bind_eq, Proc.bind_assoc]
    congr 1
    funext r
    cases r with
    | none => exact herr
    | some rows =>
      obtain ⟨hfaithful, hids⟩ := hf.addAll
      have hrest := ih hfaithful
      rw [hids] at hrest
      exact hrest

lemma jobsResolveTargets_eq :
    jobsResolveTargets env tenantID target = Jobs.resolveTargets env tenantID target := by
  obtain ⟨hfaithful, hids⟩ := Found.faithful_empty.addAll
  have hdirect : target.deviceIDs.foldl
      (fun acc id => if id ∈ acc then acc else acc ++ [id]) [] =
        (target.deviceIDs.foldl Found.add {}).deviceIDs := hids.symm
  simp only [jobsResolveTargets, Jobs.resolveTargets, expandAll, bind_eq, hdirect]
  refine bind_collect rfl (fun f hf => ?_) hfaithful
  refine bind_collect rfl (fun f hf => ?_) hf
  refine (bind_collect ?_ (fun _ _ => ?_) hf).trans (Proc.bind_pure _)
  · rfl
  · rfl

lemma schedulerResolveTargets_eq : schedulerResolveTargets env tenantID target =
      Scheduler.resolveTargets env tenantID target :=
  jobsResolveTargets_eq

section

variable (env : Env) (tenantID : String)

/-- Every device a resolver meets, in the order in which it meets them. -/
def met (s : APIScope) (db : Db) : List String :=
  s.deviceIDs ++ (s.groupIDs.flatMap (members env deviceGroups · tenantID db) ++
    (s.tagIDs.flatMap (members env deviceTags · tenantID db) ++
      s.siteIDs.flatMap (members env deviceSites · tenantID db)))

lemma union_append {acc xs ys : List String} :
    union acc (xs ++ ys) = union (union acc xs) ys := foldl_append

lemma expanded_eq {o : Owner} {owners acc : List String} {db : Db} :
    expanded env o tenantID owners acc db =
      union acc (owners.flatMap (members env o.members · tenantID db)) := by
  induction owners generalizing acc with
  | nil => rfl
  | cons owner owners ih =>
    rw [flatMap_cons, union_append, ← ih]
    rfl

lemma selected_eq (s : APIScope) (db : Db) :
    selected env tenantID s db = union [] (met env tenantID s db) := by
  simp only [selected, expanded_eq, met, union_append]
  rfl

lemma union_singleton {acc : List String} {id : String} :
    union acc [id] = if id ∈ acc then acc else acc ++ [id] := rfl

lemma pairwise_union (l : List String) :
    (union [] l).Pairwise fun a b => l.idxOf a < l.idxOf b := by
  induction l using reverseRecOn with
  | nil => exact Pairwise.nil
  | append_singleton l x ih =>
    have hmem : ∀ a, a ∈ union [] l ↔ a ∈ l := fun a => by simp [mem_union]
    have hold : (union [] l).Pairwise fun a b => (l ++ [x]).idxOf a < (l ++ [x]).idxOf b := by
      refine ih.imp_of_mem fun {a b} ha hb hlt => ?_
      rw [idxOf_append_of_mem ((hmem a).mp ha), idxOf_append_of_mem ((hmem b).mp hb)]
      exact hlt
    rw [union_append, union_singleton]
    split
    · exact hold
    · rename_i hx
      have hx' : x ∉ l := fun h => hx ((hmem x).mpr h)
      refine pairwise_append.mpr ⟨hold, pairwise_singleton _ x, ?_⟩
      intro a ha b hb
      cases mem_singleton.mp hb
      have ha' := (hmem a).mp ha
      have hlt := idxOf_lt_length_of_mem ha'
      rw [idxOf_append_of_mem ha', idxOf_append_of_notMem hx']
      simpa using hlt

end

/-- The two resolvers answer alike, whatever the state, the target and the failing queries. When no
query fails they return the devices the target stands for, without repetition and in the order in
which they were met first. -/
theorem resolvers_agree (scan : Scan Membership) (env env' : Env) (tenantID : String)
    (target : JobTarget) (db : Db) :
    (∀ fs, (jobsResolveTargets { env with scanMembers := scan } tenantID target).run fs db =
      (schedulerResolveTargets { env' with scanMembers := scan } tenantID target).run fs db) ∧
    ∃ ds, (jobsResolveTargets { env with scanMembers := scan } tenantID target).run [] db =
        (.ok ds, db) ∧
      ds.Nodup ∧
      (ds.Pairwise fun a b =>
        (met { env with scanMembers := scan } tenantID target.selection db).idxOf a <
          (met { env with scanMembers := scan } tenantID target.selection db).idxOf b) ∧
      ∀ d, d ∈ ds ↔ db.InScope tenantID target.selection d := by
  refine ⟨fun fs => rfl, selected { env with scanMembers := scan } tenantID target.selection db,
    ?_, nodup_selected _ _ _ _, ?_, fun d => mem_selected _⟩
  · rw [jobsResolveTargets_eq]
    exact run_nil_expandAll _ tenantID target.selection
  · rw [selected_eq]
    exact pairwise_union _

end Moebius
