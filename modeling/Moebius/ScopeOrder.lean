import Moebius.EnrollmentScope
import Moebius.Scopes

/-!
One scope inside another.

`ScopeIsSubset` compares lists of identifiers and asks the database nothing. What it accepts holds
of the devices behind the lists in every database, so it goes on holding when memberships change;
and since it is inclusion of lists, it is reflexive and transitive.
-/

namespace Moebius

open Proc Enrollment

def ScopeAdmits (env : Env) (tenantID : String) (scope : Option APIScope) (fs : List Bool) (db : Db)
    (deviceID : String) : Prop :=
  ∃ allowed, ((resolveScope env tenantID scope).run fs db).1 = .ok allowed ∧
    deviceInScope allowed deviceID = true

section

variable {env : Env} {tenantID : String} {scope : Option APIScope} {db : Db} {d : String}

lemma inScope_of_scopeAdmits {fs : List Bool} (h : ScopeAdmits env tenantID scope fs db d) :
    ∀ s, scope = some s → db.InScope tenantID s d := by
  obtain ⟨allowed, hrun, hin⟩ := h
  have hresolved : (resolveScope env tenantID scope).wp (fun _ _ => True)
      (fun r _ => ∀ allowed, r = .ok allowed → ∀ s, scope = some s →
        allowed = some (selected env tenantID s db)) db := by
    refine wp_resolveScope env trivial (fun s _ _ allowed h => ?_) (fun hnone _ _ s hs => ?_)
      fun s hs allowed h s' hs' => ?_
    · cases h
    · cases hnone.symm.trans hs
    · cases hs.symm.trans hs'
      cases h
      rfl
  intro s hs
  have hallowed := wp_run hresolved fs allowed hrun s hs
  rw [hallowed] at hin
  exact (mem_selected env).mp (of_decide_eq_true hin)

lemma scopeAdmits_of_inScope (h : ∀ s, scope = some s → db.InScope tenantID s d) :
    ScopeAdmits env tenantID scope [] db d := by
  cases scope with
  | none => exact ⟨none, rfl, rfl⟩
  | some s =>
    refine ⟨some (selected env tenantID s db), ?_, ?_⟩
    · simp only [resolveScope, bind_eq, run_nil_bind, run_nil_expandAll env tenantID s]
      rfl
    · exact decide_eq_true ((mem_selected env).mpr (h s rfl))

end

lemma allInSet_iff {candidates allowed : List String} :
    allInSet candidates allowed = true ↔ ∀ id ∈ candidates, id ∈ allowed := by
  refine ⟨mem_of_allInSet, fun h => ?_⟩
  unfold allInSet
  split
  · rfl
  · rename_i hne
    obtain ⟨id, rest, rfl⟩ := List.exists_cons_of_ne_nil hne
    have hallowed : allowed ≠ [] := List.ne_nil_of_mem (h id List.mem_cons_self)
    rw [if_neg hallowed]
    exact List.all_eq_true.mpr fun id hid => decide_eq_true (h id hid)

lemma scopeIsSubset_iff {outer inner : Option APIScope} :
    scopeIsSubset outer inner = true ↔ ∀ o, outer = some o → ∃ i, inner = some i ∧
      (∀ id ∈ i.groupIDs, id ∈ o.groupIDs) ∧ (∀ id ∈ i.tagIDs, id ∈ o.tagIDs) ∧
      (∀ id ∈ i.siteIDs, id ∈ o.siteIDs) ∧ ∀ id ∈ i.deviceIDs, id ∈ o.deviceIDs := by
  cases outer with
  | none => simp [scopeIsSubset]
  | some o =>
    cases inner with
    | none => simp [scopeIsSubset]
    | some i => simp [scopeIsSubset, allInSet_iff, and_assoc]

lemma inScope_mono {outer inner : APIScope}
    (h : scopeIsSubset (some outer) (some inner) = true) {tenantID d : String} {db : Db}
    (hd : db.InScope tenantID inner d) : db.InScope tenantID outer d := by
  rcases hd with hlisted | ⟨o, id, hid, hlinked⟩
  · obtain ⟨i, hi, -, -, -, hdevices⟩ := scopeIsSubset_iff.mp h outer rfl
    cases hi
    exact .inl (hdevices d hlisted)
  · exact .inr ⟨o, id, mem_of_scopeIsSubset h o id hid, hlinked⟩

/-- `ScopeIsSubset` is sound in every state of the database, and a preorder. -/
theorem scopeIsSubset_sound_preorder : (∀ outer inner, scopeIsSubset outer inner = true →
      ∀ env env' tenantID db fs d, ScopeAdmits env tenantID inner fs db d →
        ScopeAdmits env' tenantID outer [] db d) ∧ (∀ s, scopeIsSubset s s = true) ∧
    ∀ a b c, scopeIsSubset a b = true → scopeIsSubset b c = true → scopeIsSubset a c = true := by
  refine ⟨fun outer inner h env env' tenantID db fs d hd => ?_, fun s => ?_,
    fun a b c hab hbc => ?_⟩
  · refine scopeAdmits_of_inScope fun o ho => ?_
    obtain ⟨i, hi, -⟩ := scopeIsSubset_iff.mp h o ho
    subst ho hi
    exact inScope_mono h (inScope_of_scopeAdmits hd i rfl)
  · refine scopeIsSubset_iff.mpr fun o ho => ⟨o, ho, ?_⟩
    exact ⟨fun _ h => h, fun _ h => h, fun _ h => h, fun _ h => h⟩
  · refine scopeIsSubset_iff.mpr fun o ho => ?_
    obtain ⟨i, hi, hgroups, htags, hsites, hdevices⟩ := scopeIsSubset_iff.mp hab o ho
    obtain ⟨j, hj, hgroups', htags', hsites', hdevices'⟩ := scopeIsSubset_iff.mp hbc i hi
    exact ⟨j, hj, fun id h => hgroups id (hgroups' id h), fun id h => htags id (htags' id h),
      fun id h => hsites id (hsites' id h), fun id h => hdevices id (hdevices' id h)⟩

end Moebius
