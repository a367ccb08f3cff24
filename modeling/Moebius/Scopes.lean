import Moebius.Handler

/-!
Scopes of API keys: what the handlers ask of a scope, and the set of devices a scope or a target
stands for.

Resolving is a loop of queries that may fail. `Db.InScope` is the set it computes when it does not,
so everything else can be said without the loop.
-/

namespace Moebius

open Proc List Db

variable (scope : Option APIScope) (o : Owner)

def scopeHasField : Bool :=
  match scope with
  | none => false
  | some s => decide (o.idsOf s ≠ [])

/-- `IDInScopeField`: an empty field restricts nothing. -/
def idInScopeField (id : String) : Bool :=
  match scope with
  | none => true
  | some s => if o.idsOf s = [] then true else decide (id ∈ o.idsOf s)

def anyInSet (candidates allowed : List String) : Bool := candidates.any fun id => id ∈ allowed

/-- One field of `TargetOverlapsScope`. -/
def fieldOverlaps (allowed candidates : List String) : Bool :=
  if allowed ≠ [] ∧ candidates ≠ [] then anyInSet candidates allowed else true

def targetOverlapsScope (target : Option JobTarget) : Bool :=
  match scope, target with
  | some s, some t =>
    fieldOverlaps s.groupIDs t.groupIDs && fieldOverlaps s.tagIDs t.tagIDs &&
      fieldOverlaps s.siteIDs t.siteIDs && fieldOverlaps s.deviceIDs t.deviceIDs
  | _, _ => true

/-- A target names devices the way a scope does. -/
def JobTarget.selection (t : JobTarget) : APIScope :=
  { groupIDs := t.groupIDs, tagIDs := t.tagIDs, siteIDs := t.siteIDs, deviceIDs := t.deviceIDs }

/-- The device is of the tenant and linked to the group, tag or site. -/
def Db.Linked (db : Db) (o : Owner) (tenantID ownerID deviceID : String) : Prop :=
  ⟨deviceID, ownerID⟩ ∈ (o.members db).rows ∧
    ∃ row, db.devices.get? deviceID = some row ∧ row.tenantID = tenantID

/-- The device is listed, or linked to something that is listed. -/
def Db.InScope (db : Db) (tenantID : String) (s : APIScope) (deviceID : String) : Prop :=
  deviceID ∈ s.deviceIDs ∨ ∃ o : Owner, ∃ id ∈ o.idsOf s, db.Linked o tenantID id deviceID

/-- Devices, groups, tags, sites and memberships are as they were. -/
structure SamePlaces (a b : Db) : Prop where
  devices : b.devices = a.devices
  owners : ∀ o, Owner.rows o b = o.rows a
  members : ∀ o, Owner.members o b = o.members a

namespace SamePlaces

variable {a b c : Db}

lemma refl (a : Db) : SamePlaces a a := ⟨rfl, fun _ => rfl, fun _ => rfl⟩

lemma trans (h : SamePlaces a b) (h' : SamePlaces b c) : SamePlaces a c :=
  ⟨h'.devices.trans h.devices, fun o => (h'.owners o).trans (h.owners o),
    fun o => (h'.members o).trans (h.members o)⟩

lemma inScope_iff (h : SamePlaces a b) {tenantID : String} {s : APIScope} {d : String} :
    b.InScope tenantID s d ↔ a.InScope tenantID s d := by
  simp only [InScope, Linked, h.devices, h.members]

end SamePlaces

/-- Resolving the scope takes a query, which may fail. -/
def APIScope.Queries (s : APIScope) : Prop := ∃ o : Owner, o.idsOf s ≠ []

/-- What the scope check of the handlers makes sure of. -/
def MayPass (caller : Caller) (db : Db) (deviceID : String) : Prop :=
  ∀ s, caller.isAdmin = false → caller.scope = some s →
    db.InScope caller.tenantID s deviceID ∨ s.Queries

/-- The elements of the second list that are not in the first are put behind it. -/
def union (acc ids : List String) : List String :=
  ids.foldl (fun acc id => if id ∈ acc then acc else acc ++ [id]) acc

variable {acc ids : List String}

lemma mem_union {d : String} : d ∈ union acc ids ↔ d ∈ acc ∨ d ∈ ids := by
  induction ids generalizing acc with
  | nil => simp [union]
  | cons id ids ih =>
    have hstep : union acc (id :: ids) = union (if id ∈ acc then acc else acc ++ [id]) ids := rfl
    rw [hstep, ih, mem_cons]
    by_cases hid : id ∈ acc
    · rw [if_pos hid]
      constructor
      · rintro (h | h)
        · exact .inl h
        · exact .inr (.inr h)
      · rintro (h | rfl | h)
        · exact .inl h
        · exact .inl hid
        · exact .inr h
    · rw [if_neg hid, mem_append, mem_singleton, or_assoc]

lemma nodup_union (h : acc.Nodup) : (union acc ids).Nodup := by
  induction ids generalizing acc with
  | nil => exact h
  | cons id ids ih =>
    have hstep : union acc (id :: ids) = union (if id ∈ acc then acc else acc ++ [id]) ids := rfl
    rw [hstep]
    refine ih ?_
    split
    · exact h
    · rename_i hid
      refine nodup_append.mpr ⟨h, nodup_singleton id, fun a ha b hb hab => ?_⟩
      rw [mem_singleton] at hb
      exact hid (hb ▸ hab ▸ ha)

section

variable (env : Env) {o : Owner} {tenantID d : String} {owners : List String} {db : Db}

lemma mem_members {ownerID : String} :
    d ∈ members env o.members ownerID tenantID db ↔ db.Linked o tenantID ownerID d := by
  unfold members Linked
  constructor
  · intro h
    obtain ⟨m, hm, rfl⟩ := mem_map.mp h
    rw [Scan.mem_order] at hm
    obtain ⟨hrow, hp⟩ := mem_filter.mp hm
    obtain ⟨rfl, hdev⟩ := of_decide_eq_true hp
    rcases hd : db.devices.get? m.deviceID with _ | row
    · rw [hd] at hdev
      cases hdev
    · rw [hd] at hdev
      exact ⟨hrow, row, rfl, of_decide_eq_true hdev⟩
  · rintro ⟨hrow, row, hd, ht⟩
    refine mem_map.mpr ⟨⟨d, ownerID⟩, ?_, rfl⟩
    rw [Scan.mem_order]
    exact mem_filter.mpr ⟨hrow, by simp [hd, ht]⟩

/-- The devices linked to one of the owners, behind those found before. -/
def expanded (o : Owner) (tenantID : String) (owners acc : List String) (db : Db) :
    List String :=
  owners.foldl (fun acc ownerID => union acc (members env o.members ownerID tenantID db)) acc

lemma mem_expanded : d ∈ expanded env o tenantID owners acc db ↔
      d ∈ acc ∨ ∃ id ∈ owners, db.Linked o tenantID id d := by
  induction owners generalizing acc with
  | nil => simp [expanded]
  | cons owner owners ih =>
    have hstep : expanded env o tenantID (owner :: owners) acc db =
        expanded env o tenantID owners (union acc (members env o.members owner tenantID db)) db :=
      rfl
    rw [hstep, ih, mem_union, mem_members, or_assoc]
    simp only [mem_cons, exists_eq_or_imp]

lemma nodup_expanded (h : acc.Nodup) : (expanded env o tenantID owners acc db).Nodup := by
  induction owners generalizing acc with
  | nil => exact h
  | cons owner owners ih => exact ih (nodup_union h)

/-- What resolving a selection finds. -/
def selected (tenantID : String) (s : APIScope) (db : Db) : List String :=
  expanded env .site tenantID s.siteIDs
    (expanded env .tag tenantID s.tagIDs
      (expanded env .group tenantID s.groupIDs (union [] s.deviceIDs) db) db) db

lemma mem_selected {s : APIScope} : d ∈ selected env tenantID s db ↔ db.InScope tenantID s d := by
  simp only [selected, mem_expanded, mem_union, not_mem_nil, false_or, InScope]
  constructor
  · rintro (((h | h) | h) | h)
    · exact .inl h
    · exact .inr ⟨.group, h⟩
    · exact .inr ⟨.tag, h⟩
    · exact .inr ⟨.site, h⟩
  · rintro (h | ⟨o, h⟩)
    · exact .inl (.inl (.inl h))
    · cases o with
      | group => exact .inl (.inl (.inr h))
      | tag => exact .inl (.inr h)
      | site => exact .inr h

lemma nodup_selected (tenantID : String) (s : APIScope) (db : Db) :
    (selected env tenantID s db).Nodup :=
  nodup_expanded env (nodup_expanded env (nodup_expanded env (nodup_union nodup_nil)))

/-! ### Resolving -/

variable {R : Db → Db → Prop} {deviceID : String} {Q : Except Unit (List String) → Db → Prop}
  {s : APIScope} {caller : Caller}

lemma wp_expand (hrefl : R db db) (herr : owners ≠ [] → Q (.error ()) db)
    (hok : Q (.ok (expanded env o tenantID owners acc db)) db) :
    (expand env o.members tenantID owners acc).wp R Q db := by
  -- with `xs` still to go, the rest of the loop ends where the whole loop ends
  refine wp_loop
    (fun xs b s => s = db ∧ (xs ≠ [] → owners ≠ []) ∧
      expanded env o tenantID xs b db = expanded env o tenantID owners acc db)
    (fun _ s => s = db ∧ owners ≠ []) (fun x xs b s h => ?_) (fun b s h => ?_) (fun e s h => ?_)
    ⟨rfl, id, rfl⟩
  · obtain ⟨rfl, hne, hxs⟩ := h
    have howners : owners ≠ [] := hne (cons_ne_nil x xs)
    simp only [bind_eq, wp_bind, wp_read]
    exact ⟨⟨hrefl, rfl, fun _ => howners, hxs⟩, rfl, howners⟩
  · obtain ⟨rfl, -, hb⟩ := h
    have hb : b = expanded env o tenantID owners acc s := hb
    rw [hb]
    exact hok
  · obtain ⟨rfl, howners⟩ := h
    exact herr howners

variable (db) in
lemma run_nil_expand (o : Owner) (tenantID : String) (owners acc : List String) :
    (expand env o.members tenantID owners acc).run [] db =
      (.ok (expanded env o tenantID owners acc db), db) := by
  induction owners generalizing acc with
  | nil => rfl
  | cons owner owners ih => exact ih (union acc (members env o.members owner tenantID db))

lemma wp_expandAll (hrefl : R db db) (herr : s.Queries → Q (.error ()) db)
    (hok : Q (.ok (selected env tenantID s db)) db) :
    (expandAll env tenantID s.deviceIDs s.groupIDs s.tagIDs s.siteIDs).wp R Q db := by
  simp only [expandAll, bind_eq, wp_bind]
  refine wp_expand env (o := .group) hrefl (fun h => herr ⟨.group, h⟩) ?_
  rw [wp_bind]
  refine wp_expand env (o := .tag) hrefl (fun h => herr ⟨.tag, h⟩) ?_
  exact wp_expand env (o := .site) hrefl (fun h => herr ⟨.site, h⟩) hok

lemma run_nil_expandAll (tenantID : String) (s : APIScope) :
    (expandAll env tenantID s.deviceIDs s.groupIDs s.tagIDs s.siteIDs).run [] db =
      (.ok (selected env tenantID s db), db) := by
  have hdirect : s.deviceIDs.foldl (fun acc id => if id ∈ acc then acc else acc ++ [id]) [] =
      union [] s.deviceIDs := rfl
  have hgroup : ∀ acc, (expand env deviceGroups tenantID s.groupIDs acc).run [] db =
      (.ok (expanded env .group tenantID s.groupIDs acc db), db) :=
    run_nil_expand env db .group tenantID s.groupIDs
  have htag : ∀ acc, (expand env deviceTags tenantID s.tagIDs acc).run [] db =
      (.ok (expanded env .tag tenantID s.tagIDs acc db), db) :=
    run_nil_expand env db .tag tenantID s.tagIDs
  have hsite : ∀ acc, (expand env deviceSites tenantID s.siteIDs acc).run [] db =
      (.ok (expanded env .site tenantID s.siteIDs acc db), db) :=
    run_nil_expand env db .site tenantID s.siteIDs
  simp only [expandAll, hdirect, bind_eq, run_nil_bind, hgroup, htag, hsite]
  rfl

lemma wp_resolveScope {scope : Option APIScope} {Q : Except Unit (Option (List String)) → Db → Prop}
    (hrefl : R db db) (herr : ∀ s, scope = some s → s.Queries → Q (.error ()) db)
    (hnone : scope = none → Q (.ok none) db)
    (hsome : ∀ s, scope = some s → Q (.ok (some (selected env tenantID s db))) db) :
    (resolveScope env tenantID scope).wp R Q db := by
  rcases scope with _ | s
  · exact hnone rfl
  · simp only [resolveScope, bind_eq, wp_bind]
    exact wp_expandAll env hrefl (herr s rfl) (hsome s rfl)

/-- The check stops the request, and then the device is not in the scope of the key, or it lets the
request pass. -/
lemma wp_outOfScope {Q : Bool → Db → Prop} (hrefl : R db db)
    (hpass : MayPass caller db deviceID → Q false db)
    (hstop : ∀ s, caller.isAdmin = false → caller.scope = some s →
      ¬ db.InScope caller.tenantID s deviceID → Q true db) :
    (outOfScope env caller deviceID).wp R Q db := by
  unfold outOfScope
  split
  · rename_i hadmin
    exact hpass fun s h => by rw [hadmin] at h; cases h
  rename_i hadmin
  simp only [bind_eq, wp_bind]
  refine wp_resolveScope env hrefl (fun s hs hq => hpass fun s' _ hs' => ?_)
    (fun hnone => hpass fun s' _ hs' => ?_) fun s hs => ?_
  · cases hs.symm.trans hs'
    exact .inr hq
  · cases hnone.symm.trans hs'
  · by_cases hin : db.InScope caller.tenantID s deviceID
    · have hmay : MayPass caller db deviceID := fun s' _ hs' => by
        cases hs.symm.trans hs'
        exact .inl hin
      simpa [deviceInScope, mem_selected, hin] using hpass hmay
    · simpa [deviceInScope, mem_selected, hin] using hstop s (by simpa using hadmin) hs hin

lemma run_nil_outOfScope (hadmin : caller.isAdmin = false) (hscope : caller.scope = some s)
    (hout : ¬ db.InScope caller.tenantID s deviceID) :
    (outOfScope env caller deviceID).run [] db = (true, db) := by
  unfold outOfScope
  rw [if_neg (by simp [hadmin]), hscope, bind_eq, run_nil_bind]
  simp only [resolveScope, bind_eq, run_nil_bind, run_nil_expandAll env caller.tenantID s]
  simp [deviceInScope, mem_selected, hout]

end

end Moebius
