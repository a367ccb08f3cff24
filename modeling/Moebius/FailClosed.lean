import Moebius.Reach

/-!
Whether scope enforcement fails closed.

A request touches a device if its answer shows the device, its inventory or one of its jobs, or if
it leaves the device's row, its tags or one of its jobs changed, or a retry of one. The check of the
handlers lets the request pass when a query of the check fails.
-/

namespace Moebius.Api

open Proc Devices Effect Option List Bool

/-! ### Touching a device -/

variable (d : String) (s : APIScope)

/-- The answer shows the device or something of it. -/
def Shows : Body → Prop
  | .devices rows => ∃ r ∈ rows, r.id = d
  | .device view => view.row.id = d
  | .inventory deviceID _ => deviceID = d
  | .jobs items => ∃ i ∈ items, i.deviceID = d
  | .job view => view.row.deviceID = d
  | _ => False

/-- Nothing of the device is different: not its row, its tags or its jobs, and none of its jobs has
a new retry. -/
structure SameFor (d : String) (a b : Db) : Prop where
  device : b.devices.get? d = a.devices.get? d
  tags : ∀ t, ⟨d, t⟩ ∈ b.deviceTags.rows ↔ ⟨d, t⟩ ∈ a.deviceTags.rows
  jobs : ∀ id j, a.job? id = some j → j.deviceID = d → b.job? id = some j
  retries : ∀ id k, a.job? id = none → b.job? id = some k →
    ∀ parent j, k.parentJobID = some parent → a.job? parent = some j → j.deviceID ≠ d

/-- The request reads, renames, revokes, tags or untags the device, reads its inventory, or reads,
cancels or retries one of its jobs. -/
def Touches (db : Db) (out : Reply Body × Db) : Prop :=
  (∃ n body, out.1 = .ok n body ∧ Shows d body) ∨ ¬ SameFor d db out.2

/-- Whatever the database holds and whichever statements fail, no device outside the scope is
touched. -/
def FailsClosed (cfg : Config) (caller : Caller) (s : APIScope) (req : Request) : Prop :=
  ∀ env faults db d, ¬ db.InScope caller.tenantID s d →
    ¬ Touches d db ((serve cfg env caller req).run faults db)

/-- The device is listed, or resolving the scope takes no query. -/
def Settled (deviceID : String) : Prop := ¬ s.Queries ∨ deviceID ∈ s.deviceIDs

/-- The request never gets past a check by the failure of a query, and it shows or untags no devices
but those of the scope. -/
def Safe : Request → Prop
  | .group (.listDevices id) => id ∈ s.groupIDs
  | .site (.listDevices id) => id ∈ s.siteIDs
  | .tag (.delete id) => s.tagIDs ≠ [] ∧ id ∉ s.tagIDs
  | .tag (.addToDevice deviceID body) => body = none ∨ body = some [] ∨ Settled s deviceID
  | .tag (.removeFromDevice deviceID _) => Settled s deviceID
  | .device (.get deviceID) => Settled s deviceID
  | .device (.update deviceID body) => body = none ∨ body = some "" ∨ Settled s deviceID
  | .device (.revoke deviceID body) => body = none ∨ Settled s deviceID
  | .device (.inventory deviceID) => Settled s deviceID
  | .job (.get _) | .job (.cancel _) | .job (.retry _) => ¬ s.Queries
  | _ => True

variable {caller : Caller} {s : APIScope}

lemma inScope_of_mayPass {db : Db} {x : String} (hadmin : caller.isAdmin = false)
    (hscope : caller.scope = some s) (hpass : MayPass caller db x) (hsettled : Settled s x) :
    db.InScope caller.tenantID s x := by
  rcases hpass s hadmin hscope with hin | hq
  · exact hin
  · rcases hsettled with hnot | hlisted
    · exact absurd hq hnot
    · exact .inl hlisted

lemma outsideField_eq_false {o : Db.Owner} {id : String} (hadmin : caller.isAdmin = false)
    (hscope : caller.scope = some s) :
    Owners.outsideField o caller id = false ↔ o.idsOf s = [] ∨ id ∈ o.idsOf s := by
  simp only [Owners.outsideField, hadmin, hscope, idInScopeField, Bool.not_false, Bool.true_and,
    Bool.not_eq_false']
  split
  · rename_i hnil
    simp [hnil]
  · rename_i hne
    simp [hne]

/-! ### What a write touches -/

def Effect.Hits (d : String) (a : Db) : Effect → Prop
  | .deleteOwner .tag _ _ => True
  | .addLink .tag x _ => x = d
  | .removeLink .tag x _ => x = d
  | .renameDevice _ x _ => x = d
  | .revokeDevice _ _ x _ => x = d
  | .cancelJob _ jobID => ∃ j, a.job? jobID = some j ∧ j.deviceID = d
  | .insertJob row => ∃ parent j, row.parentJobID = some parent ∧ a.job? parent = some j ∧
      j.deviceID = d
  | _ => False

variable {d x : String}

section

variable {a b : Db}

lemma sameFor_of_map {g : JobRow → JobRow} (hdevice : b.devices.get? d = a.devices.get? d)
    (htags : ∀ t, ⟨d, t⟩ ∈ b.deviceTags.rows ↔ ⟨d, t⟩ ∈ a.deviceTags.rows)
    (hget : ∀ id, b.job? id = (a.job? id).map g)
    (hg : ∀ id j, a.job? id = some j → j.deviceID = d → g j = j) : SameFor d a b where
  device := hdevice
  tags := htags
  jobs id j hj hd := by rw [hget, hj, map_some, hg id j hj hd]
  retries id k ha hb := by
    rw [hget, ha] at hb
    cases hb

lemma sameFor_of_jobs (hdevice : b.devices.get? d = a.devices.get? d)
    (htags : ∀ t, ⟨d, t⟩ ∈ b.deviceTags.rows ↔ ⟨d, t⟩ ∈ a.deviceTags.rows)
    (hjobs : b.jobs = a.jobs) : SameFor d a b :=
  sameFor_of_map (g := id) hdevice htags (fun id => by simp [Db.job?, hjobs])
    fun _ _ _ _ => rfl

lemma sameFor_of_eq (hdevices : b.devices = a.devices) (htags : b.deviceTags = a.deviceTags)
    (hjobs : b.jobs = a.jobs) : SameFor d a b :=
  sameFor_of_jobs (by rw [hdevices]) (fun t => by rw [htags]) hjobs

lemma SameFor.refl (d : String) (a : Db) : SameFor d a a := sameFor_of_eq rfl rfl rfl

variable {o : Db.Owner} {id tenantID : String}

lemma sameFor_addLink (h : a.addLink o x id = some b) (hhit : ¬ (addLink o x id).Hits d a) :
    SameFor d a b := by
  rcases addLink_eq_some h with rfl | ⟨t, ht, rfl, -⟩
  · exact .refl d b
  cases o with
  | group | site => exact sameFor_of_eq rfl rfl rfl
  | tag =>
    have hne : x ≠ d := hhit
    refine sameFor_of_jobs rfl (fun tag => ?_) rfl
    have hrows : t.rows = a.deviceTags.rows ++ [⟨x, id⟩] := Table.rows_of_insert ht
    change _ ∈ t.rows ↔ _
    rw [hrows, mem_append, mem_singleton, Membership.mk.injEq]
    constructor
    · rintro (hold | ⟨he, -⟩)
      · exact hold
      · exact absurd he.symm hne
    · exact .inl

lemma sameFor_removeLink (hhit : ¬ (removeLink o x id).Hits d a) :
    SameFor d a (a.removeLink o x id) := by
  cases o with
  | group | site => exact sameFor_of_eq rfl rfl rfl
  | tag =>
    have hne : x ≠ d := hhit
    refine sameFor_of_jobs rfl (fun tag => ?_) rfl
    change _ ∈ a.deviceTags.rows.filter _ ↔ _
    rw [mem_filter]
    constructor
    · exact And.left
    · intro hm
      refine ⟨hm, ?_⟩
      simp [Ne.symm hne]

lemma get?_update_of_same {t : Table DeviceRow.id} {f : DeviceRow → DeviceRow}
    (hf : ∀ r, (f r).id = r.id) (h : ∀ r, r.id = d → f r = r) :
    (t.update f hf).get? d = t.get? d := by
  rw [Table.get?_update]
  rcases hr : t.get? d with _ | r
  · rfl
  · rw [map_some, h r (Table.key_of_get? hr)]

lemma sameFor_renameDevice {hostname : String} (hne : x ≠ d) :
    SameFor d a (a.renameDevice tenantID x hostname).2 := by
  refine sameFor_of_jobs ?_ (fun _ => .rfl) rfl
  refine get?_update_of_same (fun r => by split <;> rfl) fun r hr => if_neg ?_
  rintro ⟨h, -⟩
  exact hne (h.symm.trans hr)

lemma sameFor_revokeDevice {now : Time} {reason : String}
    (h : a.revokeDevice now tenantID x reason = some b) (hne : x ≠ d) : SameFor d a b := by
  obtain ⟨-, rfl⟩ := Db.revokeDevice_eq_some h
  refine sameFor_of_map (g := (JobUpdate.cancelDevice x tenantID).onRow) ?_ (fun _ => .rfl)
    (fun id => ?_) fun id j _ hd => if_neg ?_
  · refine get?_update_of_same (fun r => by split <;> rfl) fun r hr => if_neg ?_
    rintro ⟨h, -⟩
    exact hne (h.symm.trans hr)
  · exact Db.job?_updateJobs _ _ _
  · rintro ⟨h, -⟩
    exact hne (h.symm.trans hd)

lemma sameFor_cancelJob {now : Time} {jobID : String}
    (hhit : ¬ (cancelJob now jobID).Hits d a) :
    SameFor d a (a.updateJobs (.markCancelled jobID now)) := by
  refine sameFor_of_map (g := (JobUpdate.markCancelled jobID now).onRow) rfl (fun _ => .rfl)
    (fun id => Db.job?_updateJobs _ _ _) fun id j hj hd => if_neg ?_
  intro hid
  have hkey : j.id = id := Table.key_of_get? hj
  refine hhit ⟨j, ?_, hd⟩
  rw [← hid, hkey]
  exact hj

lemma sameFor_insertJob {row : JobRow} (h : a.insertJob row = some b)
    (hhit : ¬ (insertJob row).Hits d a) : SameFor d a b := by
  obtain ⟨⟨jobs, hjobs, rfl⟩, -⟩ := Db.insertJob_eq_some h
  have hget : ∀ id, Db.job? { a with jobs := jobs } id =
      if row.id = id then some row else a.job? id := fun id => Table.get?_insert hjobs id
  have hfresh : a.job? row.id = none := Table.fresh_of_insert hjobs
  refine ⟨rfl, fun t => Iff.rfl, fun id j hj _ => ?_, fun id k ha hb parent j hp hj hd => ?_⟩
  · have hne : row.id ≠ id := by
      rintro rfl
      cases hfresh.symm.trans hj
    rw [hget, if_neg hne, hj]
  · rw [hget] at hb
    split at hb
    · cases hb
      exact hhit ⟨parent, j, hp, hj, hd⟩
    · cases ha.symm.trans hb

lemma Effect.sameFor {e : Effect} (h : e.apply a = some b) (hhit : ¬ e.Hits d a) :
    SameFor d a b := by
  cases e with
  | audit row =>
    have hquiet := quiet_insertAudit rfl h
    have htags : b.deviceTags = a.deviceTags := (congrArg Db.deviceTags hquiet.rest.others :)
    exact sameFor_of_eq (SameFleet.insertAudit h).devices htags hquiet.jobs
  | insertOwner o row =>
    obtain ⟨-, t, -, rfl⟩ := eq_some_of_guard h
    cases o <;> exact sameFor_of_eq rfl rfl rfl
  | updateOwner o tenantID id body =>
    cases h
    cases o <;> exact sameFor_of_eq rfl rfl rfl
  | deleteOwner o tenantID id =>
    cases h
    cases o with
    | group | site => exact sameFor_of_eq rfl rfl rfl
    | tag => exact absurd trivial hhit
  | addLink o x id => exact sameFor_addLink h hhit
  | removeLink o x id =>
    cases h
    exact sameFor_removeLink hhit
  | renameDevice tenantID x hostname =>
    cases h
    exact sameFor_renameDevice hhit
  | revokeDevice now tenantID x reason => exact sameFor_revokeDevice h hhit
  | cancelJob now jobID =>
    cases h
    exact sameFor_cancelJob hhit
  | insertJob row => exact sameFor_insertJob h hhit
  | insertSchedule row =>
    obtain ⟨-, t, -, rfl⟩ := eq_some_of_guard h
    exact sameFor_of_eq rfl rfl rfl
  | updateSchedule tenantID id u | setEnabled tenantID id enabled | deleteSchedule tenantID id =>
    cases h
    exact sameFor_of_eq rfl rfl rfl

end

variable {req : Request}

section

variable {db a b : Db} {e : Effect}

lemma ne_of_mayPass (hadmin : caller.isAdmin = false) (hscope : caller.scope = some s)
    (hout : ¬ db.InScope caller.tenantID s d) (hpass : MayPass caller db x)
    (hsettled : Settled s x) : x ≠ d := by
  rintro rfl
  exact hout (inScope_of_mayPass hadmin hscope hpass hsettled)

lemma not_hits (hadmin : caller.isAdmin = false) (hscope : caller.scope = some s)
    (hsafe : Safe s req) (hout : ¬ db.InScope caller.tenantID s d)
    (hissue : Issues caller db a req e) : ¬ e.Hits d a := by
  have hinside {x : String} := ne_of_mayPass (x := x) hadmin hscope hout
  cases hissue with
  | audit row => exact id
  | group h | site h => cases h <;> exact id
  | tag h =>
    cases h with
    | create ht => exact id
    | @delete id hfield =>
      rcases (outsideField_eq_false hadmin hscope).mp hfield with hnil | hmem
      · exact absurd hnil hsafe.1
      · exact absurd hmem hsafe.2
    | addToDevice hpass ht =>
      rcases hsafe with hnone | hnil | hsettled
      · cases hnone
      · cases hnil
        cases ht
      · exact hinside hpass hsettled
    | removeFromDevice hpass => exact hinside hpass hsafe
  | device h =>
    cases h with
    | update hne hpass =>
      rcases hsafe with hnone | hempty | hsettled
      · cases hnone
      · exact absurd (some.inj hempty) hne
      · exact hinside hpass hsettled
    | revoke hpass =>
      rcases hsafe with hnone | hsettled
      · cases hnone
      · exact hinside hpass hsettled
    | rollback hdevice htenant hd ht hp =>
      rintro ⟨parent, j, hparent, -⟩
      cases hp.symm.trans hparent
  | job h =>
    cases h with
    | create ht hp htarget hscope' =>
      rintro ⟨parent, j, hparent, -⟩
      cases hp.symm.trans hparent
    | cancel hj hpass =>
      rintro ⟨j, hj', rfl⟩
      cases hj.symm.trans hj'
      exact hinside hpass (.inl hsafe) rfl
    | retry hj htenant hpass ht hd hp =>
      rintro ⟨parent, j, hparent, hj', rfl⟩
      cases hp.symm.trans hparent
      cases hj.symm.trans hj'
      exact hinside hpass (.inl hsafe) rfl
  | schedule h => cases h <;> exact id

lemma SameFor.step (h : SameFor d db a) (hdelta : Delta e a b) (hstep : SameFor d a b)
    (hparent : ∀ row, e = .insertJob row → a.job? row.id = none) : SameFor d db b where
  device := hstep.device.trans h.device
  tags t := (hstep.tags t).trans (h.tags t)
  jobs id j hj hd := hstep.jobs id j (h.jobs id j hj hd) hd
  retries id k hdb hb parent j hp hj hd := by
    have hja := h.jobs parent j hj hd
    rcases ha : a.job? id with _ | k₀
    · exact hstep.retries id k ha hb parent j hp hja hd
    · -- a job that was there keeps its parent
      have hkid : k.id = id := Table.key_of_get? hb
      rcases hdelta.jobs k (Table.mem_of_get? hb) with ⟨k', hk', hsame⟩ | hnew
      · have hk'a : a.job? id = some k' := by
          rw [← hkid, hsame.id]
          exact Table.get?_of_mem hk'
        cases ha.symm.trans hk'a
        exact h.retries id k₀ hdb ha parent j (hsame.parentJobID ▸ hp) hj hd
      · have hfresh := hparent k hnew
        rw [hkid, ha] at hfresh
        cases hfresh

lemma sameFor_after {cfg : Config} {c : Call} (hadmin : c.caller.isAdmin = false)
    (hscope : c.caller.scope = some s) (hsafe : Safe s c.req)
    (hout : ¬ db.InScope c.caller.tenantID s d) : SameFor d db (c.after cfg db) := by
  refine after_invariant (I := SameFor d db) (fun a b e hissue happly ha => ?_) (.refl d db)
  refine ha.step (delta happly) (sameFor happly (not_hits hadmin hscope hsafe hout hissue)) ?_
  rintro row rfl
  obtain ⟨⟨jobs, hjobs, -⟩, -⟩ := Db.insertJob_eq_some happly
  exact Table.fresh_of_insert hjobs

end

section

variable {db a : Db}

/-- Nothing is said about the state, only about the answer. -/
def Free (_ _ : Db) : Prop := True

lemma wp_free {α : Type} (p : Proc Db α) (a : Db) : p.wp Free (fun _ _ => True) a := by
  induction p generalizing a with
  | done x => trivial
  | stmt w k e ihk ihe => exact ⟨⟨trivial, ihk _ _⟩, ihe a⟩

def Hides {β : Type} (d : String) (f : β → Body) : Reply β → Prop
  | .ok _ x => ¬ Shows d (f x)
  | .error _ _ _ => True

variable {β : Type} {f : β → Body} {p : Proc Db (Reply β)}

lemma wp_answer_hides (h : p.wp Free (fun r _ => Hides d f r) a) :
    (answer f p).wp Free (fun r _ => Hides d id r) a := by
  rw [answer, bind_eq, wp_bind]
  refine wp_post (fun r _ hr => ?_) h
  rcases r with ⟨n, x⟩ | ⟨n, code, msg⟩
  · exact hr
  · trivial

lemma wp_answer_of_never (h : ∀ x, ¬ Shows d (f x)) :
    (answer f p).wp Free (fun r _ => Hides d id r) a := by
  refine wp_answer_hides (wp_post (fun r _ _ => ?_) (wp_free p a))
  rcases r with ⟨n, x⟩ | ⟨n, code, msg⟩
  · exact h x
  · trivial

lemma wp_getDevice {env : Env} {tenantID : String} : (getDevice env tenantID x).wp Free
      (fun r _ => ∀ v, r = .ok (some v) → v.row.id = x) a := by
  simp only [getDevice, bind_eq, wp_bind, wp_read]
  refine ⟨⟨trivial, ?_⟩, fun v he => by cases he⟩
  rcases hr : a.deviceOf tenantID x with _ | row
  · intro v he
    cases he
  · obtain ⟨hget, -⟩ := filter_eq_some_iff.mp hr
    refine wp_bind_of_readOnly (readOnly_read _) trivial fun groups => ?_
    refine wp_bind_of_readOnly (readOnly_read _) trivial fun tags => ?_
    refine wp_bind_of_readOnly (readOnly_read _) trivial fun sites v he => ?_
    cases he
    exact Table.key_of_get? hget

section

variable (env : Env) (hadmin : caller.isAdmin = false) (hscope : caller.scope = some s)
  (hout : ¬ db.InScope caller.tenantID s d)

include hadmin hscope hout

lemma hides_devicesGet (hsettled : Settled s x) :
    (Devices.get env caller x).wp Free (fun r _ => Hides d .device r) db := by
  unfold Devices.get
  rw [bind_eq, wp_bind]
  refine wp_outOfScope env trivial (fun hpass => ?_) fun _ _ _ _ => trivial
  have hne := ne_of_mayPass hadmin hscope hout hpass hsettled
  simp only [false_eq_true, if_false, bind_eq, wp_bind]
  refine wp_post (fun r _ hr => ?_) wp_getDevice
  rcases r with _ | _ | v
  · trivial
  · trivial
  · exact fun hshows => hne ((hr v rfl).symm.trans hshows)

lemma hides_devicesUpdate {body : Option String}
    (hsafe : body = none ∨ body = some "" ∨ Settled s x) :
    (update env caller x body).wp Free (fun r _ => Hides d .device r) db := by
  unfold update
  rw [bind_eq, wp_bind]
  refine wp_outOfScope env trivial (fun hpass => ?_) fun _ _ _ _ => trivial
  rcases body with _ | hostname
  · trivial
  simp only [false_eq_true, if_false]
  split
  · trivial
  rename_i hempty
  have hsettled : Settled s x := by simpa [hempty] using hsafe
  have hne := ne_of_mayPass hadmin hscope hout hpass hsettled
  rw [bind_eq, wp_bind]
  refine wp_query trivial trivial fun n a _ => ⟨trivial, ?_⟩
  dsimp only
  split
  · trivial
  refine wp_seq wp_getDevice fun r _ hr => ?_
  rcases r with _ | _ | v
  · trivial
  · trivial
  · exact fun hshows => hne ((hr v rfl).symm.trans hshows)

lemma hides_inventory (hsettled : Settled s x) :
    (Inventory.getDeviceInventory env caller x).wp Free (fun r _ => Hides d (.inventory x) r)
      db := by
  unfold Inventory.getDeviceInventory
  rw [bind_eq, wp_bind]
  refine wp_outOfScope env trivial (fun hpass => ?_) fun _ _ _ _ => trivial
  have hne := ne_of_mayPass hadmin hscope hout hpass hsettled
  simp only [false_eq_true, if_false]
  refine wp_bind_of_readOnly (readOnly_read _) trivial fun found => ?_
  split
  · refine wp_bind_of_readOnly (readOnly_read _) trivial fun hw => ?_
    rcases hw with _ | hw
    · trivial
    refine wp_bind_of_readOnly (readOnly_read _) trivial fun packages => ?_
    rcases packages with _ | packages
    · trivial
    · exact hne
  · trivial

lemma hides_jobsGet {jobID : String} (hquiet : ¬ s.Queries) :
    (Jobs.get env caller jobID).wp Free (fun r _ => Hides d .job r) db := by
  simp only [Jobs.get, bind_eq, wp_bind, wp_read]
  refine ⟨⟨trivial, ?_⟩, trivial⟩
  rcases Jobs.tenantJob caller.tenantID jobID db with _ | j
  · trivial
  dsimp only
  split
  · trivial
  rw [wp_bind]
  refine wp_outOfScope env trivial (fun hpass => ?_) fun _ _ _ _ => trivial
  have hne := ne_of_mayPass hadmin hscope hout hpass (.inl hquiet)
  simp only [false_eq_true, if_false]
  split
  · exact wp_bind_of_readOnly (readOnly_read _) trivial fun result => hne
  · exact hne

lemma hides_scopedList {rows : Option (List String) → Db → List β} {failed : String}
    {f : List β → Body} (hnil : ¬ Shows d (f []))
    (h : ∀ ids, d ∉ ids → ¬ Shows d (f (rows (some ids) db))) :
    (scopedList env caller rows failed).wp Free (fun r _ => Hides d f r) db := by
  unfold scopedList listScope
  rw [if_neg (by simp [hadmin]), hscope]
  simp only [bind_eq, wp_bind]
  refine wp_resolveScope env trivial (fun _ _ _ => trivial) (fun h => by cases h) fun s' hs' => ?_
  cases hs'
  simp only [getD_some]
  split
  · exact hnil
  · simp only [pure_eq, wp_done, wp_bind, wp_read]
    exact ⟨⟨trivial, h _ fun hd => hout ((mem_selected env).mp hd)⟩, trivial⟩

lemma hides_devicesList (ilike : String → String → Bool) (f : Filters) :
    (list env ilike caller f).wp Free (fun r _ => Hides d .devices r) db := by
  refine hides_scopedList env hadmin hscope hout (fun ⟨_, hr, _⟩ => by cases hr) fun ids hids => ?_
  rintro ⟨r, hr, hid⟩
  obtain ⟨row, hrow, rfl⟩ := mem_map.mp hr
  have hw := selected_of_newest hrow
  simp only [wanted, allowedBy, and_eq_true, decide_eq_true_eq] at hw
  have hallowed : row.id ∈ ids := by tauto
  exact hids (hid ▸ hallowed)

lemma hides_jobsList (f : Jobs.Filters) :
    (Jobs.list env caller f).wp Free (fun r _ => Hides d .jobs r) db := by
  refine hides_scopedList env hadmin hscope hout (fun ⟨_, hi, _⟩ => by cases hi) fun ids hids => ?_
  rintro ⟨i, hi, hid⟩
  obtain ⟨j, hj, rfl⟩ := mem_map.mp hi
  have hw := selected_of_newest hj
  simp only [Jobs.wanted, allowedBy, and_eq_true, decide_eq_true_eq] at hw
  have hallowed : j.deviceID ∈ ids := by tauto
  exact hids (hid ▸ hallowed)

omit hadmin hscope in
lemma hides_listDevices {o : Db.Owner} {id : String} (hid : id ∈ o.idsOf s) :
    (Owners.listDevices o env caller id).wp Free (fun r _ => Hides d .devices r) db := by
  simp only [Owners.listDevices, bind_eq, wp_bind, wp_read]
  refine ⟨⟨trivial, ?_⟩, trivial⟩
  rintro ⟨r, hr, hrd⟩
  obtain ⟨row, hrow, rfl⟩ := mem_map.mp hr
  rw [mem_orderBy, Scan.mem_order] at hrow
  obtain ⟨hmem, hp⟩ := mem_filter.mp hrow
  obtain ⟨htenant, hany⟩ := of_decide_eq_true hp
  obtain ⟨m, hm, hlink⟩ := any_eq_true.mp hany
  obtain ⟨hdev, hown⟩ := of_decide_eq_true hlink
  have hrd : row.id = d := hrd
  refine hout (.inr ⟨o, id, hid, ?_, row, ?_, htenant⟩)
  · rwa [← hrd, ← hdev, ← hown]
  · rw [← hrd]
    exact Table.get?_of_mem hmem

lemma hides_handler (cfg : Config) (hsafe : Safe s req) :
    (handler cfg env req caller).wp Free (fun r _ => Hides d id r) db := by
  cases req with
  | group r =>
    cases r with
    | listDevices id => exact wp_answer_hides (hides_listDevices env hout (o := .group) hsafe)
    | list | get | create | update | delete | addDevices | removeDevice =>
      exact wp_answer_of_never fun _ => id
  | site r =>
    cases r with
    | listDevices id => exact wp_answer_hides (hides_listDevices env hout (o := .site) hsafe)
    | list | get | create | update | delete | addDevices | removeDevice =>
      exact wp_answer_of_never fun _ => id
  | tag r => cases r <;> exact wp_answer_of_never fun _ => id
  | device r =>
    cases r with
    | list f => exact wp_answer_hides (hides_devicesList env hadmin hscope hout cfg.ilike f)
    | get x => exact wp_answer_hides (hides_devicesGet env hadmin hscope hout hsafe)
    | update x body => exact wp_answer_hides (hides_devicesUpdate env hadmin hscope hout hsafe)
    | inventory x => exact wp_answer_hides (hides_inventory env hadmin hscope hout hsafe)
    | revoke | rollback => exact wp_answer_of_never fun _ => id
  | job r =>
    cases r with
    | list f => exact wp_answer_hides (hides_jobsList env hadmin hscope hout f)
    | get jobID => exact wp_answer_hides (hides_jobsGet env hadmin hscope hout hsafe)
    | create | cancel | retry => exact wp_answer_of_never fun _ => id
  | schedule r => cases r <;> exact wp_answer_of_never fun _ => id

end

end

def Closed (caller : Caller) (s : APIScope) (req : Request) : Prop :=
  req.permission ∉ caller.permissions ∨ Safe s req

section

variable {cfg : Config}

lemma serve_of_permission (hadmin : caller.isAdmin = false)
    (hperm : req.permission ∈ caller.permissions) (env : Env) :
    serve cfg env caller req = handler cfg env req caller := by
  unfold serve ApiAuth.require
  rw [if_neg (by simp [hadmin]), if_pos hperm]

lemma failsClosed_of_closed (hadmin : caller.isAdmin = false) (hscope : caller.scope = some s)
    (hclosed : Closed caller s req) : FailsClosed cfg caller s req := by
  intro env faults db d hout htouch
  by_cases hperm : req.permission ∈ caller.permissions
  · have hsafe := hclosed.resolve_left (not_not.mpr hperm)
    rcases htouch with ⟨n, body, he, hshows⟩ | hdiff
    · have hhides := wp_run (hides_handler env hadmin hscope hout cfg hsafe) faults
      rw [serve_of_permission hadmin hperm] at he
      rw [he] at hhides
      exact hhides hshows
    · exact hdiff (sameFor_after (c := ⟨caller, req, env, faults⟩) hadmin hscope hsafe hout)
  · rw [run_serve_denied cfg hadmin hperm] at htouch
    rcases htouch with ⟨n, body, he, -⟩ | hdiff
    · cases he
    · exact hdiff (.refl d db)

end

end Moebius.Api
