import Moebius.Backend
import Moebius.Reach

/-!
Whether references stay within a tenant.

The foreign keys of the schema do not carry the tenant, so nothing but the code that inserts a row
can keep a membership or a job from naming a device of another tenant. Enrollment does; the
endpoints that add devices to groups and sites, tags to devices and jobs to devices, and the
scheduler, take the identifiers they are given.
-/

namespace Moebius.Backend

open Proc Api

/-! ### References -/

variable (db : Db) (o : Db.Owner)

/-- The group, tag or site is there and of the tenant. -/
def HasOwner (tenantID id : String) : Prop :=
  ((o.rows db).get? id).map (·.tenantID) = some tenantID

/-- The membership links a device to a group, tag or site of its own tenant. -/
def OneTenant (m : Membership) : Prop :=
  ∃ t, HasDevice db t m.deviceID ∧ HasOwner db o t m.ownerID

/-- No reference crosses tenants. -/
structure References (db : Db) : Prop where
  members : ∀ o, ∀ m ∈ (Db.Owner.members o db).rows, OneTenant db o m
  jobs : ∀ j ∈ db.jobs.rows, HasDevice db j.tenantID j.deviceID

/-- What the references rest on stays, and new references are within a tenant. -/
structure Sound (a b : Db) : Prop where
  devices : ∀ t d, HasDevice a t d → HasDevice b t d
  members : ∀ o, ∀ m ∈ (Db.Owner.members o b).rows,
    (m ∈ (o.members a).rows ∧ ∀ t, HasOwner a o t m.ownerID → HasOwner b o t m.ownerID) ∨
      OneTenant b o m
  jobs : ∀ j ∈ b.jobs.rows,
    (∃ j' ∈ a.jobs.rows, j'.tenantID = j.tenantID ∧ j'.deviceID = j.deviceID) ∨
      HasDevice b j.tenantID j.deviceID

section

variable {a b c : Db}

lemma References.step (h : References a) (hs : Sound a b) : References b where
  members o m hm := by
    rcases hs.members o m hm with ⟨hold, howner⟩ | hone
    · obtain ⟨t, hd, ho⟩ := h.members o m hold
      exact ⟨t, hs.devices t _ hd, howner t ho⟩
    · exact hone
  jobs j hj := by
    rcases hs.jobs j hj with ⟨j', hj', ht, hd⟩ | hdevice
    · rw [← ht, ← hd]
      exact hs.devices _ _ (h.jobs j' hj')
    · exact hdevice

lemma Sound.trans (h : Sound a b) (h' : Sound b c) : Sound a c where
  devices t d hd := h'.devices t d (h.devices t d hd)
  members o m hm := by
    rcases h'.members o m hm with ⟨hb, howner'⟩ | hone
    · rcases h.members o m hb with ⟨ha, howner⟩ | ⟨t, hd, ho⟩
      · exact .inl ⟨ha, fun t ht => howner' t (howner t ht)⟩
      · exact .inr ⟨t, h'.devices t _ hd, howner' t ho⟩
    · exact .inr hone
  jobs j hj := by
    rcases h'.jobs j hj with ⟨j', hj', ht', hd'⟩ | hdevice
    · rcases h.jobs j' hj' with ⟨j'', hj'', ht'', hd''⟩ | hdevice
      · exact .inl ⟨j'', hj'', ht''.trans ht', hd''.trans hd'⟩
      · rw [ht', hd'] at hdevice
        exact .inr (h'.devices _ _ hdevice)
    · exact .inr hdevice

lemma members_of_same (howners : ∀ o, Db.Owner.rows o b = o.rows a)
    (hmembers : ∀ o, Db.Owner.members o b = o.members a) {o : Db.Owner} {m : Membership}
    (hm : m ∈ (o.members b).rows) :
    m ∈ (o.members a).rows ∧ ∀ t, HasOwner a o t m.ownerID → HasOwner b o t m.ownerID := by
  refine ⟨hmembers o ▸ hm, fun t ht => ?_⟩
  rw [HasOwner, howners o]
  exact ht

lemma sound_of_same (hdevices : ∀ t d, HasDevice a t d → HasDevice b t d)
    (howners : ∀ o, Db.Owner.rows o b = o.rows a)
    (hmembers : ∀ o, Db.Owner.members o b = o.members a) (hjobs : JobsFrom a b) : Sound a b where
  devices := hdevices
  members _ _ hm := .inl (members_of_same howners hmembers hm)
  jobs j hj := .inl (hjobs j hj)

lemma sound_of_places (h : SamePlaces a b) (hjobs : JobsFrom a b) : Sound a b := by
  refine sound_of_same (fun t d hd => ?_) h.owners h.members hjobs
  rw [HasDevice, h.devices]
  exact hd

lemma sound_of_estate (h : SameEstate a b) : Sound a b := by
  refine sound_of_places h.places fun j hj => ?_
  rw [h.jobs] at hj
  exact ⟨j, hj, rfl, rfl⟩

lemma sound_of_grouping (h : SameGrouping a b) (hjobs : JobsFrom a b) : Sound a b := by
  refine sound_of_same (fun t d hd => ?_) h.owners h.members hjobs
  rw [HasDevice, h.tenants]
  exact hd

end

lemma hasOwner_of_ownerExists {db : Db} {o : Db.Owner} {id tenantID : String}
    (h : db.ownerExists o id tenantID = true) : HasOwner db o tenantID id := by
  obtain ⟨r, hr, hp⟩ := List.any_eq_true.mp h
  obtain ⟨hid, ht⟩ := of_decide_eq_true hp
  have hget : (o.rows db).get? id = some r := by
    rw [← hid]
    exact Table.get?_of_mem hr
  rw [HasOwner, hget, Option.map_some, ht]

lemma sound_enroll {C : Crypto} {env : Env} {body : Option Enroll.EnrollRequest} {db db' : Db}
    {r : Reply Enroll.EnrollResponse} (h : Enroll.Outcome C env body db r db') : Sound db db' := by
  cases h with
  | refused hsame => exact sound_of_estate (.of_sameFleet hsame)
  | @enrolled req row token x db₀ db₁ db₂ db₃ _ hbody hconsume hdecode hsign hdevice hscope hcert
      hafter =>
    have hsame := Enroll.sameFleet_consumeToken hconsume
    have hfresh := Enroll.fresh_device hsame hdevice
    have hget := Enroll.get?_device hsame hdevice hscope hcert hafter
    obtain ⟨t, -, rfl⟩ := Db.insertDevice_eq_some hdevice
    obtain ⟨⟨t', -, rfl⟩, -⟩ := Db.insertCert_eq_some hcert
    have hestate := SameEstate.of_sameFleet hsame
    have hestate' := SameEstate.of_sameFleet hafter
    have howners : ∀ o, Db.Owner.rows o db' = o.rows db := by
      intro o
      rw [hestate'.places.owners o, ← hestate.places.owners o, hscope.rest]
      cases o <;> rfl
    refine ⟨fun t₀ d hd => ?_, fun o m hm => ?_, fun j hj => .inl ⟨j, ?_, rfl, rfl⟩⟩
    · -- the new device is none of those that were there
      have hne : env.newDeviceID 0 ≠ d := by
        rintro rfl
        rw [HasDevice, hfresh] at hd
        cases hd
      rw [HasDevice, hget d, if_neg hne]
      exact hd
    · have hm₂ : m ∈ (o.members db₂).rows := by
        rw [hestate'.places.members o] at hm
        cases o <;> exact hm
      rcases (hscope.members o m).mp hm₂ with hold | ⟨hd, hid⟩
      · refine .inl ⟨?_, fun t₀ ht => ?_⟩
        · rw [← hestate.places.members o]
          cases o <;> exact hold
        · rw [HasOwner, howners o]
          exact ht
      · refine .inr ⟨token.tenantID, ?_, ?_⟩
        · rw [HasDevice, hd, hget, if_pos rfl]
          rfl
        · have hexists := hasOwner_of_ownerExists (hscope.owned o _ hid)
          rw [HasOwner, howners o, ← hestate.places.owners o]
          cases o <;> exact hexists
    · rw [hestate'.jobs] at hj
      rw [← hestate.jobs]
      have hjobs : db₂.jobs = db₀.jobs := by rw [hscope.rest]
      exact hjobs ▸ hj

/-! ### Requests -/

/-- The device and the group, tag or site are of one tenant, if both are there. -/
def Matched (db : Db) (o : Db.Owner) (id d : String) : Prop :=
  ∀ t t', HasOwner db o t id → HasDevice db t' d → t' = t

def Listed (db : Db) (tenantID : String) (target : JobTarget) : Prop :=
  ∀ d ∈ target.deviceIDs, ∀ t, HasDevice db t d → t = tenantID

/-- What the handlers leave unchecked. -/
def ProperRequest (db : Db) (caller : Caller) : Api.Request → Prop
  | .group (.addDevices id (some ids)) => ∀ d ∈ ids, Matched db .group id d
  | .site (.addDevices id (some ids)) => ∀ d ∈ ids, Matched db .site id d
  | .tag (.addToDevice d (some tags)) => ∀ t ∈ tags, Matched db .tag t d
  | .job (.create (some req)) => Listed db caller.tenantID req.target
  | _ => True

def Links : Api.Request → Prop
  | .group (.addDevices _ _) | .site (.addDevices _ _) | .tag (.addToDevice _ _) => True
  | _ => False

section

variable {caller : Caller} {db a b : Db} {req : Api.Request} {e : Effect}

variable {o : Db.Owner} {d id : String}

lemma matched_of_issues (hproper : ProperRequest db caller req)
    (h : Issues caller db a req (.addLink o d id)) : Links req ∧ Matched db o id d := by
  cases h with
  | group h =>
    cases h with
    | addDevice hfield hd => exact ⟨trivial, hproper d hd⟩
  | site h =>
    cases h with
    | addDevice hfield hd => exact ⟨trivial, hproper d hd⟩
  | tag h =>
    cases h with
    | addToDevice hpass ht => exact ⟨trivial, hproper id ht⟩
  | device h => cases h
  | job h => cases h
  | schedule h => cases h

lemma owners_of_links (hlinks : Links req) (h : Issues caller db a req e)
    (happly : e.apply a = some b) : o.rows b = o.rows a := by
  have hlink : ∀ {o' d id}, a.addLink o' d id = some b → o.rows b = o.rows a := by
    intro o' d id hadd
    rcases addLink_eq_some hadd with rfl | ⟨t, -, rfl, -⟩
    · rfl
    · simp
  cases h with
  | audit row => exact (SameEstate.of_sameFleet (.insertAudit happly)).places.owners o
  | group h =>
    cases h with
    | addDevice hfield hd => exact hlink happly
    | create | update | delete | removeDevice => exact hlinks.elim
  | site h =>
    cases h with
    | addDevice hfield hd => exact hlink happly
    | create | update | delete | removeDevice => exact hlinks.elim
  | tag h =>
    cases h with
    | addToDevice hpass ht => exact hlink happly
    | create | delete | removeFromDevice => exact hlinks.elim
  | device h => exact hlinks.elim
  | job h => exact hlinks.elim
  | schedule h => exact hlinks.elim

lemma hasDevice_of_inScope {tenantID : String} {target : JobTarget}
    (hlisted : Listed db tenantID target) (hd : db.InScope tenantID target.selection d)
    (hsome : (db.devices.get? d).isSome) : HasDevice db tenantID d := by
  rcases hd with hmem | ⟨o, id, hid, -, row, hrow, ht⟩
  · obtain ⟨row, hrow⟩ := Option.isSome_iff_exists.mp hsome
    have hdevice : HasDevice db row.tenantID d := by
      rw [HasDevice, hrow]
      rfl
    rw [← hlisted d hmem _ hdevice]
    exact hdevice
  · rw [HasDevice, hrow, Option.map_some, ht]

lemma job_of_issues {row : JobRow} (hproper : ProperRequest db caller req)
    (h : Issues caller db a req (.insertJob row)) (hsome : (db.devices.get? row.deviceID).isSome) :
    (∃ j ∈ db.jobs.rows, j.tenantID = row.tenantID ∧ j.deviceID = row.deviceID) ∨
      HasDevice db row.tenantID row.deviceID := by
  cases h with
  | group h => cases h
  | site h => cases h
  | tag h => cases h
  | device h =>
    cases h with
    | rollback hdevice htenant hd ht hp =>
      refine .inr ?_
      rw [HasDevice, hd, hdevice, Option.map_some, htenant, ht]
  | job h =>
    cases h with
    | create ht hp htarget hscope =>
      rw [ht]
      exact .inr (hasDevice_of_inScope hproper htarget hsome)
    | retry hj htenant hpass ht hd hp =>
      exact .inl ⟨_, Table.mem_of_get? hj, htenant.trans ht.symm, hd.symm⟩
  | schedule h => cases h

/-- What holds while the request is served. -/
structure During (db : Db) (req : Api.Request) (a : Db) : Prop where
  sound : Sound db a
  devices : ∀ id, (a.devices.get? id).map (·.tenantID) = (db.devices.get? id).map (·.tenantID)
  owners : Links req → ∀ o : Db.Owner, o.rows a = o.rows db

lemma During.hasDevice_iff (h : During db req a) {t : String} :
    HasDevice a t d ↔ HasDevice db t d := by
  rw [HasDevice, HasDevice, h.devices]

lemma exists_hasDevice (h : (db.devices.get? d).isSome) : ∃ t, HasDevice db t d := by
  obtain ⟨row, hrow⟩ := Option.isSome_iff_exists.mp h
  exact ⟨row.tenantID, by rw [HasDevice, hrow]; rfl⟩

lemma exists_hasOwner (h : ((o.rows db).get? id).isSome) : ∃ t, HasOwner db o t id := by
  obtain ⟨row, hrow⟩ := Option.isSome_iff_exists.mp h
  exact ⟨row.tenantID, by rw [HasOwner, hrow]; rfl⟩

lemma During.oneTenant (h : During db req a) (hproper : ProperRequest db caller req)
    {m : Membership} (hissue : Issues caller db a req (.addLink o m.deviceID m.ownerID))
    (hdevice : (a.devices.get? m.deviceID).isSome) (howner : ((o.rows a).get? m.ownerID).isSome) :
    OneTenant a o m := by
  obtain ⟨hlinks, hmatched⟩ := matched_of_issues hproper hissue
  obtain ⟨t', hd⟩ := exists_hasDevice hdevice
  obtain ⟨t, ho⟩ := exists_hasOwner howner
  have hodb : HasOwner db o t m.ownerID := by
    rw [HasOwner, ← h.owners hlinks o]
    exact ho
  obtain rfl := hmatched t t' hodb (h.hasDevice_iff.mp hd)
  exact ⟨t', hd, ho⟩

lemma During.step (h : During db req a) (hproper : ProperRequest db caller req)
    (hissue : Issues caller db a req e) (happly : e.apply a = some b) : During db req b := by
  have hdelta := Effect.delta happly
  have hdevices : ∀ {t d}, HasDevice a t d → HasDevice b t d := by
    intro t d hd
    rw [HasDevice, hdelta.devices]
    exact hd
  have howners : ∀ {o : Db.Owner} {m t}, m ∈ (o.members b).rows → HasOwner a o t m.ownerID →
      HasOwner b o t m.ownerID := by
    intro o m t hm ht
    obtain ⟨r, hr, hrt⟩ := Option.map_eq_some_iff.mp ht
    rcases hdelta.owners o _ r hr with ⟨r', hr', ht'⟩ | hgone
    · rw [HasOwner, hr', Option.map_some, ht', hrt]
    · exact absurd rfl (hgone m hm)
  refine ⟨⟨fun t d hd => hdevices (h.sound.devices t d hd), fun o m hm => ?_, fun j hj => ?_⟩,
    fun id => (hdelta.devices id).trans (h.devices id),
    fun hl o => (owners_of_links hl hissue happly).trans (h.owners hl o)⟩
  · have hcarry : OneTenant a o m → OneTenant b o m :=
      fun hone => hone.imp fun t ht => ⟨hdevices ht.1, howners hm ht.2⟩
    have hold : m ∈ (o.members a).rows → (m ∈ (o.members db).rows ∧
        ∀ t, HasOwner db o t m.ownerID → HasOwner b o t m.ownerID) ∨ OneTenant b o m := by
      intro ha
      rcases h.sound.members o m ha with ⟨hdb, hkept⟩ | hone
      · exact .inl ⟨hdb, fun t ht => howners hm (hkept t ht)⟩
      · exact .inr (hcarry hone)
    rcases hdelta.members o m hm with ha | rfl
    · exact hold ha
    · rcases addLink_eq_some happly with rfl | ⟨-, -, -, hdevice, howner⟩
      · exact hold hm
      · exact .inr (hcarry (h.oneTenant hproper hissue hdevice howner))
  · rcases hdelta.jobs j hj with ⟨j', hj', hsame⟩ | rfl
    · rcases h.sound.jobs j' hj' with ⟨j'', hj'', ht, hd⟩ | hdevice
      · exact .inl ⟨j'', hj'', ht.trans hsame.tenantID.symm, hd.trans hsame.deviceID.symm⟩
      · rw [← hsame.tenantID, ← hsame.deviceID] at hdevice
        exact .inr (hdevices hdevice)
    · obtain ⟨t, ht⟩ := exists_hasDevice (Db.device_of_insertJob happly)
      have hsome : (db.devices.get? j.deviceID).isSome := by
        obtain ⟨row, hrow, -⟩ := Option.map_eq_some_iff.mp (h.hasDevice_iff.mp ht)
        rw [hrow]
        rfl
      rcases job_of_issues hproper hissue hsome with hold | hdevice
      · exact .inl hold
      · exact .inr (hdevices (h.hasDevice_iff.mpr hdevice))

lemma sound_request {cfg : Api.Config} {env : Env} {faults : List Bool}
    (hproper : ProperRequest db caller req) :
    Sound db ((serve cfg env caller req).run faults db).2 := by
  have hrefl : Sound db db := sound_of_estate (.refl db)
  have hduring : During db req (Api.Call.after cfg db ⟨caller, req, env, faults⟩) :=
    Api.after_invariant (fun a b e hissue happly h => h.step hproper hissue happly)
      ⟨hrefl, fun _ => rfl, fun _ _ => rfl⟩
  exact hduring.sound

end

lemma sound_tickStep {cron : Cron} {env : Env} {db a b : Db}
    (hlisted : ∀ sj ∈ Scheduler.listDue env db, ∀ target, sj.target = some target →
      Listed db sj.tenantID target) (hplaces : SamePlaces db a)
    (h : Scheduler.TickStep cron env db a b) : Sound a b := by
  have hsame := h.places
  cases h with
  | same => exact sound_of_estate (.refl a)
  | @fire sj target d k i _ hdue htarget hd h =>
    have hsome := Db.device_of_insertJob h
    rw [hplaces.devices] at hsome
    have hdevice := hasDevice_of_inScope (hlisted sj hdue target htarget) hd hsome
    obtain ⟨⟨jobs, hjobs, rfl⟩, -⟩ := Db.insertJob_eq_some h
    refine ⟨fun _ _ h => h,
      fun o m hm => .inl (members_of_same hsame.owners hsame.members hm), fun j hj => ?_⟩
    have hj : j ∈ jobs.rows := hj
    rcases (Table.mem_insert hjobs).mp hj with hold | rfl
    · exact .inl ⟨j, hold, rfl, rfl⟩
    · refine .inr ?_
      rw [HasDevice, hsame.devices, hplaces.devices]
      exact hdevice
  | mark | reapTokens => exact sound_of_places hsame fun j hj => ⟨j, hj, rfl, rfl⟩
  | reap u =>
    refine sound_of_places hsame fun j hj => ?_
    obtain ⟨j', hj', hjob⟩ := jobs_updateJobs hj
    exact ⟨j', hj', hjob.tenantID.symm, hjob.deviceID.symm⟩

lemma sound_tick {cron : Cron} {cfg : Scheduler.Config} {env : Env} {faults : List Bool} {db : Db}
    (hlisted : ∀ sj ∈ Scheduler.listDue env db, ∀ target, sj.target = some target →
      Listed db sj.tenantID target) :
    Sound db ((Scheduler.runTick cron cfg env).run faults db).2 := by
  have hinv : SamePlaces db ((Scheduler.runTick cron cfg env).run faults db).2 ∧
      Sound db ((Scheduler.runTick cron cfg env).run faults db).2 := by
    refine wp_invariant (I := fun a => SamePlaces db a ∧ Sound db a) (fun a b hstep ha => ?_)
      (Scheduler.wp_runTick cron cfg env db) ⟨.refl db, sound_of_estate (.refl db)⟩ faults
    exact ⟨ha.1.trans hstep.places, ha.2.trans (sound_tickStep hlisted ha.1 hstep)⟩
  exact hinv.2

/-- What the server leaves unchecked: a request adds links only between devices and groups, tags or
sites of one tenant, and a job, or a schedule that fires, lists only devices of its own tenant. -/
def Proper (db : Db) (e : Event) : Prop :=
  match e.action with
  | .request caller req => ProperRequest db caller req
  | .tick => ∀ sj ∈ db.scheduledJobs.rows, Scheduler.due e.env.now sj = true →
      ∀ target, sj.target = some target → Listed db sj.tenantID target
  | _ => True

lemma sound_after {cfg : Config} {e : Event} {db : Db} (h : Proper db e) :
    Sound db (e.after cfg db) := by
  obtain ⟨action, env, faults⟩ := e
  cases action with
  | request caller req => exact sound_request h
  | enroll body =>
    exact sound_enroll (wp_run (Enroll.wp_serveHTTP cfg.crypto env cfg.api.quota body db) faults)
  | agent cert req =>
    obtain ⟨hgrouping, hjobs⟩ := agent_after ⟨cfg.api.quota, cfg.scheduler⟩ env cert req faults db
    exact sound_of_grouping hgrouping hjobs
  | tick =>
    refine sound_tick fun sj hsj => ?_
    obtain ⟨hmem, hdue⟩ := Scheduler.mem_listDue.mp hsj
    exact h sj hmem hdue
  | account | createToken | deleteToken | renew | outside =>
    exact sound_of_estate (sameEstate_after trivial)

/-- **References stay within a tenant**, in every run from the empty database whose requests and
ticks are all proper. -/
theorem references_stay (cfg : Config) (events : List Event)
    (hproper : Along (Event.after cfg) Proper events {}) : References (run cfg {} events) := by
  have hempty : References {} := by
    refine ⟨fun o m hm => ?_, fun j hj => by cases hj⟩
    cases o <;> cases hm
  exact hproper.invariant (fun _ _ h href => href.step (sound_after h)) hempty

namespace Sample

def cfg : Config where
  api := Api.Sample.cfg
  accounts := { hashAPIKey := id, quota := none }
  crypto := Moebius.Sample.crypto
  scheduler := ⟨60, 300, 3600⟩

def admin (tenantID : String) : Caller :=
  { tenantID, userID := tenantID ++ "-admin", isAdmin := true, scope := none }

def tenantOf (tenantID : String) : TenantRow := { id := tenantID }

def adminOf (tenantID : String) : UserRow := { id := tenantID ++ "-admin", tenantID }

def setUp : Outside where
  apply db :=
    { db with
      tenants := ⟨[tenantOf "a", tenantOf "b"], by decide⟩
      users := ⟨[adminOf "a", adminOf "b"], by decide⟩ }
  same _ := .of_eq rfl

def env (salt : String) : Env :=
  { Api.Sample.env with
    rand := fun _ _ => salt, rawToken := some "raw", serial := some 5 }

def event (action : Action) : Event := { action, env := env "x" }

def fleet : List Event :=
  [event (.outside setUp), event (.createToken (admin "b") (some {})),
    event (.enroll (some { enrollmentToken := "raw", csr := "key", hostname := "host" })),
    event (.request (admin "a") (.group (.create (some { name := "group" }))))]

def addToGroup (tenantID groupID : String) : Event :=
  event (.request (admin tenantID) (.group (.addDevices groupID (some ["dev_x"]))))

/-- The second tenant has its own group for the device, and a job. -/
def proper : List Event :=
  fleet ++ [{ action := .request (admin "b") (.group (.create (some { name := "group" })))
              env := env "y" },
    addToGroup "b" "grp_y",
    event (.request (admin "b") (.job (.create (some
      { type := "exec", target := { deviceIDs := ["dev_x"] }, payload := "run"
        retryPolicy := none }))))]

end Sample

theorem references_stay_sample :
    let db := run Sample.cfg {} Sample.proper
    db.deviceGroups.rows = [⟨"dev_x", "grp_y"⟩] ∧ db.jobs.rows.map (·.deviceID) = ["dev_x"] ∧
      References db := by
  refine ⟨rfl, by decide, references_stay Sample.cfg Sample.proper
    ⟨trivial, trivial, trivial, trivial, trivial, ?_, ?_, trivial⟩⟩
  · intro d hd t t' ho hd'
    cases List.mem_singleton.mp hd
    have ho : some "b" = some t := ho
    have hd' : some "b" = some t' := hd'
    exact Option.some.inj (hd'.symm.trans ho)
  · intro d hd t hd'
    cases List.mem_singleton.mp hd
    have hd' : some "b" = some t := hd'
    exact (Option.some.inj hd').symm

/-- The first tenant adds the device of the second to its group. -/
theorem addDevices_crosses_tenants :
    ¬ References (run Sample.cfg {} (Sample.fleet ++ [Sample.addToGroup "a" "grp_x"])) := by
  intro h
  have hm : (⟨"dev_x", "grp_x"⟩ : Membership) ∈ (Db.Owner.members .group
      (run Sample.cfg {} (Sample.fleet ++ [Sample.addToGroup "a" "grp_x"]))).rows := by decide
  obtain ⟨t, hd, ho⟩ := h.members .group _ hm
  have hd : some "b" = some t := hd
  have ho : some "a" = some t := ho
  rw [← ho] at hd
  exact absurd hd (by decide)

end Moebius.Backend
