import Moebius.References

/-!
Whether jobs stay inside the scope of the key that caused them.

Jobs that are created on request are checked against the scope of the key; retries are checked too,
unless a query of the check fails; rollbacks are not. The scheduler no longer knows who created a
schedule or edited it, and nobody has compared the target with the key's scope by then, except for
an overlap when it was created. A ledger beside the database keeps what the scheduler does not.
-/

namespace Moebius.Backend

open Proc Api ScheduledJobs Table Scheduler Enrollment SameEstate Option List Db Enroll Event

/-- Field by field, the target lists nothing the scope does not list. -/
structure Covers (s : APIScope) (t : JobTarget) : Prop where
  devices : t.deviceIDs ⊆ s.deviceIDs
  owners : ∀ o : Owner, o.idsOf t.selection ⊆ o.idsOf s

lemma Covers.inScope {s : APIScope} {t : JobTarget} (h : Covers s t) {db : Db}
    {tenantID d : String} (hd : db.InScope tenantID t.selection d) : db.InScope tenantID s d := by
  rcases hd with hlisted | ⟨o, id, hid, hlinked⟩
  · exact .inl (h.devices hlisted)
  · exact .inr ⟨o, id, h.owners o hid, hlinked⟩

def Allowed (caller : Caller) (t : JobTarget) : Prop :=
  ∀ s, keyScope caller = some s → Covers s t

def Reaches (db : Db) (caller : Caller) (d : String) : Prop :=
  ∀ s, keyScope caller = some s → db.InScope caller.tenantID s d

lemma keyScope_eq_some {caller : Caller} {s : APIScope} (h : keyScope caller = some s) :
    caller.isAdmin = false ∧ caller.scope = some s := by
  unfold keyScope at h
  split at h
  · cases h
  · rename_i hadmin
    exact ⟨by simpa using hadmin, h⟩

/-- The database, and who has created or edited the schedules. -/
structure Ledger where
  db : Db
  editors : String → List Caller := fun _ => []

open Classical in
/-- A schedule that is new is the caller's alone; one whose row has changed is also the caller's. -/
noncomputable def Ledger.attribute (s : Ledger) (after : Db) : Action → String → List Caller
  | .request caller (.schedule (.create _)), id =>
    if s.db.scheduledJobs.get? id = none ∧ after.scheduledJobs.get? id ≠ none then [caller]
    else s.editors id
  | .request caller (.schedule (.update _ _)), id =>
    if after.scheduledJobs.get? id ≠ s.db.scheduledJobs.get? id then caller :: s.editors id
    else s.editors id
  | _, id => s.editors id

noncomputable def Ledger.after (cfg : Config) (s : Ledger) (e : Event) : Ledger :=
  ⟨e.after cfg s.db, s.attribute (e.after cfg s.db) e.action⟩

def New (a b : Db) (row : JobRow) : Prop := row ∈ b.jobs.rows ∧ a.job? row.id = none

lemma not_new_self {db : Db} {row : JobRow} : ¬ New db db row := fun h =>
  absurd h.2 (get?_ne_none_of_mem h.1)

/-- Every job the event inserts on behalf of a scoped key is for a device in the scope of the key,
as it resolves then: neither a request that creates jobs nor a tick changes devices or
memberships. -/
def JobsInScope (cfg : Config) (s : Ledger) (e : Event) : Prop :=
  match e.action with
  | .request caller _ => ∀ row, New s.db (e.after cfg s.db) row → Reaches s.db caller row.deviceID
  | .tick => ∀ row, New s.db (e.after cfg s.db) row → ∀ id,
      row.createdBy = some ("scheduler:" ++ id) → ∀ caller ∈ s.editors id,
        Reaches s.db caller row.deviceID
  | _ => True

def Permitted (caller : Caller) (req : Api.Request) : Prop :=
  caller.isAdmin = true ∨ req.permission ∈ caller.permissions

def CarefulRequest (s : Ledger) (caller : Caller) (faults : List Bool) : Api.Request → Prop
  | .device (.rollback deviceID _) => Reaches s.db caller deviceID
  | .job (.retry jobID) =>
    true ∉ faults ∨ ∀ j, s.db.job? jobID = some j → Reaches s.db caller j.deviceID
  | .schedule (.create (some req)) => Allowed caller req.target
  | .schedule (.update id (some req)) =>
    (∀ t, req.target = some t → ∀ k ∈ s.editors id, Allowed k t) ∧
      ∀ sj, s.db.scheduledJobs.get? id = some sj → sj.tenantID = caller.tenantID →
        ∀ t, req.target.or sj.target = some t → Allowed caller t
  | _ => True

/-- A scoped key rolls back devices in its scope only; no query fails while it retries a job of
another device; and a schedule gets no target, and no new editor, such that the target lists what
the scope of one of its editors does not list. -/
def Careful (s : Ledger) (e : Event) : Prop :=
  match e.action with
  | .request caller req => Permitted caller req → CarefulRequest s caller e.faults req
  | _ => True

/-! ### Schedules -/

/-- What the schedule and the one it comes from have in common. -/
structure SameTarget (a b : ScheduledJob) : Prop where
  id : a.id = b.id
  tenantID : a.tenantID = b.tenantID
  target : a.target = b.target

/-- Where a schedule comes from: it was there, it was enabled or disabled, edited or created. -/
inductive Origin (caller : Caller) (req : Api.Request) (db : Db) (sj' : ScheduledJob) : Prop
  | kept (hsj : sj' ∈ db.scheduledJobs.rows)
  | toggled {sj : ScheduledJob} (hreq : ∀ id r, req ≠ .schedule (.update id r))
      (hsj : sj ∈ db.scheduledJobs.rows) (hsame : SameTarget sj sj')
  | edited {sj : ScheduledJob} {r : UpdateRequest}
      (hreq : req = .schedule (.update sj.id (some r))) (hsj : sj ∈ db.scheduledJobs.rows)
      (hid : sj.id = sj'.id) (ht : sj.tenantID = caller.tenantID)
      (ht' : sj.tenantID = sj'.tenantID) (htarget : sj'.target = r.target.or sj.target)
  | created {r : CreateRequest} (hreq : req = .schedule (.create (some r)))
      (hfresh : db.scheduledJobs.get? sj'.id = none) (ht : sj'.tenantID = caller.tenantID)
      (htarget : sj'.target = some r.target)

variable {req : Api.Request}

section

variable {caller : Caller} {db a b : Db} {e : Effect} {sj' sj : ScheduledJob}

lemma schedules_of_effect (h : e.apply a = some b) (hsj : sj' ∈ b.scheduledJobs.rows) :
    sj' ∈ a.scheduledJobs.rows ∨ (∃ tenantID id enabled, e = .setEnabled tenantID id enabled ∧
        ∃ sj ∈ a.scheduledJobs.rows, SameTarget sj sj') ∨
      (∃ tenantID id u, e = .updateSchedule tenantID id u ∧ ∃ sj ∈ a.scheduledJobs.rows,
        ownSchedule tenantID id sj = true ∧ sj' = u.apply sj) ∨
      e = .insertSchedule sj' ∧ a.scheduledJobs.get? sj'.id = none := by
  cases e with
  | audit row =>
    rw [(of_sameFleet (.insertAudit h)).schedules] at hsj
    exact .inl hsj
  | insertOwner o row =>
    obtain ⟨-, t, -, rfl⟩ := eq_some_of_guard h
    cases o <;> exact .inl hsj
  | updateOwner o tenantID id body | deleteOwner o tenantID id | removeLink o deviceID ownerID =>
    cases h
    cases o <;> exact .inl hsj
  | addLink o deviceID ownerID =>
    rcases addLink_eq_some h with rfl | ⟨t, -, rfl, -⟩
    · exact .inl hsj
    · cases o <;> exact .inl hsj
  | renameDevice tenantID deviceID hostname | cancelJob now jobID =>
    cases h
    exact .inl hsj
  | revokeDevice now tenantID deviceID reason =>
    obtain ⟨-, rfl⟩ := revokeDevice_eq_some h
    exact .inl hsj
  | insertJob row =>
    obtain ⟨⟨jobs, -, rfl⟩, -⟩ := insertJob_eq_some h
    exact .inl hsj
  | insertSchedule row =>
    obtain ⟨-, t, ht, rfl⟩ := eq_some_of_guard h
    have hsj : sj' ∈ t.rows := hsj
    rcases (mem_insert ht).mp hsj with hold | rfl
    · exact .inl hold
    · exact .inr (.inr (.inr ⟨rfl, fresh_of_insert ht⟩))
  | updateSchedule tenantID id u =>
    cases h
    obtain ⟨sj, hmem, rfl⟩ := mem_map.mp hsj
    by_cases hown : ownSchedule tenantID id sj = true
    · rw [if_pos hown]
      exact .inr (.inr (.inl ⟨tenantID, id, u, rfl, sj, hmem, hown, rfl⟩))
    · rw [if_neg hown]
      exact .inl hmem
  | setEnabled tenantID id enabled =>
    cases h
    obtain ⟨sj, hmem, rfl⟩ := mem_map.mp hsj
    by_cases hown : ownSchedule tenantID id sj = true
    · rw [if_pos hown]
      exact .inr (.inl ⟨tenantID, id, enabled, rfl, sj, hmem, rfl, rfl, rfl⟩)
    · rw [if_neg hown]
      exact .inl hmem
  | deleteSchedule tenantID id =>
    cases h
    exact .inl (mem_filter.mp hsj).1

/-- Where the schedules come from while a request is served, and that `Create` deletes none. -/
structure Traced (caller : Caller) (req : Api.Request) (db a : Db) : Prop where
  origin : ∀ sj' ∈ a.scheduledJobs.rows, Origin caller req db sj'
  ids : (∃ body, req = .schedule (.create body)) →
    ∀ id, db.scheduledJobs.get? id ≠ none → a.scheduledJobs.get? id ≠ none

lemma Origin.toggle (h : Origin caller req db sj) (hreq : ∀ id r, req ≠ .schedule (.update id r))
    (hreq' : ∀ r, req ≠ .schedule (.create r)) (hsame : SameTarget sj sj') :
    Origin caller req db sj' := by
  cases h with
  | kept hsj => exact .toggled hreq hsj hsame
  | toggled _ hsj h =>
    exact .toggled hreq hsj
      ⟨h.id.trans hsame.id, h.tenantID.trans hsame.tenantID, h.target.trans hsame.target⟩
  | edited he => exact absurd he (hreq _ _)
  | created he => exact absurd he (hreq' _)

lemma Origin.edit {id : String} {r : UpdateRequest} {u : Updates}
    (h : Origin caller (.schedule (.update id (some r))) db sj)
    (hown : ownSchedule caller.tenantID id sj = true) (hu : u.target = r.target) :
    Origin caller (.schedule (.update id (some r))) db (u.apply sj) := by
  obtain ⟨rfl, ht⟩ := of_decide_eq_true hown
  cases h with
  | kept hsj => exact .edited rfl hsj rfl ht rfl (by rw [← hu]; rfl)
  | toggled hreq => exact absurd rfl (hreq _ _)
  | @edited sj₀ r₀ he hsj hid ht₀ ht' htarget =>
    injection he with he
    injection he with _ hr
    cases hr
    refine .edited (by rw [hid]) hsj hid ht₀ ht' ?_
    -- editing twice in the same way is editing once
    have hagain : (u.apply sj).target = u.target.or sj.target := rfl
    rw [hagain, htarget, hu]
    cases r.target <;> rfl
  | created he => cases he

lemma Traced.step (h : Traced caller req db a) (hissue : Issues caller db a req e)
    (happly : e.apply a = some b) : Traced caller req db b where
  origin sj' hsj := by
    rcases schedules_of_effect happly hsj with hold |
      ⟨tenantID, id, enabled, rfl, sj, hmem, hsame⟩ |
      ⟨tenantID, id, u, rfl, sj, hmem, hown, rfl⟩ | ⟨rfl, hfresh⟩
    · exact h.origin sj' hold
    · refine (h.origin sj hmem).toggle ?_ ?_ hsame
      · rintro id r rfl
        cases hissue with
        | schedule h => cases h
      · rintro r rfl
        cases hissue with
        | schedule h => cases h
    · cases hissue with
      | schedule hs =>
        cases hs with
        | update htarget => exact (h.origin sj hmem).edit hown htarget
      | group hs | site hs | tag hs | device hs | job hs => cases hs
    · cases hissue with
      | schedule hs =>
        cases hs with
        | create ht htarget =>
          refine .created rfl ?_ ht htarget
          by_contra hold
          exact h.ids ⟨_, rfl⟩ _ hold hfresh
      | group hs | site hs | tag hs | device hs | job hs => cases hs
  ids := by
    rintro ⟨body, rfl⟩ id hid
    have ha := h.ids ⟨body, rfl⟩ id hid
    cases hissue with
    | audit row =>
      rw [(of_sameFleet (.insertAudit happly)).schedules]
      exact ha
    | schedule hs =>
      cases hs with
      | @create r row ht htarget =>
        obtain ⟨-, t, hinsert, rfl⟩ := eq_some_of_guard happly
        change t.get? id ≠ none
        rw [get?_insert hinsert]
        split
        · exact some_ne_none row
        · exact ha

lemma traced_request {cfg : Api.Config} {env : Env} {faults : List Bool} :
    Traced caller req db ((serve cfg env caller req).run faults db).2 :=
  Api.after_invariant (c := ⟨caller, req, env, faults⟩)
    (fun _ _ _ hissue happly h => h.step hissue happly)
    ⟨fun _ hsj => .kept hsj, fun _ _ h => h⟩

end

/-! ### The ledger along a run -/

/-- Nobody has had a hand in a schedule whose target they could not have. -/
def Owned (s : Ledger) : Prop :=
  ∀ sj ∈ s.db.scheduledJobs.rows, ∀ k ∈ s.editors sj.id,
    k.tenantID = sj.tenantID ∧ ∀ t, sj.target = some t → Allowed k t

variable {faults : List Bool} {s : Ledger}

section

variable {db' db : Db} {id : String}

lemma Owned.of_sameTarget (h : Owned s)
    (hfrom : ∀ sj' ∈ db'.scheduledJobs.rows, ∃ sj ∈ s.db.scheduledJobs.rows, SameTarget sj sj') :
    Owned ⟨db', s.editors⟩ := by
  intro sj' hsj' k hk
  obtain ⟨sj, hsj, hsame⟩ := hfrom sj' hsj'
  have hk : k ∈ s.editors sj.id := by
    rw [hsame.id]
    exact hk
  rw [← hsame.tenantID, ← hsame.target]
  exact h sj hsj k hk

variable {cron : Cron}

lemma sameTarget_of_tickStep {env : Env} {a b : Db} (h : TickStep cron env db a b) :
    ∀ sj' ∈ b.scheduledJobs.rows, ∃ sj ∈ a.scheduledJobs.rows, SameTarget sj sj' := by
  intro sj' hsj'
  cases h with
  | same | reap | reapTokens => exact ⟨sj', hsj', rfl, rfl, rfl⟩
  | fire hdue htarget hd h =>
    obtain ⟨⟨jobs, -, rfl⟩, -⟩ := insertJob_eq_some h
    exact ⟨sj', hsj', rfl, rfl, rfl⟩
  | mark =>
    obtain ⟨sj, hsj, rfl⟩ := mem_map.mp hsj'
    refine ⟨sj, hsj, ?_⟩
    split
    · exact ⟨rfl, rfl, rfl⟩
    · exact ⟨rfl, rfl, rfl⟩

lemma sameTarget_tick {cfg : Scheduler.Config} {env : Env} :
    ∀ sj' ∈ ((runTick cron cfg env).run faults db).2.scheduledJobs.rows,
      ∃ sj ∈ db.scheduledJobs.rows, SameTarget sj sj' := by
  refine wp_invariant
    (I := fun a => ∀ sj' ∈ a.scheduledJobs.rows, ∃ sj ∈ db.scheduledJobs.rows, SameTarget sj sj')
    (fun a b hstep ha sj' hsj' => ?_) (wp_runTick cron cfg env db)
    (fun sj hsj => ⟨sj, hsj, rfl, rfl, rfl⟩) faults
  obtain ⟨sj, hsj, hsame⟩ := sameTarget_of_tickStep hstep sj' hsj'
  obtain ⟨sj₀, hsj₀, hsame₀⟩ := ha sj hsj
  exact ⟨sj₀, hsj₀, hsame₀.id.trans hsame.id, hsame₀.tenantID.trans hsame.tenantID,
    hsame₀.target.trans hsame.target⟩

lemma attribute_of_kept {after : Db} {action : Action} (hbefore : s.db.scheduledJobs.get? id ≠ none)
    (hsame : (∀ caller id' r, action ≠ .request caller (.schedule (.update id' r))) ∨
      after.scheduledJobs.get? id = s.db.scheduledJobs.get? id) :
    s.attribute after action id = s.editors id := by
  unfold Ledger.attribute
  split
  · exact if_neg fun hnew => hbefore hnew.1
  · rcases hsame with hne | heq
    · exact absurd rfl (hne _ _ _)
    · exact if_neg (not_not.mpr heq)
  · rfl

lemma mem_attribute_update {after : Db} {caller k : Caller} {id' : String}
    {body : Option UpdateRequest}
    (h : k ∈ s.attribute after (.request caller (.schedule (.update id' body))) id) :
    k = caller ∨ k ∈ s.editors id := by
  unfold Ledger.attribute at h
  dsimp only at h
  split at h
  · exact mem_cons.mp h
  · exact .inr h

lemma mem_attribute_create {after : Db} {caller k : Caller}
    {body : Option CreateRequest} (hbefore : s.db.scheduledJobs.get? id = none)
    (hafter : after.scheduledJobs.get? id ≠ none)
    (h : k ∈ s.attribute after (.request caller (.schedule (.create body))) id) : k = caller := by
  unfold Ledger.attribute at h
  dsimp only at h
  rw [if_pos ⟨hbefore, hafter⟩] at h
  exact mem_singleton.mp h

lemma Owned.request (h : Owned s) {caller : Caller} (hcareful : CarefulRequest s caller faults req)
    (htraced : Traced caller req s.db db') :
    Owned ⟨db', s.attribute db' (.request caller req)⟩ := by
  intro sj' hsj' k hk
  dsimp only at hsj' hk
  have hafter : db'.scheduledJobs.get? sj'.id = some sj' := get?_of_mem hsj'
  have hget : ∀ {sj}, sj ∈ s.db.scheduledJobs.rows →
      s.db.scheduledJobs.get? sj.id = some sj := get?_of_mem
  cases htraced.origin sj' hsj' with
  | kept hsj =>
    rw [attribute_of_kept (get?_ne_none_of_mem hsj) (.inr (hafter.trans (hget hsj).symm))] at hk
    exact h sj' hsj k hk
  | @toggled sj hreq hsj hsame =>
    rw [← hsame.id] at hk
    have hne : ∀ caller' id' r,
        Action.request caller req ≠ .request caller' (.schedule (.update id' r)) := by
      rintro caller' id' r he
      injection he with _ he
      exact hreq id' r he
    rw [attribute_of_kept (get?_ne_none_of_mem hsj) (.inl hne)] at hk
    rw [← hsame.tenantID, ← hsame.target]
    exact h sj hsj k hk
  | @edited sj r hreq hsj hid ht ht' htarget =>
    subst hreq
    rw [← hid] at hk
    obtain ⟨htheirs, hown⟩ := hcareful
    rcases mem_attribute_update hk with rfl | hold
    · refine ⟨ht.symm.trans ht', fun t hsome => ?_⟩
      rw [htarget] at hsome
      exact hown sj (hget hsj) ht t hsome
    · obtain ⟨htenant, hallowed⟩ := h sj hsj k hold
      refine ⟨htenant.trans ht', fun t hsome => ?_⟩
      rw [htarget] at hsome
      rcases hr : r.target with _ | t'
      · rw [hr] at hsome
        exact hallowed t hsome
      · rw [hr] at hsome
        cases hsome
        exact htheirs _ hr k hold
  | @created r hreq hfresh ht htarget =>
    subst hreq
    obtain rfl := mem_attribute_create hfresh (get?_ne_none_of_mem hsj') hk
    refine ⟨ht.symm, fun t hsome => ?_⟩
    cases htarget.symm.trans hsome
    exact hcareful

lemma schedules_enroll {C : Crypto} {env : Env} {body : Option EnrollRequest}
    {r : Reply EnrollResponse} (h : Outcome C env body db r db') :
    db'.scheduledJobs = db.scheduledJobs := by
  cases h with
  | refused hsame => exact (of_sameFleet hsame).schedules
  | @enrolled req row token x db₀ db₁ db₂ db₃ _ hbody hconsume hdecode hsign hdevice hscope hcert
      hafter =>
    have hsame := sameFleet_consumeToken hconsume
    obtain ⟨t, -, rfl⟩ := insertDevice_eq_some hdevice
    obtain ⟨⟨t', -, rfl⟩, -⟩ := insertCert_eq_some hcert
    rw [(of_sameFleet hafter).schedules, ← (of_sameFleet hsame).schedules]
    change db₂.scheduledJobs = _
    rw [hscope.rest]

lemma after_denied {cfg : Config} {caller : Caller} {env : Env} (h : ¬ Permitted caller req) :
    after cfg db ⟨.request caller req, env, faults⟩ = db := by
  obtain ⟨hadmin, hdenied⟩ := not_or.mp h
  have hrun := run_serve_denied cfg.api (by simpa using hadmin) hdenied env faults db
  exact congrArg Prod.snd hrun

lemma Owned.after (cfg : Config) (h : Owned s) {e : Event} (hcareful : Careful s e) :
    Owned (s.after cfg e) := by
  have hsame : ∀ {db' : Db}, db'.scheduledJobs = s.db.scheduledJobs → Owned ⟨db', s.editors⟩ := by
    intro db' hdb'
    refine h.of_sameTarget fun sj hsj => ⟨sj, ?_, rfl, rfl, rfl⟩
    rwa [hdb'] at hsj
  by_cases haside : e.action.Aside
  · have hestate : SameEstate s.db (e.after cfg s.db) := sameEstate_after haside
    obtain ⟨action, env, faults⟩ := e
    cases action with
    | account | createToken | deleteToken | renew | outside => exact hsame hestate.schedules
    | request | enroll | agent | tick => exact haside.elim
  obtain ⟨action, env, faults⟩ := e
  cases action with
  | request caller req =>
    by_cases hperm : Permitted caller req
    · exact h.request (hcareful hperm) traced_request
    · intro sj hsj k hk
      simp only [Ledger.after, after_denied hperm] at hsj hk
      rw [attribute_of_kept (get?_ne_none_of_mem hsj) (.inr rfl)] at hk
      exact h sj hsj k hk
  | enroll body =>
    exact hsame (schedules_enroll
      (wp_run (wp_serveHTTP cfg.crypto env cfg.api.quota body s.db) faults))
  | agent cert req =>
    exact hsame (agent_after ⟨cfg.api.quota, cfg.scheduler⟩ env cert req faults s.db).1.schedules
  | tick =>
    exact h.of_sameTarget sameTarget_tick
  | account | createToken | deleteToken | renew | outside => exact absurd trivial haside

end

section

variable {cfg : Config}

lemma after_retry {caller : Caller} {jobID : String} {env : Env} {db : Db} (hclean : true ∉ faults)
    {j : JobRow} (hj : db.job? jobID = some j) (hout : ¬ Reaches db caller j.deviceID) :
    after cfg db ⟨.request caller (.job (.retry jobID)), env, faults⟩ = db := by
  obtain ⟨sc, hscope, hnot⟩ : ∃ sc, keyScope caller = some sc ∧
      ¬ db.InScope caller.tenantID sc j.deviceID := by
    by_contra hall
    refine hout fun sc hsc => ?_
    by_contra hnot
    exact hall ⟨sc, hsc, hnot⟩
  obtain ⟨hadmin, hscope⟩ := keyScope_eq_some hscope
  have hcheck := run_nil_outOfScope env hadmin hscope hnot
  have hhandler : ((Api.handler cfg.api env (.job (.retry jobID)) caller).run [] db).2 = db := by
    rw [handler, jobHandler, run_answer, Jobs.retry]
    simp only [bind_eq, run_nil_bind, run_nil_read]
    rcases hfound : Jobs.tenantJob caller.tenantID jobID db with _ | j'
    · rfl
    · have hsame : j' = j := by
        obtain ⟨hget, -⟩ := filter_eq_some_iff.mp hfound
        exact some.inj (hget.symm.trans hj)
      subst hsame
      simp only [run_nil_bind, hcheck]
      rfl
  change ((serve cfg.api env caller (.job (.retry jobID))).run faults db).2 = db
  rw [run_of_clean hclean]
  unfold serve ApiAuth.require
  split
  · exact hhandler
  split
  · exact hhandler
  · rfl

lemma reaches_of_issues {caller : Caller} {a : Db} {row : JobRow}
    (hcareful : CarefulRequest s caller faults req)
    (hretry : ∀ jobID, req = .job (.retry jobID) → ∀ j, s.db.job? jobID = some j →
      Reaches s.db caller j.deviceID) (h : Issues caller s.db a req (.insertJob row)) :
    Reaches s.db caller row.deviceID := by
  cases h with
  | group h | site h | tag h => cases h
  | device h =>
    cases h with
    | rollback hdevice htenant hd ht hp => exact hd ▸ hcareful
  | job h =>
    cases h with
    | create ht hp htarget hscope =>
      intro sc hsc
      obtain ⟨hadmin, hsome⟩ := keyScope_eq_some hsc
      exact hscope sc hadmin hsome
    | retry hj htenant hpass ht hd hp =>
      rw [hd]
      exact hretry _ rfl _ hj
  | schedule h => cases h

lemma reaches_request {caller : Caller} {env : Env} (hcareful : CarefulRequest s caller faults req)
    {row : JobRow} (hnew : New s.db (after cfg s.db ⟨.request caller req, env, faults⟩) row) :
    Reaches s.db caller row.deviceID := by
  by_cases hskip : ∃ jobID j, req = .job (.retry jobID) ∧ true ∉ faults ∧
      s.db.job? jobID = some j ∧ ¬ Reaches s.db caller j.deviceID
  · obtain ⟨jobID, j, rfl, hclean, hj, hout⟩ := hskip
    rw [after_retry hclean hj hout] at hnew
    exact absurd hnew not_new_self
  have hretry : ∀ jobID, req = .job (.retry jobID) → ∀ j, s.db.job? jobID = some j →
      Reaches s.db caller j.deviceID := by
    rintro jobID rfl j hj
    rcases hcareful with hclean | hin
    · by_contra hout
      exact hskip ⟨jobID, j, rfl, hclean, hj, hout⟩
    · exact hin j hj
  have hinv : ∀ j ∈ (Api.Call.after cfg.api s.db ⟨caller, req, env, faults⟩).jobs.rows,
      s.db.job? j.id = none → Reaches s.db caller j.deviceID := by
    refine Api.after_invariant
      (I := fun a => ∀ j ∈ a.jobs.rows, s.db.job? j.id = none → Reaches s.db caller j.deviceID)
      (fun a b e hissue happly ha j hj hfresh => ?_) fun j hj hfresh => ?_
    · rcases (Effect.delta happly).jobs j hj with ⟨j', hj', hsame⟩ | rfl
      · rw [hsame.id] at hfresh
        rw [hsame.deviceID]
        exact ha j' hj' hfresh
      · exact reaches_of_issues hcareful hretry hissue
    · exact absurd ⟨hj, hfresh⟩ not_new_self
  exact hinv row hnew.1 hnew.2

lemma Owned.reaches_tick (h : Owned s) {env : Env} {row : JobRow}
    (hnew : New s.db (Event.after cfg s.db ⟨.tick, env, faults⟩) row) {id : String}
    (hby : row.createdBy = some ("scheduler:" ++ id)) {k : Caller} (hk : k ∈ s.editors id) :
    Reaches s.db k row.deviceID := by
  obtain ⟨sj, hdue, hby', ⟨target, htarget, hd⟩, -⟩ :=
    fired_of_new cfg.api.cron cfg.scheduler env faults s.db row hnew.1 hnew.2
  have hid : id = sj.id := by
    have heq := some.inj (hby.symm.trans hby')
    exact String.append_right_inj _ |>.mp heq
  rw [hid] at hk
  obtain ⟨htenant, hallowed⟩ := h sj (mem_listDue.mp hdue).1 k hk
  intro sc hsc
  rw [htenant]
  exact (hallowed target htarget sc hsc).inScope hd

lemma jobsInScope_of_careful (h : Owned s) {e : Event} (hcareful : Careful s e) :
    JobsInScope cfg s e := by
  obtain ⟨action, env, faults⟩ := e
  cases action with
  | request caller req =>
    intro row hnew
    by_cases hperm : Permitted caller req
    · exact reaches_request (hcareful hperm) hnew
    · rw [after_denied hperm] at hnew
      exact absurd hnew not_new_self
  | tick => exact fun row hnew id hby k hk => h.reaches_tick hnew hby hk
  | account | createToken | deleteToken | enroll | renew | agent | outside => trivial

end

/-- **Jobs stay inside the scope of the key that caused them**, from every database on, along every
run whose requests all meet their condition. -/
theorem jobs_stay_in_scope (cfg : Config) (db : Db) (events : List Event)
    (hcareful : Along (Ledger.after cfg) Careful events { db }) :
    Along (Ledger.after cfg) (JobsInScope cfg) events { db } :=
  hcareful.imp_of_invariant (fun _ _ hc h => h.after cfg hc)
    (fun _ _ hc h => jobsInScope_of_careful h hc) fun _ _ k hk => by cases hk

namespace Sample

/-- The scheduler runs under the identifier of a user of its own. -/
def schedulerUser : UserRow := { id := "scheduler:sjb_x", tenantID := Api.Sample.tenant.id }

def scheduleDb : Db := { Api.Sample.db with users := ⟨[Api.Sample.user, schedulerUser], by decide⟩ }

/-- Every expression matches once a second. -/
def everySecond : Cron := ⟨fun _ => .ok fun t => t + second⟩

def scheduleCfg : Config := { cfg with api := { Api.Sample.cfg with cron := everySecond } }

def caller : Caller :=
  { Api.Sample.caller with permissions := ["devices:write", "scheduled_jobs:write"] }

def groupTarget : JobTarget := { groupIDs := ["g"] }

def createSchedule : Event :=
  event (.request caller (.schedule (.create (some
    { name := "nightly", jobType := "exec", payload := "run", target := groupTarget
      cronExpr := "* * * * *" }))))

def tick : Event := { action := .tick, env := { env "y" with clock := fun _ => second } }

def rollback (d : String) : Event :=
  event (.request caller (.device (.rollback d (some "reason"))))

end Sample

theorem jobs_stay_in_scope_sample :
    ((run Sample.scheduleCfg Sample.scheduleDb [Sample.createSchedule, Sample.tick]).jobs.rows.map
      (·.deviceID)) = ["d"] ∧
    Along (Ledger.after Sample.scheduleCfg) (JobsInScope Sample.scheduleCfg)
      [Sample.createSchedule, Sample.tick] { db := Sample.scheduleDb } := by
  refine ⟨by decide, jobs_stay_in_scope Sample.scheduleCfg Sample.scheduleDb
    [Sample.createSchedule, Sample.tick] ⟨fun _ sc hsc => ?_, trivial, trivial⟩⟩
  cases hsc
  refine ⟨Subset.refl _, fun o => ?_⟩
  cases o <;> exact Subset.refl _

/-- A key restricted to a group rolls back the agent of another device. -/
theorem rollback_leaves_scope :
    ¬ Along (Ledger.after Sample.scheduleCfg) (JobsInScope Sample.scheduleCfg) [Sample.rollback "e"]
      { db := Sample.scheduleDb } := by
  rintro ⟨h, -⟩
  have hnew : New Sample.scheduleDb
      ((Sample.rollback "e").after Sample.scheduleCfg Sample.scheduleDb)
      (Jobs.rollbackRow (Sample.env "x") Sample.caller "e" "reason") := ⟨by decide, rfl⟩
  have hin : Sample.scheduleDb.InScope "t" Api.Sample.scope "e" := h _ hnew Api.Sample.scope rfl
  have hout : "e" ∉ reach Api.Sample.env "t" Api.Sample.scope Sample.scheduleDb := by decide
  exact hout (mem_reach.mpr hin)

end Moebius.Backend
