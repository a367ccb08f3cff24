import Moebius.Reach

/-!
What the lists of devices and jobs reveal to a scoped key.

Two databases may differ in everything but what belongs to the devices in the scope; the lists are
the same. The query of a list is put together from the request, sorted and cut off, so the argument
is that both databases hand the same rows to the sort: the rows a list asks for are rows of devices
in the scope, and there the databases agree.
-/

namespace Moebius.Api

open Proc Devices List Multiset

/-- The order of a scan depends on the rows alone: sorting after it breaks ties by content. -/
def ByContent {ρ : Type} (scan : Scan ρ) : Prop := ∀ l l', l.Perm l' → scan.order l = scan.order l'

/-- The scope stands for the same devices in both databases, and they agree on everything that
belongs to those devices. -/
structure SameWithin (tenantID : String) (s : APIScope) (a b : Db) : Prop where
  scope : ∀ d, b.InScope tenantID s d ↔ a.InScope tenantID s d
  devices : ∀ d, a.InScope tenantID s d → b.devices.get? d = a.devices.get? d
  members : ∀ d, a.InScope tenantID s d → ∀ (o : Db.Owner) (id : String),
    ⟨d, id⟩ ∈ (o.members b).rows ↔ ⟨d, id⟩ ∈ (o.members a).rows
  jobs : ∀ j : JobRow, a.InScope tenantID s j.deviceID → (j ∈ b.jobs.rows ↔ j ∈ a.jobs.rows)

variable {s : APIScope}

namespace SameWithin

variable {tenantID : String} {a b : Db}

lemma symm (h : SameWithin tenantID s a b) : SameWithin tenantID s b a where
  scope d := (h.scope d).symm
  devices d hd := (h.devices d ((h.scope d).mp hd)).symm
  members d hd o id := (h.members d ((h.scope d).mp hd) o id).symm
  jobs j hj := (h.jobs j ((h.scope _).mp hj)).symm

lemma mem_selected_iff (h : SameWithin tenantID s a b) (env env' : Env) (d : String) :
    d ∈ selected env' tenantID s b ↔ d ∈ selected env tenantID s a := by
  rw [mem_selected, mem_selected, h.scope]

lemma selected_eq_nil_iff (h : SameWithin tenantID s a b) (env env' : Env) :
    selected env' tenantID s b = [] ↔ selected env tenantID s a = [] := by
  simp only [eq_nil_iff_forall_not_mem, h.mem_selected_iff env env']

/-! ### Devices -/

variable {d : DeviceRow} {env env' : Env} {ilike : String → String → Bool} {f : Filters}

lemma linkedTo (h : SameWithin tenantID s a b) (hd : a.InScope tenantID s d.id) (o : Db.Owner)
    (id : String) : Devices.linkedTo o id b d = Devices.linkedTo o id a d := by
  have hany : ∀ db : Db, Devices.linkedTo o id db d = true ↔ ⟨d.id, id⟩ ∈ (o.members db).rows := by
    intro db
    rw [Devices.linkedTo, any_eq_true]
    constructor
    · rintro ⟨m, hm, hp⟩
      obtain ⟨hdev, hown⟩ := of_decide_eq_true hp
      rwa [← hdev, ← hown]
    · intro hm
      exact ⟨_, hm, by simp⟩
  rw [Bool.eq_iff_iff, hany, hany, h.members d.id hd o id]

lemma wanted_of_wanted (h : SameWithin tenantID s a b) (hd : d ∈ a.devices.select
      (wanted ilike tenantID f (some (selected env tenantID s a)) a)) : d ∈ b.devices.select
      (wanted ilike tenantID f (some (selected env' tenantID s b)) b) := by
  obtain ⟨hrow, hw⟩ := mem_filter.mp hd
  have hallowed : d.id ∈ selected env tenantID s a := by
    simp only [wanted, allowedBy, Bool.and_eq_true, decide_eq_true_eq] at hw
    tauto
  have hscope : a.InScope tenantID s d.id := (mem_selected env).mp hallowed
  have hget : b.devices.get? d.id = some d := by
    rw [h.devices d.id hscope]
    exact Table.get?_of_mem hrow
  refine mem_filter.mpr ⟨Table.mem_of_get? hget, ?_⟩
  have hallowed' : d.id ∈ selected env' tenantID s b := (h.mem_selected_iff env env' _).mpr hallowed
  simpa only [wanted, allowedBy, h.linkedTo hscope, hallowed, hallowed'] using hw

lemma perm_devices (h : SameWithin tenantID s a b) :
    (b.devices.select (wanted ilike tenantID f (some (selected env' tenantID s b)) b)).Perm
    (a.devices.select (wanted ilike tenantID f (some (selected env tenantID s a)) a)) := by
  refine (perm_ext_iff_of_nodup ?_ ?_).mpr fun d =>
    ⟨h.symm.wanted_of_wanted, h.wanted_of_wanted⟩
  · exact b.devices.nodup.of_map _ |>.filter _
  · exact a.devices.nodup.of_map _ |>.filter _

lemma wantedJob_of_wanted (h : SameWithin tenantID s a b) {f : Jobs.Filters} {j : JobRow}
    (hj : j ∈ a.jobs.select (Jobs.wanted tenantID f (some (selected env tenantID s a)))) :
    j ∈ b.jobs.select (Jobs.wanted tenantID f (some (selected env' tenantID s b))) := by
  obtain ⟨hrow, hw⟩ := mem_filter.mp hj
  have hallowed : j.deviceID ∈ selected env tenantID s a := by
    simp only [Jobs.wanted, allowedBy, Bool.and_eq_true, decide_eq_true_eq] at hw
    tauto
  have hscope : a.InScope tenantID s j.deviceID := (mem_selected env).mp hallowed
  refine mem_filter.mpr ⟨(h.jobs j hscope).mpr hrow, ?_⟩
  have hallowed' : j.deviceID ∈ selected env' tenantID s b :=
    (h.mem_selected_iff env env' _).mpr hallowed
  simpa only [Jobs.wanted, allowedBy, hallowed, hallowed'] using hw

lemma perm_jobs (h : SameWithin tenantID s a b) {f : Jobs.Filters} :
    (b.jobs.select (Jobs.wanted tenantID f (some (selected env' tenantID s b)))).Perm
      (a.jobs.select (Jobs.wanted tenantID f (some (selected env tenantID s a)))) := by
  refine (perm_ext_iff_of_nodup ?_ ?_).mpr fun j =>
    ⟨h.symm.wantedJob_of_wanted, h.wantedJob_of_wanted⟩
  · exact b.jobs.nodup.of_map _ |>.filter _
  · exact a.jobs.nodup.of_map _ |>.filter _

end SameWithin

section

variable {caller : Caller} {env : Env} {db : Db}

lemma run_nil_scopedList {β : Type} (hadmin : caller.isAdmin = false)
    (hscope : caller.scope = some s) {rows : Option (List String) → Db → List β} {failed : String} :
    ((scopedList env caller rows failed).run [] db).1 =
      .ok 200 (if selected env caller.tenantID s db = [] then []
        else rows (some (selected env caller.tenantID s db)) db) := by
  have hlist : (listScope env caller []).run [] db =
      (if selected env caller.tenantID s db = [] then .error (.ok 200 ([] : List β))
        else .ok (some (selected env caller.tenantID s db)), db) := by
    unfold listScope
    rw [if_neg (by simp [hadmin]), hscope]
    simp only [resolveScope, bind_eq, run_nil_bind, run_nil_expandAll]
    simp only [pure_eq, run_done, Option.getD_some]
    split <;> rfl
  simp only [scopedList, bind_eq, run_nil_bind, hlist]
  by_cases hsel : selected env caller.tenantID s db = []
  · simp only [if_pos hsel]
    rfl
  · simp only [if_neg hsel]
    rfl

lemma serve_eq_of_handler_eq {cfg : Config} {env' : Env} {req : Request} {a b : Db}
    (h : ((handler cfg env' req caller).run [] b).1 = ((handler cfg env req caller).run [] a).1) :
    ((serve cfg env' caller req).run [] b).1 = ((serve cfg env caller req).run [] a).1 := by
  unfold serve ApiAuth.require
  split
  · exact h
  split
  · exact h
  · rfl

end

/-- **The lists reveal nothing outside the scope.** For a scoped key without the admin flag and two
databases that are the same within its scope: if no query fails and ties are broken by content, the
lists of devices and of jobs are answered alike, whatever the parameters. -/
theorem scopedLists_agree (cfg : Config) (caller : Caller) (s : APIScope) (a b : Db)
    (env env' : Env) (hadmin : caller.isAdmin = false) (hscope : caller.scope = some s)
    (hsame : SameWithin caller.tenantID s a b)
    (hdevices : env'.scanDevices = env.scanDevices ∧ ByContent env.scanDevices)
    (hjobs : env'.scanJobs = env.scanJobs ∧ ByContent env.scanJobs) :
    (∀ f, ((serve cfg env' caller (.device (.list f))).run [] b).1 =
      ((serve cfg env caller (.device (.list f))).run [] a).1) ∧
    (∀ f, ((serve cfg env' caller (.job (.list f))).run [] b).1 =
      ((serve cfg env caller (.job (.list f))).run [] a).1) := by
  have hnil := hsame.selected_eq_nil_iff env env'
  constructor
  · intro f
    have hrows : listDevices env' cfg.ilike caller.tenantID f
          (some (selected env' caller.tenantID s b)) b =
        listDevices env cfg.ilike caller.tenantID f
          (some (selected env caller.tenantID s a)) a := by
      rw [listDevices, listDevices, hdevices.1, hdevices.2 _ _ hsame.perm_devices]
    refine serve_eq_of_handler_eq ?_
    simp only [handler, deviceHandler, run_answer, list,
      run_nil_scopedList hadmin hscope, hrows, hnil]
  · intro f
    have hrows : Jobs.listJobs env' caller.tenantID f (some (selected env' caller.tenantID s b)) b =
        Jobs.listJobs env caller.tenantID f (some (selected env caller.tenantID s a)) a := by
      rw [Jobs.listJobs, Jobs.listJobs, hjobs.1, hjobs.2 _ _ hsame.perm_jobs]
    refine serve_eq_of_handler_eq ?_
    simp only [handler, jobHandler, run_answer, Jobs.list,
      run_nil_scopedList hadmin hscope, hrows, hnil]

namespace Sample

/-- A scan whose order is fixed by the rows. -/
noncomputable def canonical (ρ : Type) : Scan ρ where
  order l := (l : Multiset ρ).toList
  perm _ := coe_eq_coe.mp (coe_toList _)

lemma byContent_canonical {ρ : Type} : ByContent (canonical ρ) := by
  intro l l' h
  simp only [canonical, coe_eq_coe.mpr h]

noncomputable def sortedEnv : Env :=
  { env with scanDevices := canonical _, scanJobs := canonical _ }

def deviceScope : APIScope := { deviceIDs := ["d"] }

def deviceCaller : Caller := { caller with scope := some deviceScope }

def smaller : Db :=
  { db with devices := ⟨[device "d"], by decide⟩ }

lemma inScope_deviceScope {db : Db} {d : String} : db.InScope "t" deviceScope d ↔ d = "d" := by
  constructor
  · rintro (h | ⟨o, id, hid, -⟩)
    · simpa [deviceScope] using h
    · cases o <;> cases hid
  · rintro rfl
    exact .inl (by simp [deviceScope])

end Sample

theorem scopedLists_agree_sample :
    ((serve Sample.cfg Sample.sortedEnv Sample.deviceCaller (.device (.list {}))).run []
      Sample.smaller).1 =
    ((serve Sample.cfg Sample.sortedEnv Sample.deviceCaller (.device (.list {}))).run []
      Sample.db).1 := by
  refine (scopedLists_agree Sample.cfg Sample.deviceCaller Sample.deviceScope Sample.db
    Sample.smaller Sample.sortedEnv Sample.sortedEnv rfl rfl ⟨fun d => ?_, fun d hd => ?_,
    fun d _ o id => ?_, fun j _ => ?_⟩ ⟨rfl, Sample.byContent_canonical⟩
    ⟨rfl, Sample.byContent_canonical⟩).1 {}
  · exact Sample.inScope_deviceScope.trans Sample.inScope_deviceScope.symm
  · obtain rfl := Sample.inScope_deviceScope.mp hd
    rfl
  · cases o <;> rfl
  · rfl

end Moebius.Api
