import Moebius.Identity

/-!
Revocation against requests in flight.

A device is locked out twice: its status is set to revoked, and its certificates are revoked. A
check-in in flight undoes the first, since it sets the status to online, and a renewal in flight
undoes the second, since it stores a certificate that is not revoked. One of the two locks is
enough.
-/

namespace Moebius

open Proc Renew SameBeside Pool Table Guard

inductive FleetRequest
  | checkin (env : Env) (cert : Option ClientCert) (body : Option CheckinRequest)
  | renew (env : Env) (cert : Option ClientCert) (body : Option RenewRequest)
  | revoke (now : Time) (tenantID deviceID reason : String)

inductive FleetAnswer
  | checkin (r : Reply CheckinResponse)
  | renew (r : Reply RenewResponse)
  | revoke (committed : Bool)

abbrev FleetStage := Stage Db AgentIdentity FleetAnswer

abbrev FleetPool := Pool FleetRequest Db AgentIdentity FleetAnswer

namespace FleetRequest

variable (C : Crypto)

/-- The check of an agent's request is the mTLS check; a revocation has none. -/
def task : FleetRequest → Task Db AgentIdentity FleetAnswer
  | checkin env cert body =>
    { check := do
        match ← mtlsCheck (Op.authTime env) cert with
        | .error r => pure (.error (.checkin r))
        | .ok who => pure (.ok who)
      act := fun who => do return .checkin (← Checkin.serveHTTP env who body) }
  | renew env cert body =>
    { check := do
        match ← mtlsCheck (Op.authTime env) cert with
        | .error r => pure (.error (.renew r))
        | .ok who => pure (.ok who)
      act := fun who => do return .renew (← serveHTTP C env who body) }
  | revoke now tenantID deviceID reason =>
    { check := pure (.ok ⟨deviceID, tenantID⟩)
      act := fun _ => do
        return .revoke (← attempt (Db.revokeDevice now tenantID deviceID reason)) }

/-- The handler behind the middleware, or the store's transaction. -/
def handler : FleetRequest → Proc Db FleetAnswer
  | checkin env cert body => do
    return .checkin (← authenticate (Op.authTime env) cert fun who =>
      Checkin.serveHTTP env who body)
  | renew env cert body => do
    return .renew (← authenticate (Op.authTime env) cert fun who =>
      serveHTTP C env who body)
  | revoke now tenantID deviceID reason => do
    return .revoke (← attempt (Db.revokeDevice now tenantID deviceID reason))

lemma whole_task (r : FleetRequest) : (r.task C).whole = r.handler C := by
  cases r with
  | checkin env cert body | renew env cert body =>
    simp only [Task.whole, task, handler, authenticate, bind_eq, Proc.bind_assoc]
    congr 1; funext x
    rcases x with e | _ <;> rfl
  | revoke now tenantID deviceID reason => rfl

end FleetRequest

/-! ### The two locks -/

def StatusRevoked (d : String) (db : Db) : Prop :=
  ∀ row, db.devices.get? d = some row → row.status = .revoked

def CertsRevoked (d : String) (db : Db) : Prop :=
  ∀ c ∈ db.certs.rows, c.deviceID = d → c.revokedAt ≠ none

variable {d : String}

section

variable {db db' : Db} {cert : ClientCert} {now : Time} {tenantID deviceID reason : String}
  {C : Crypto} {env : Env} {x : Certificate} {fs : List Bool} {n : ℕ}

lemma not_admitted_of_statusRevoked {at' : Time} (h : StatusRevoked d db)
    (hcert : cert.commonName = d) : admitted at' cert db = none := by
  unfold admitted
  split
  · rfl
  split
  · rename_i tenantID status hl
    obtain ⟨⟨row, hrow, -, hstatus⟩, -⟩ := rows_of_lookupCert hl
    rw [hcert] at hrow
    rw [if_pos (hstatus.symm.trans (h row hrow))]
  · rfl

lemma not_admitted_of_certsRevoked {at' : Time} (h : CertsRevoked d db)
    (hcert : cert.commonName = d) : admitted at' cert db = none := by
  unfold admitted
  split
  · rfl
  split
  · rename_i tenantID status hl
    obtain ⟨-, c, hc, hdevice, -, hrevoked⟩ := rows_of_lookupCert hl
    exact absurd hrevoked (h c hc (hdevice.trans hcert))
  · rfl

lemma StatusRevoked.congr (h : StatusRevoked d db) (hd : db'.devices = db.devices) :
    StatusRevoked d db' := by
  intro row hrow
  rw [hd] at hrow
  exact h row hrow

lemma CertsRevoked.congr (h : CertsRevoked d db) (hc : db'.certs = db.certs) :
    CertsRevoked d db' := by
  intro c hmem
  rw [hc] at hmem
  exact h c hmem

lemma statusRevoked_revokeDevice (h : db.revokeDevice now tenantID deviceID reason = some db') :
    (deviceID = d → StatusRevoked d db') ∧ (StatusRevoked d db → StatusRevoked d db') := by
  obtain ⟨⟨r', hr', hmatch⟩, rfl⟩ := Db.revokeDevice_eq_some h
  have hget : ∀ row, (db.revokeRows now tenantID deviceID reason).devices.get? d = some row →
      ∃ r, db.devices.get? d = some r ∧
        row = if r.id = deviceID ∧ r.tenantID = tenantID then { r with status := .revoked }
          else r := by
    intro row hrow
    simp only [Db.revokeRows, Db.updateJobs, get?_update] at hrow
    obtain ⟨r, hr, he⟩ := Option.map_eq_some_iff.mp hrow
    exact ⟨r, hr, he.symm⟩
  constructor
  · rintro rfl row hrow
    obtain ⟨r, hr, rfl⟩ := hget _ hrow
    -- the row the transaction found is the only one with this identifier
    cases hr.symm.trans hr'
    rw [if_pos hmatch]
  · intro hs row hrow
    obtain ⟨r, hr, rfl⟩ := hget _ hrow
    split
    · rfl
    · exact hs r hr

lemma certsRevoked_revokeDevice (h : db.revokeDevice now tenantID deviceID reason = some db') :
    (deviceID = d → CertsRevoked d db') ∧ (CertsRevoked d db → CertsRevoked d db') := by
  obtain ⟨-, rfl⟩ := Db.revokeDevice_eq_some h
  have hrow : ∀ c ∈ (db.revokeRows now tenantID deviceID reason).certs.rows, c.revokedAt ≠ none ∨
      c ∈ db.certs.rows ∧ c.deviceID ≠ deviceID := by
    intro c hc
    obtain ⟨c', hc', rfl⟩ := List.mem_map.mp hc
    split
    · exact .inl (by simp)
    · by_cases hnone : c'.revokedAt = none
      · exact .inr ⟨hc', fun hd => by tauto⟩
      · exact .inl hnone
  constructor
  · rintro rfl c hc hd
    exact (hrow c hc).resolve_right fun hold => hold.2 hd
  · intro hs c hc hd
    exact (hrow c hc).elim id fun hold => hs c hold.1 hd

lemma StatusRevoked.updateDevice (h : StatusRevoked d db) {req : CheckinRequest} {agentID : String}
    (hd : agentID ≠ d) : StatusRevoked d (db.updateDevice now req agentID tenantID) := by
  intro row hrow
  simp only [Db.updateDevice, get?_update] at hrow
  obtain ⟨r, hr, rfl⟩ := Option.map_eq_some_iff.mp hrow
  have hid : r.id = d := key_of_get? hr
  rw [if_neg (fun hc => hd (hc.1.symm.trans hid))]
  exact h r hr

lemma CertsRevoked.store (h : CertsRevoked d db) (hd : x.commonName ≠ d)
    (hrun : (store C env x).run fs db = (.ok n, db')) : CertsRevoked d db' := by
  obtain ⟨db₁, hinsert, rfl⟩ := run_store hrun
  have h₁ : CertsRevoked d db₁ := by
    obtain ⟨⟨t, ht, rfl⟩, -⟩ := Db.insertCert_eq_some hinsert
    intro c hc hdevice
    rcases (mem_insert ht).mp hc with hc | rfl
    · exact h c hc hdevice
    · exact absurd hdevice hd
  intro c hc hdevice
  obtain ⟨c', hc', rfl⟩ := List.mem_map.mp hc
  split at hdevice
  · rw [if_pos (by assumption)]
    simp
  · rename_i hnot
    rw [if_neg hnot]
    exact h₁ c' hc' hdevice

lemma devices_of_store (hrun : (store C env x).run fs db = (.ok n, db')) :
    db'.devices = db.devices := by
  obtain ⟨db₁, hinsert, rfl⟩ := run_store hrun
  obtain ⟨⟨t, -, rfl⟩, -⟩ := Db.insertCert_eq_some hinsert
  rfl

end

variable {r : FleetRequest}

namespace FleetRequest

open Guard

variable (C : Crypto) {a b : Db} {R : Db → Db → Prop} {who : AgentIdentity}

lemma opens_checkin (env : Env) (who : AgentIdentity) (body : Option CheckinRequest)
    (h : ∀ db now req, R db (db.updateDevice now req who.agentID who.tenantID)) :
    (Checkin.serveHTTP env who body).Opens R := by
  have hfetch : (Checkin.fetch env who body).Opens R := by
    unfold Checkin.fetch
    split
    · trivial
    rcases body with _ | req
    · trivial
    · exact fun db => h db _ _
  refine opens_bind hfetch fun r hr => ?_
  rcases r with r | jobs
  · trivial
  · unfold Checkin.fetch at hr
    split at hr
    · cases hr
    rcases body with _ | req
    · cases hr
    · cases hr

lemma opens_renew {env : Env} {body : Option RenewRequest} (hrefl : ∀ db, R db db)
    (h : ∀ db db' x n, x.commonName = who.agentID →
      (store C env x).run env.txFaults db = (.ok n, db') → R db db') :
    (serveHTTP C env who body).Opens R := by
  unfold serveHTTP
  split
  · trivial
  rcases body with _ | req
  · trivial
  dsimp only
  split
  · trivial
  rcases hx : sign C env who.agentID req with _ | x
  · trivial
  intro db
  have hname : x.commonName = who.agentID := (Crypto.signed_of_signCSR hx).1
  rcases hrun : (store C env x).run env.txFaults db with ⟨e | n, db'⟩
  · simpa only [hrun] using hrefl db
  · simpa only [hrun] using h db db' x n hname hrun

def IsCheckin : FleetRequest → Prop
  | checkin _ _ _ => True
  | _ => False

def IsRenewal : FleetRequest → Prop
  | renew _ _ _ => True
  | _ => False

/-- What keeps the device `d` out. Among its own requests only the first write of those that
`lifts` names can undo it. -/
structure Lock (d : String) (lifts : FleetRequest → Prop) (F : Db → Prop) : Prop where
  refuses : ∀ {db at' cert}, F db → cert.commonName = d → admitted at' cert db = none
  same : ∀ {a b}, SameIdentity a b → Keeps F a b
  update : ∀ {env cert body agentID}, (lifts (.checkin env cert body) → agentID ≠ d) →
    ∀ db now req tenantID, Keeps F db (db.updateDevice now req agentID tenantID)
  store : ∀ {env cert body db db' x n}, (lifts (.renew env cert body) → x.commonName ≠ d) →
    (store C env x).run env.txFaults db = (.ok n, db') → Keeps F db db'
  revoke : ∀ {db db' now tenantID deviceID reason},
    db.revokeDevice now tenantID deviceID reason = some db' →
      (deviceID = d → F db') ∧ Keeps F db db'
  revoke_idle : ∀ {now tenantID deviceID reason}, ¬ lifts (.revoke now tenantID deviceID reason)

lemma lock_status : Lock C d IsCheckin (StatusRevoked d) where
  refuses := not_admitted_of_statusRevoked
  same h hs := hs.congr h.devices
  update h _ _ _ _ hs := hs.updateDevice (h trivial)
  store _ hrun hs := hs.congr (devices_of_store hrun)
  revoke := statusRevoked_revokeDevice
  revoke_idle := id

lemma lock_certs : Lock C d IsRenewal (CertsRevoked d) where
  refuses := not_admitted_of_certsRevoked
  same h hs := hs.congr h.certs
  update _ _ _ _ _ hs := hs
  store h hrun hs := hs.store (h trivial) hrun
  revoke := certsRevoked_revokeDevice
  revoke_idle := id

namespace Lock

variable {C} {lifts : FleetRequest → Prop} {F : Db → Prop} (hF : Lock C d lifts F)

lemma check_keeps (r : FleetRequest) : (r.task C).check.Each (Keeps F) := by
  refine each_of_readOnly ?_ fun _ hs => hs
  cases r with
  | checkin env cert body | renew env cert body =>
    refine readOnly_bind (readOnly_mtlsCheck _ _) fun x => ?_
    rcases x with _ | _ <;> trivial
  | revoke now tenantID deviceID reason => trivial

include hF

lemma each_act (h : lifts r → who.agentID ≠ d) : ((r.task C).act who).Each (Keeps F) := by
  cases r with
  | checkin env cert body =>
    refine each_bind (each_of_opens ?_ ?_) fun _ => trivial
    · exact opens_checkin env who body fun db now req => hF.update h db now req _
    · exact afterFirst_checkin (fun a b h => hF.same h.identity) env who body
  | renew env cert body =>
    refine each_bind (each_of_opens ?_ ?_) fun _ => trivial
    · exact opens_renew C (fun db hs => hs) fun db db' x n hname hrun => hF.store (hname ▸ h) hrun
    · exact afterFirst_renew (fun _ _ => hF.same ⟨rfl, rfl⟩) C env who body
  | revoke now tenantID deviceID reason =>
    exact each_bind (each_attempt (fun db hs => hs) fun db db' hr => (hF.revoke hr).2)
      fun _ => trivial

lemma check_clear (r : FleetRequest) : (r.task C).check.Answers F (Harmless F (r.task C)) := by
  have hpassed : ∀ (at' : Time) (cert : Option ClientCert) c db who, cert = some c → F db →
      admitted at' c db = some who → who.agentID ≠ d := by
    intro at' cert c db who _ hs hadm hd
    have hname : who.agentID = c.commonName := agentID_of_admitted hadm
    rw [hF.refuses hs (hname.symm.trans hd)] at hadm
    cases hadm
  cases r with
  | checkin env cert body | renew env cert body =>
    refine answers_bind (answers_mono (answers_mtlsCheck _ cert (hpassed _ cert)) ?_) fun x => ?_
    · intro x hx y hy who hwho
      rcases x with _ | w
      · cases hy
        cases hwho
      · cases hy
        cases hwho
        exact hF.each_act fun _ => hx _ rfl
    · rcases x with _ | _ <;> trivial
  | revoke now tenantID deviceID reason => trivial

lemma start_clear (r : FleetRequest) : (r.task C).check.DoneIn (Harmless F (r.task C)) := by
  cases r with
  | checkin env cert body | renew env cert body =>
    refine doneIn_bind fun x hx y hy who hwho => ?_
    rcases x with _ | w
    · cases hy
      cases hwho
    · exact absurd hx (mtlsCheck_ne_ok _ _ w)
  | revoke now tenantID deviceID reason =>
    exact fun _ _ who _ => hF.each_act fun h => absurd h hF.revoke_idle

lemma act_keeps (r : FleetRequest) (who : AgentIdentity) :
    ((r.task C).act who).AfterFirst (Keeps F) := by
  cases r with
  | checkin env cert body =>
    exact afterFirst_bind (afterFirst_checkin (fun a b h => hF.same h.identity) env who body)
      fun _ => trivial
  | renew env cert body =>
    exact afterFirst_bind (afterFirst_renew (fun _ _ => hF.same ⟨rfl, rfl⟩) C env who body)
      fun _ => trivial
  | revoke now tenantID deviceID reason => exact ⟨fun _ => trivial, trivial⟩

lemma observed : Observed F (task C) :=
  ⟨check_keeps, hF.check_clear, hF.start_clear, hF.act_keeps⟩

end Lock

end FleetRequest

/-! ### Runs -/

open FleetRequest Guard

def HasRevoked (d : String) : FleetRequest → FleetStage → Prop
  | .revoke _ _ deviceID _, .acting _ (done (.revoke true)) => deviceID = d
  | .revoke _ _ deviceID _, .finished (.revoke true) => deviceID = d
  | _, _ => False

def Committed (d : String) (s : FleetPool) : Prop := ∃ x ∈ s.threads, HasRevoked d x.1 x.2

section

variable (C : Crypto)

/-- A request of the device past its mTLS check, whose first write is yet to come. -/
def Awaits (d : String) (x : FleetRequest × FleetStage) : Prop :=
  ∃ who, who.agentID = d ∧ x.2 = .acting who ((x.1.task C).act who)

/-- A `RevokeDevice` runs its transaction only when not both a check-in of the device that is yet
to update the device row and a renewal of the device that is yet to run its transaction are past
their mTLS checks. -/
def SafeStep (s : FleetPool) : Action FleetRequest → Prop
  | .spawn _ => True
  | .step i fault => ∀ now tenantID d reason g w k e,
    s.threads[i]? = some (.revoke now tenantID d reason, .acting g (stmt w k e)) → fault = false →
      ¬ ((∃ x ∈ s.threads, x.1.IsCheckin ∧ Awaits C d x) ∧
        ∃ x ∈ s.threads, x.1.IsRenewal ∧ Awaits C d x)

/-- Once a `RevokeDevice` has committed, the mTLS check admits no certificate of the device. -/
def RevocationFinal (db : Db) (acts : List (Action FleetRequest)) : Prop :=
  ∀ pre mid post, acts = pre ++ mid ++ post → ∀ d, Committed d (Pool.run (task C) ⟨db, []⟩ pre) →
    ∀ at' (cert : ClientCert), cert.commonName = d →
      admitted at' cert (Pool.run (task C) ⟨db, []⟩ (pre ++ mid)).state = none

/-- A revocation is about to run its transaction, or has its answer. -/
def Regular : FleetRequest → FleetStage → Prop
  | r@(.revoke _ _ _ _), .acting g p => p = (r.task C).act g ∨ ∃ a, p = done a
  | .revoke _ _ _ _, .checking _ => False
  | _, _ => True

variable {C}

lemma regular_start (r : FleetRequest) : Regular C r (r.task C).start := by
  cases r with
  | checkin env cert body | renew env cert body => trivial
  | revoke now tenantID deviceID reason => exact .inl rfl

variable {st : FleetStage} {fault : Bool} {x : FleetRequest × FleetStage} {s : FleetPool}

lemma regular_step (h : Regular C r st) (fault : Bool) (db : Db) :
    Regular C r ((r.task C).step fault db st).2 := by
  cases r with
  | checkin env cert body | renew env cert body => trivial
  | revoke now tenantID deviceID reason =>
    rcases st with p | ⟨g, p⟩ | a
    · exact h.elim
    · rcases h with rfl | ⟨a, rfl⟩
      · cases fault
        · exact .inr ⟨_, rfl⟩
        · exact .inr ⟨_, rfl⟩
      · trivial
    · trivial

lemma step_hasRevoked (h : Regular C r st) {db : Db}
    (hnew : HasRevoked d r ((r.task C).step fault db st).2) : HasRevoked d r st ∨ (fault = false ∧
      (∃ now tenantID reason g w k e,
        r = .revoke now tenantID d reason ∧ st = .acting g (stmt w k e)) ∧
      StatusRevoked d ((r.task C).step fault db st).1 ∧
      CertsRevoked d ((r.task C).step fault db st).1) := by
  cases r with
  | checkin env cert body | renew env cert body => exact hnew.elim
  | revoke now tenantID deviceID reason =>
    rcases st with p | ⟨g, p⟩ | a
    · exact h.elim
    · rcases h with rfl | ⟨a, rfl⟩
      · cases fault with
        | true => simp [Task.step, task, attempt, HasRevoked] at hnew
        | false =>
          rcases hdb : db.revokeDevice now tenantID deviceID reason with _ | db'
          · simp [Task.step, task, attempt, HasRevoked, hdb] at hnew
          · have hd : deviceID = d := by
              simpa [Task.step, task, attempt, HasRevoked, hdb] using hnew
            have hstate : (((FleetRequest.revoke now tenantID deviceID reason).task C).step false db
                (.acting g (((FleetRequest.revoke now tenantID deviceID reason).task C).act g))).1 =
                db' := by
              simp [Task.step, task, attempt, hdb]
            subst hd
            rw [hstate]
            exact .inr ⟨rfl, ⟨now, tenantID, reason, g, _, _, _, rfl, rfl⟩,
              (statusRevoked_revokeDevice hdb).1 rfl, (certsRevoked_revokeDevice hdb).1 rfl⟩
      · rcases a with r | r | committed
        · exact hnew.elim
        · exact hnew.elim
        · cases committed
          · simp [Task.step, HasRevoked] at hnew
          · exact .inl hnew
    · exact .inl hnew

lemma awaits_of_outstanding {lifts : FleetRequest → Prop} {F : Db → Prop}
    (hF : Lock C d lifts F) (h : Calm F (x.1.task C) x.2) (ho : Outstanding F x.2) :
    lifts x.1 ∧ Awaits C d x := by
  have hun := untouched_of_outstanding h ho
  obtain ⟨r, p | ⟨who, p⟩ | a⟩ := x
  · exact ho.elim
  · change p = (r.task C).act who at hun
    subst hun
    have hneither := mt hF.each_act ho
    push Not at hneither
    exact ⟨hneither.1, who, hneither.2, rfl⟩
  · exact ho.elim

lemma not_hasRevoked_start (r : FleetRequest) : ¬ HasRevoked d r (r.task C).start := by
  intro hr
  cases r with
  | checkin env cert body | renew env cert body | revoke now tenantID deviceID reason => exact hr

lemma safe_of_commit {F : Db → Prop} {i : ℕ} {now : Time} {tenantID reason : String}
    {g : AgentIdentity} {p : Proc Db FleetAnswer}
    (hi : s.threads[i]? = some (.revoke now tenantID d reason, .acting g p))
    (hregular : Regular C (.revoke now tenantID d reason) (.acting g p))
    (hF : F (((FleetRequest.revoke now tenantID d reason).task C).step fault s.state
      (.acting g p)).1) (hnone : ∀ y ∈ s.threads, ¬ Outstanding F y.2) :
    Safe F (s.after (task C) (.step i fault)) := by
  have hone : ¬ Outstanding F
      (((FleetRequest.revoke now tenantID d reason).task C).step fault s.state
        (.acting g p)).2 := by
    intro ho
    rcases hregular with rfl | ⟨a, rfl⟩
    · cases fault
      · exact ho trivial
      · exact ho trivial
    · exact ho
  have hstate : (s.after (task C) (.step i fault)).state =
      (((FleetRequest.revoke now tenantID d reason).task C).step fault s.state
        (.acting g p)).1 := by simp only [after, hi]
  refine ⟨hstate ▸ hF, fun y hy => ?_⟩
  cases threadAfter_of_mem (task C) hy with
  | old hy => exact hnone y hy
  | stepped hi' =>
    cases hi.symm.trans hi'
    exact hone

/-- What holds of the requests in flight, and of a device once it is revoked. -/
structure Locked (C : Crypto) (d : String) (s : FleetPool) : Prop where
  regular : ∀ x ∈ s.threads, Regular C x.1 x.2
  calmStatus : AllCalm (StatusRevoked d) (task C) s
  calmCerts : AllCalm (CertsRevoked d) (task C) s
  lock : Committed d s → Safe (StatusRevoked d) s ∨ Safe (CertsRevoked d) s

lemma Locked.after (h : Locked C d s) {a : Action FleetRequest} (ha : SafeStep C s a) :
    Locked C d (s.after (task C) a) := by
  have hcs := allCalm_after (lock_status C).observed h.calmStatus a
  have hcc := allCalm_after (lock_certs C).observed h.calmCerts a
  have hkept : Committed d s →
      Safe (StatusRevoked d) (s.after (task C) a) ∨
        Safe (CertsRevoked d) (s.after (task C) a) := by
    intro hc
    rcases h.lock hc with hs | hs
    · exact .inl (safe_after (lock_status C).observed h.calmStatus hs a)
    · exact .inr (safe_after (lock_certs C).observed h.calmCerts hs a)
  have hregular : ∀ x ∈ (s.after (task C) a).threads, Regular C x.1 x.2 :=
    threads_after (task C) regular_start
      (fun r st fault hst => regular_step hst fault s.state) h.regular a
  refine ⟨hregular, hcs, hcc, fun hc => ?_⟩
  obtain ⟨x, hx, hr⟩ := hc
  cases threadAfter_of_mem (task C) hx with
  | old hx => exact hkept ⟨x, hx, hr⟩
  | started r => exact absurd hr (not_hasRevoked_start r)
  | @stepped i fault r st hi =>
    have hmem : (r, st) ∈ s.threads := List.mem_of_getElem? hi
    rcases step_hasRevoked (h.regular _ hmem) hr with
      hold | ⟨hfault, ⟨now, tenantID, reason, g, w, k, e, rfl, rfl⟩, hstatus, hcerts⟩
    · exact hkept ⟨(r, st), hmem, hold⟩
    -- the transaction has just committed: both locks are set, and one of them stays
    have hnot := ha now tenantID d reason g w k e hi hfault
    rcases not_and_or.mp hnot with hnone | hnone
    · refine .inl (safe_of_commit hi (h.regular _ hmem) hstatus fun y hy ho => ?_)
      exact hnone ⟨y, hy, awaits_of_outstanding (lock_status C) (h.calmStatus y hy) ho⟩
    · refine .inr (safe_of_commit hi (h.regular _ hmem) hcerts fun y hy ho => ?_)
      exact hnone ⟨y, hy, awaits_of_outstanding (lock_certs C) (h.calmCerts y hy) ho⟩

lemma locked_start (d : String) (db : Db) : Locked C d ⟨db, []⟩ := by
  refine ⟨fun x hx => ?_, fun x hx => ?_, fun x hx => ?_, fun hc => ?_⟩
  · cases hx
  · cases hx
  · cases hx
  · obtain ⟨x, hx, -⟩ := hc
    cases hx

lemma Locked.run (h : Locked C d s) {acts : List (Action FleetRequest)}
    (hacts : Admissible (task C) (SafeStep C) s acts) : Locked C d (s.run (task C) acts) :=
  hacts.invariant (fun _ _ ha hs => hs.after ha) h

end

/-- **Revocation.** In every run in which no `RevokeDevice` commits while both a check-in and a
renewal of the device are between their mTLS checks and their first writes, no certificate of the
device is admitted after it. -/
theorem revocationFinal_of_safe (C : Crypto) (db : Db) (acts : List (Action FleetRequest))
    (hacts : Admissible (task C) (SafeStep C) ⟨db, []⟩ acts) : RevocationFinal C db acts := by
  intro pre mid post hsplit d hcommitted at' cert hcert
  subst hsplit
  rw [List.append_assoc, Admissible, Along.append] at hacts
  have hlocked : Locked C d (Pool.run (task C) ⟨db, []⟩ pre) := (locked_start d db).run hacts.1
  rw [run_append]
  rcases hlocked.lock hcommitted with hs | hs
  · have hlater := safe_run (lock_status C).observed hlocked.calmStatus hs mid
    exact not_admitted_of_statusRevoked hlater.1 hcert
  · have hlater := safe_run (lock_certs C).observed hlocked.calmCerts hs mid
    exact not_admitted_of_certsRevoked hlater.1 hcert

namespace Sample

def crypto : Crypto where
  publicKey csr := some csr
  fingerprint x := x.serialHex
  hashToken raw := raw
  caChainPEM := ""

def renewEnv (now : Time) (serial : ℕ) : Env := { env now "r" with serial := some serial }

def revokeD : FleetRequest := .revoke 2 "t" "d" "lost"

/-- A check-in passes its mTLS check; the device is revoked; the check-in updates the device. -/
def checkinInFlight : List (Action FleetRequest) :=
  [.spawn (.checkin (env 1 "k") (some (cert "d")) (some { status := {} })), .spawn revokeD,
    .step 0 false, .step 1 false, .step 0 false]

/-- A check-in and a renewal pass their mTLS checks; the device is revoked; both go on. -/
def bothInFlight : List (Action FleetRequest) :=
  [.spawn (.checkin (env 1 "k") (some (cert "d")) (some { status := {} })),
    .spawn (.renew (renewEnv 1 7) (some (cert "d")) (some { csr := "key" })), .spawn revokeD,
    .step 0 false, .step 1 false, .step 2 false, .step 0 false, .step 1 false]

def renewed : Certificate :=
  { serialNumber := 7, commonName := "d", notBefore := 0,
    notAfter := defaultCertValidity, publicKey := "key" }

end Sample

open Sample in
theorem checkin_in_flight_locked_out : RevocationFinal crypto db checkinInFlight := by
  refine revocationFinal_of_safe crypto db _ ⟨trivial, trivial, ?_, ?_, ?_, trivial⟩
  · intro now tenantID d reason g w k e hi
    cases hi
  · intro now tenantID d reason g w k e hi _ hboth
    -- the requests are a check-in and a revocation, no renewal
    obtain ⟨-, x, hx, hrenewal, -⟩ := hboth
    change x ∈ [_, _] at hx
    rcases List.mem_pair.mp hx with rfl | rfl
    · exact hrenewal
    · exact hrenewal
  · intro now tenantID d reason g w k e hi
    cases hi

open Sample in
/-- With both in flight the device is online again, with a certificate that is accepted. -/
theorem both_in_flight_readmitted : ¬ RevocationFinal crypto db bothInFlight := by
  intro h
  have hadmitted := h (bothInFlight.take 6) (bothInFlight.drop 6) [] rfl "d" ?_ 3 renewed.client rfl
  · have hin : (admitted 3 renewed.client
        (Pool.run (task crypto) ⟨db, []⟩ bothInFlight).state).isSome := by decide
    exact absurd (hadmitted ▸ hin) (by decide)
  · exact ⟨_, List.mem_of_getElem? (i := 2) rfl, rfl⟩

end Moebius
