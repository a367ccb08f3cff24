import Moebius.CertLifecycle
import Moebius.Runs

/-!
Renewal, seen from the agent.

The agent has its certificate and key in files and in memory, and every connection keeps the
certificate it was opened with. A renewal supersedes the old certificate at the server; the agent
has the new one only when the response has arrived, the files are written and the certificate in
memory is swapped.
-/

namespace Moebius

/-- With the agent's half: from a signing request the server gets the key it was made for. -/
structure AgentCrypto extends Crypto where
  csr : String → String
  publicKey_csr : ∀ key, publicKey (csr key) = some key

namespace Renewal

open Proc FleetCall Function Option Jobs

def renewalThreshold : Time := 30 * 24 * 3600 * second

/-- The agent's files, and what it has in memory while it runs. A file without a certificate or a
key in it is `none`. -/
structure Credentials where
  certFile : Option Certificate
  keyFile : Option String
  /-- The certificate of the `CertProvider`; there is none while the agent is down. -/
  provider : Option Certificate := none
  /-- The connections kept alive, as the certificates they were opened with. -/
  conns : List Certificate := []

/-- How writing a file ends. A write that fails leaves something behind. -/
inductive FileWrite (α : Type)
  | done
  | failed (left : Option α)

structure SaveIo where
  cert : FileWrite Certificate := .done
  key : FileWrite String := .done
  caChain : Bool := true
  /-- The files can be read back. -/
  readable : Bool := true

namespace Credentials

def needsRenewal (now : Time) (a : Credentials) : Bool :=
  match a.certFile with
  | none => false
  | some x => x.notAfter - now ≤ renewalThreshold

variable (conn : Option ℕ) (io : SaveIo) (readable : Bool) (x : Certificate) (a : Credentials)
  (key : String)

/-- `tls.LoadX509KeyPair`: the key has to be that of the certificate. -/
def loadX509KeyPair : Option Certificate :=
  match a.certFile, a.keyFile with
  | some x, some key => if readable ∧ x.publicKey = key then some x else none
  | _, _ => none

/-- `SaveRenewal` writes one file after the other and stops at the first error. -/
def saveRenewal (a : Credentials) : Bool × Credentials :=
  match io.cert with
  | .failed left => (false, { a with certFile := left })
  | .done =>
    match io.key with
    | .failed left => (false, { a with certFile := some x, keyFile := left })
    | .done => (io.caChain, { a with certFile := some x, keyFile := some key })

def swap : Credentials :=
  match a.loadX509KeyPair readable with
  | none => a
  | some x => { a with provider := some x }

def install (a : Credentials) : Credentials :=
  let (saved, a') := a.saveRenewal io x key
  if saved then a'.swap io.readable else a'

/-- The certificate a request shows: over a new connection the one in memory, over one kept alive
the one it was opened with. -/
def shown : Option Certificate :=
  match a.provider, conn with
  | none, _ => none
  | some x, none => some x
  | some _, some i => a.conns[i]?

def keep : Credentials :=
  match conn with
  | none => { a with conns := a.conns ++ [x] }
  | some _ => a

end Credentials

structure RenewTry where
  /-- The agent's clock. -/
  now : Time
  /-- The key drawn, unless drawing fails. -/
  key : Option String
  conn : Option ℕ := none
  env : Env
  faults : List Bool := []
  /-- The response arrives. -/
  delivered : Bool := true
  files : SaveIo := {}

structure CheckinTry where
  conn : Option ℕ := none
  env : Env
  faults : List Bool := []
  body : CheckinRequest

/-- A request of somebody else: the agent alone has the certificates of its device. -/
structure OtherCall (d : String) where
  call : FleetCall
  foreign : ∀ cert body, call.op = .renew (some cert) body → cert.commonName ≠ d

structure System where
  fleet : Fleet
  agent : Credentials

/-- What happens next. What cannot happen changes nothing. -/
inductive Event (d : String)
  | start (readable : Bool)
  | stop
  /-- A connection is closed. -/
  | close (i : ℕ)
  | renew (r : RenewTry)
  | checkin (q : CheckinTry)
  | other (o : OtherCall d)

variable (K : AgentCrypto) (r : RenewTry) (x : Certificate) (key : String)

/-- The certificate and the key of a renewal that comes to be requested. -/
def RenewTry.presents (a : Credentials) : Option (Certificate × String) :=
  if a.needsRenewal r.now then
    match r.key, a.shown r.conn with
    | some key, some x => some (x, key)
    | _, _ => none
  else none

def RenewTry.call : FleetCall where
  op := .renew (some x.client) (some { csr := K.csr key })
  env := r.env
  faults := r.faults

def RenewTry.reply (db : Db) : Reply Renew.RenewResponse :=
  ((r.call K x key).renew K.toCrypto (some x.client) (some { csr := K.csr key }) db).1

def CheckinTry.call (q : CheckinTry) (x : Certificate) : FleetCall where
  op := .checkin (some x.client) (some q.body)
  env := q.env
  faults := q.faults

variable {d : String}

section

variable (K : AgentCrypto) (quota : Option Defaults)

def System.step (s : System) (e : Event d) : System :=
  match e with
  | .start readable =>
    match s.agent.provider with
    | some _ => s
    | none =>
      { s with agent := { s.agent with provider := s.agent.loadX509KeyPair readable, conns := [] } }
  | .stop => { s with agent := { s.agent with provider := none, conns := [] } }
  | .close i => { s with agent := { s.agent with conns := s.agent.conns.eraseIdx i } }
  | .renew r =>
    match r.presents s.agent with
    | none => s
    | some (x, key) =>
      { fleet := (r.call K x key).after K.toCrypto quota s.fleet
        agent :=
          match r.reply K x key s.fleet.db with
          | .ok _ resp =>
            if r.delivered then (s.agent.keep r.conn x).install r.files resp.certificate key
            else s.agent.keep r.conn x
          | .error _ _ _ => s.agent.keep r.conn x }
  | .checkin q =>
    match s.agent.shown q.conn with
    | none => s
    | some x =>
      { fleet := (q.call x).after K.toCrypto quota s.fleet
        agent := s.agent.keep q.conn x }
  | .other o => { s with fleet := o.call.after K.toCrypto quota s.fleet }

def System.run (s : System) (events : List (Event d)) : System :=
  events.foldl (System.step K quota) s

abbrev Steps (P : System → Event d → Prop) (s : System) (events : List (Event d)) : Prop :=
  Along (System.step K quota) P events s

end

section

variable (s : System) (e : Event d)

/-- The request of an event, as the certificate it shows and the time of its mTLS check. -/
def Event.request : Option (Certificate × Time) :=
  match e with
  | .renew r => (r.presents s.agent).map fun p => (p.1, Op.authTime r.env)
  | .checkin q => (s.agent.shown q.conn).map fun x => (x, Op.authTime q.env)
  | _ => none

def Event.IsRenew : Prop := ∃ r, e = .renew r

def Event.Revokes : Prop :=
  ∃ o, e = .other o ∧ o.call.Revokes d s.fleet.db

/-- The first request after a renewal was attempted is accepted, unless the device has been
revoked or the certificate shown is out of its period. -/
def NeverLocksOut (K : AgentCrypto) (quota : Option Defaults) (s : System)
    (events : List (Event d)) : Prop :=
  ∀ pre e mid e' post, events = pre ++ e :: mid ++ e' :: post →
    e.IsRenew → (e.request (s.run K quota pre)).isSome →
    Steps K quota (fun s e => e.request s = none) (s.run K quota (pre ++ [e])) mid →
    Steps K quota (fun s e => ¬ e.Revokes s) s (pre ++ e :: mid) →
    ∀ x now, e'.request (s.run K quota (pre ++ e :: mid)) = some (x, now) →
      x.notBefore ≤ now → now ≤ x.notAfter →
      (admitted now x.client (s.run K quota (pre ++ e :: mid)).fleet.db).isSome

/-- The connection of a request, if it is one kept alive, was opened with the certificate the
agent has now. -/
def Credentials.Fresh (a : Credentials) (conn : Option ℕ) : Prop :=
  ∀ i, conn = some i → a.conns[i]? = a.provider

/-- The response of a renewal arrives and is put to use, and requests do not go over connections
opened with an older certificate. -/
def HandsOver : Prop :=
  match e with
  | .renew r => r.delivered ∧ r.files.cert = .done ∧ r.files.key = .done ∧ r.files.caChain ∧
      r.files.readable ∧ s.agent.Fresh r.conn
  | .checkin q => s.agent.Fresh q.conn
  | _ => True

end

/-! ### One event -/

section

variable {K : AgentCrypto} {quota : Option Defaults} {x : Certificate}

/-- The agent and the server agree on the certificate. -/
structure Agree (d : String) (x : Certificate) (s : System) : Prop where
  lifecycle : Lifecycle .univ s.fleet
  current : s.fleet.current d = some x
  certFile : s.agent.certFile = some x
  keyFile : s.agent.keyFile = some x.publicKey
  provider : ∀ y, s.agent.provider = some y → y = x

lemma shown_of_presents {r : RenewTry} {a : Credentials} {p : Certificate × String}
    (h : r.presents a = some p) : a.shown r.conn = some p.1 := by
  unfold RenewTry.presents at h
  split at h
  · split at h
    · rename_i hx
      cases h
      exact hx
    · cases h
  · cases h

variable (quota) in
lemma lifecycle_after {s : Fleet} (h : Lifecycle .univ s) (C : Crypto) (c : FleetCall) :
    Lifecycle .univ (c.after C quota s) :=
  h.step (fleetStep_after C quota c s) fun _ _ => trivial

lemma current_of_step {C : Crypto} {c : FleetCall} {s s' : Fleet} {xs : Set Certificate}
    (hs : Lifecycle xs s) (hcurrent : s.current d = some x) (hstep : FleetStep C c s s')
    (hforeign : ∀ cert body, c.op = .renew (some cert) body → cert.commonName ≠ d)
    (hnot : ¬ c.Revokes d s.db) : s'.current d = some x := by
  cases hstep with
  | same hcerts hdevices => exact hcurrent
  | enrolled hx hsame hsign hdevice hscope hcert hafter =>
    dsimp only
    rw [update_of_ne]
    · exact hcurrent
    · rintro rfl
      obtain ⟨-, -, -, row, hrow, -⟩ := (hs.devices _).signed x hcurrent
      rw [Enroll.fresh_device hsame hdevice] at hrow
      cases hrow
  | renewed hop hx hadm hsign hstore hafter =>
    dsimp only
    rw [update_of_ne]
    · exact hcurrent
    · rintro rfl
      obtain ⟨body, hop⟩ := hop
      refine hforeign _ body hop ?_
      rw [(Crypto.signed_of_signCSR hsign).1, agentID_of_admitted hadm]
  | @revoked _ _ d' _ _ _ hd hrevoke hafter =>
    dsimp only
    rw [update_of_ne]
    · exact hcurrent
    · rintro rfl
      exact hnot hd

namespace Agree

variable {s : System} {y : Certificate} {fleet : Fleet}

lemma shown (h : Agree d x s) {conn : Option ℕ} (hfresh : s.agent.Fresh conn)
    (hy : s.agent.shown conn = some y) : y = x := by
  unfold Credentials.shown at hy
  rcases hp : s.agent.provider with _ | p
  · rw [hp] at hy
    cases hy
  · have hpx := h.provider p hp
    rw [hp] at hy
    rcases conn with _ | i
    · cases hy
      exact hpx
    · have hconn := hfresh i rfl
      dsimp only at hy
      rw [hconn, hp] at hy
      cases hy
      exact hpx

lemma commonName (h : Agree d x s) : x.commonName = d :=
  ((h.lifecycle.devices d).signed x h.current).2.1

lemma keep (h : Agree d x s) (hlife : Lifecycle .univ fleet)
    (hcurrent : fleet.current d = some x) (conn : Option ℕ) (y : Certificate) :
    Agree d x ⟨fleet, s.agent.keep conn y⟩ := by
  cases conn with
  | none | some i => exact ⟨hlife, hcurrent, h.certFile, h.keyFile, h.provider⟩

lemma install (hlife : Lifecycle .univ fleet) (hcurrent : fleet.current d = some y)
    (a : Credentials) {io : SaveIo} (hcert : io.cert = .done) (hkey : io.key = .done)
    (hca : io.caChain) (hread : io.readable) : Agree d y ⟨fleet, a.install io y y.publicKey⟩ := by
  have hinstall : a.install io y y.publicKey =
      { a with certFile := some y, keyFile := some y.publicKey, provider := some y } := by
    simp [Credentials.install, Credentials.saveRenewal, Credentials.swap,
      Credentials.loadX509KeyPair, hcert, hkey, hca, hread]
  rw [hinstall]
  refine ⟨hlife, hcurrent, rfl, rfl, fun z hz => ?_⟩
  cases hz
  rfl

lemma renew (h : Agree d x s) {r : RenewTry} (hr : HandsOver s (.renew r : Event d)) :
    ∃ y, Agree d y (s.step K quota (.renew r : Event d)) := by
  obtain ⟨hdelivered, hcert, hkey, hca, hread, hfresh⟩ := hr
  rcases hp : r.presents s.agent with _ | ⟨y, key⟩
  · refine ⟨x, ?_⟩
    simp only [System.step, hp]
    exact h
  have hyx : y = x := h.shown hfresh (shown_of_presents hp)
  subst hyx
  have hlife := lifecycle_after quota h.lifecycle K.toCrypto (r.call K y key)
  have hout := wp_run (wp_renew_outcome K.toCrypto r.env (some y.client)
    (some { csr := K.csr key }) s.fleet.db) r.faults
  rcases hrun : (authenticate (Op.authTime r.env) (some y.client) fun who =>
    Renew.serveHTTP K.toCrypto r.env who (some { csr := K.csr key })).run r.faults s.fleet.db
    with ⟨reply, db'⟩
  rw [hrun] at hout
  have hreply : r.reply K y key s.fleet.db = reply := by
    simp only [RenewTry.reply, RenewTry.call, renew, hrun]
  have hrefused : ∀ n code msg, reply = .error n code msg →
      ∃ y, Agree d y (s.step K quota (.renew r : Event d)) := by
    rintro n code msg rfl
    refine ⟨y, ?_⟩
    simp only [System.step, hp, hreply]
    refine h.keep hlife ?_ _ _
    simp only [after, RenewTry.call, renew, hrun]
    exact h.current
  obtain ⟨n, code, msg, hreply', -⟩ | ⟨c, who, hc, hadm, hout⟩ := hout
  · exact hrefused n code msg hreply'
  cases hout with
  | refused => exact hrefused _ _ _ rfl
  | @renewed req z _ _ _ hbody hsign hstore hafter =>
    cases hbody
    cases hc
    have hkeyz : z.publicKey = key := by
      have hpub := (Crypto.signed_of_signCSR hsign).2.2
      rw [K.publicKey_csr] at hpub
      exact (some.inj hpub).symm
    have hname : z.commonName = d := by
      rw [(Crypto.signed_of_signCSR hsign).1, agentID_of_admitted hadm]
      exact h.commonName
    refine ⟨z, ?_⟩
    simp only [System.step, hp, hreply, hdelivered, if_true]
    subst hkeyz
    refine install hlife ?_ _ hcert hkey hca hread
    simp only [after, RenewTry.call, renew, hrun]
    rw [hname, update_self]

lemma step (h : Agree d x s) {e : Event d} (he : HandsOver s e) (hnot : ¬ e.Revokes s) :
    ∃ y, Agree d y (s.step K quota e) := by
  cases e with
  | start readable =>
    refine ⟨x, ?_⟩
    unfold System.step
    rcases hp : s.agent.provider with _ | p
    · refine ⟨h.lifecycle, h.current, h.certFile, h.keyFile, fun y hy => ?_⟩
      simp only [Credentials.loadX509KeyPair, h.certFile, h.keyFile] at hy
      split at hy
      · cases hy
        rfl
      · cases hy
    · exact h
  | stop =>
    refine ⟨x, h.lifecycle, h.current, h.certFile, h.keyFile, fun y hy => ?_⟩
    cases hy
  | close i => exact ⟨x, h.lifecycle, h.current, h.certFile, h.keyFile, h.provider⟩
  | renew r => exact h.renew he
  | checkin q =>
    refine ⟨x, ?_⟩
    rcases hy : s.agent.shown q.conn with _ | y
    · simp only [System.step, hy]
      exact h
    · simp only [System.step, hy]
      exact h.keep (lifecycle_after quota h.lifecycle K.toCrypto (q.call y)) h.current _ _
  | other o =>
    have hcurrent := current_of_step h.lifecycle h.current
      (fleetStep_after K.toCrypto quota o.call s.fleet) o.foreign
      fun hrevokes => hnot ⟨o, rfl, hrevokes⟩
    exact ⟨x, lifecycle_after quota h.lifecycle _ _, hcurrent, h.certFile, h.keyFile, h.provider⟩

lemma run (h : Agree d x s) {events : List (Event d)} (hevents : Steps K quota HandsOver s events)
    (hnot : Steps K quota (fun s e => ¬ e.Revokes s) s events) :
    ∃ y, Agree d y (s.run K quota events) := by
  refine (hevents.and hnot).invariant (I := fun s => ∃ x, Agree d x s) (fun s e he hs => ?_) ⟨x, h⟩
  obtain ⟨x, hx⟩ := hs
  exact hx.step he.1 he.2

lemma accepted (h : Agree d x s) {e : Event d} (he : HandsOver s e) {now : Time}
    (hy : e.request s = some (y, now)) (hfrom : y.notBefore ≤ now) (hto : now ≤ y.notAfter) :
    (admitted now y.client s.fleet.db).isSome := by
  have hyx : y = x := by
    cases e with
    | renew r =>
      obtain ⟨p, hp, hpy⟩ := map_eq_some_iff.mp hy
      cases hpy
      exact h.shown he.2.2.2.2.2 (shown_of_presents hp)
    | checkin q =>
      obtain ⟨p, hp, hpy⟩ := map_eq_some_iff.mp hy
      cases hpy
      exact h.shown he hp
    | start readable | stop | close i | other o => cases hy
  subst hyx
  refine h.lifecycle.admitted_of_current ?_ hfrom hto
  rw [h.commonName]
  exact h.current

end Agree

end

/-! ### Runs of an enrolled agent -/

/-- The device was issued the certificate last, in a run that started without certificates. -/
def IssuedLast (K : AgentCrypto) (quota : Option Defaults) (d : String) (x : Certificate)
    (fleet : Fleet) : Prop :=
  ∃ db calls, db.certs = .empty ∧ fleet = Fleet.run K.toCrypto quota { db := db } calls ∧
    fleet.current d = some x

def enrolledAgent (fleet : Fleet) (x : Certificate) : System :=
  { fleet, agent := { certFile := some x, keyFile := some x.publicKey } }

/-- **Renewal.** In every run of an enrolled agent in which the responses to renewals arrive and are
put to use, and in which requests do not go over connections opened with an older certificate,
renewals do not lock the agent out. -/
theorem neverLocksOut_of_handsOver (K : AgentCrypto) (quota : Option Defaults) (d : String)
    (x : Certificate) (fleet : Fleet) (events : List (Event d)) (hx : IssuedLast K quota d x fleet)
    (hevents : Steps K quota HandsOver (enrolledAgent fleet x) events) :
    NeverLocksOut K quota (enrolledAgent fleet x) events := by
  intro pre e mid e' post hsplit _ _ _ hnot y now hy hfrom hto
  subst hsplit
  obtain ⟨db, calls, hcerts, rfl, hcurrent⟩ := hx
  have hlife := (Lifecycle.empty hcerts).run K.toCrypto quota calls fun _ _ _ _ => trivial
  have hagree : Agree d x (enrolledAgent (Fleet.run K.toCrypto quota { db := db } calls) x) := by
    refine ⟨hlife, hcurrent, rfl, rfl, fun z hz => ?_⟩
    cases hz
  rw [Steps, Along.append] at hevents
  obtain ⟨z, hz⟩ := hagree.run hevents.1 hnot
  exact hz.accepted hevents.2.1 hy hfrom hto

namespace Runs

open Sample

def agentCrypto : AgentCrypto := { crypto with csr := id, publicKey_csr := fun _ => rfl }

def day : Time := 24 * 3600 * second

def enrolledFleet : Fleet := Fleet.run crypto none { db := unenrolled } (enrollAndRenew.take 1)

def renewal (delivered : Bool) : RenewTry :=
  { now := 61 * day
    key := some "new key"
    env := { env (61 * day) "b" with serial := some 6 }
    delivered }

def checkin (conn : Option ℕ) : CheckinTry :=
  { conn, env := env (62 * day) "c", body := { status := {} } }

def keptAlive : List (Event "dev_a") :=
  [.start true, .renew (renewal true), .checkin (checkin (some 0))]

def lost : List (Event "dev_a") :=
  [.start true, .renew (renewal false), .checkin (checkin none)]

def closed : List (Event "dev_a") :=
  [.start true, .renew (renewal true), .close 0, .checkin (checkin none)]

end Runs

open Runs Sample in
theorem closed_accepted : (admitted (62 * day) ({ issued 6 with
        notBefore := 61 * day, notAfter := 151 * day, publicKey := "new key" }).client
      (System.run agentCrypto none (enrolledAgent enrolledFleet (issued 5))
        (closed.take 3)).fleet.db).isSome := by
  have hlast : IssuedLast agentCrypto none "dev_a" (issued 5) enrolledFleet :=
    ⟨unenrolled, enrollAndRenew.take 1, rfl, rfl, by decide⟩
  have hsteps :
      Steps agentCrypto none HandsOver (enrolledAgent enrolledFleet (issued 5)) closed := by
    refine ⟨trivial, ⟨rfl, rfl, rfl, rfl, rfl, fun i hi => ?_⟩, trivial, fun i hi => ?_, trivial⟩
    · cases hi
    · cases hi
  refine neverLocksOut_of_handsOver agentCrypto none "dev_a" (issued 5) enrolledFleet closed hlast
    hsteps [.start true] (.renew (renewal true)) [.close 0] (.checkin (checkin none)) [] rfl
    ⟨_, rfl⟩ (by decide) ⟨rfl, trivial⟩ ⟨?_, ?_, ?_, trivial⟩ _ _ (by decide) (by decide)
    (by decide)
  · rintro ⟨o, ho, -⟩
    cases ho
  · rintro ⟨o, ho, -⟩
    cases ho
  · rintro ⟨o, ho, -⟩
    cases ho

open Runs Sample in
/-- Over the connection of the renewal, and after a lost response, it is refused. -/
theorem superseded_certificate_shown :
    ¬ NeverLocksOut agentCrypto none (enrolledAgent enrolledFleet (issued 5)) keptAlive ∧
      ¬ NeverLocksOut agentCrypto none (enrolledAgent enrolledFleet (issued 5)) lost := by
  have hrevokes : ∀ (s : System) (r : RenewTry), ¬ (Event.renew r : Event "dev_a").Revokes s := by
    rintro s r ⟨o, ho, -⟩
    cases ho
  have hstart : ∀ s : System, ¬ (Event.start true : Event "dev_a").Revokes s := by
    rintro s ⟨o, ho, -⟩
    cases ho
  constructor
  · intro h
    have haccepted := h [.start true] (.renew (renewal true)) [] (.checkin (checkin (some 0))) []
      rfl ⟨_, rfl⟩ (by decide) trivial ⟨hstart _, hrevokes _ _, trivial⟩ (issued 5) (62 * day)
      (by decide) (by decide) (by decide)
    exact absurd haccepted (by decide)
  · intro h
    have haccepted := h [.start true] (.renew (renewal false)) [] (.checkin (checkin none)) []
      rfl ⟨_, rfl⟩ (by decide) trivial ⟨hstart _, hrevokes _ _, trivial⟩ (issued 5) (62 * day)
      (by decide) (by decide) (by decide)
    exact absurd haccepted (by decide)

end Renewal

end Moebius
