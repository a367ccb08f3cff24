import Moebius.CheckinEffect
import Moebius.Identity
import Moebius.Inet

/-!
Client certificates forwarded by a proxy.

A request that comes without a TLS client certificate may carry one in its `X-Client-Cert` header.
The router takes the header off requests from elsewhere than the trusted proxies, if it has a list
of them; the mTLS middleware behind it honours whatever header is left.
-/

namespace Moebius.Proxy

open Inet Option

abbrev Bytes := List UInt8

structure Request where
  /-- The certificate of the TLS connection. -/
  peer : Option ClientCert := none
  remoteAddr : String
  /-- The values of the header `X-Client-Cert`. -/
  clientCert : List Bytes := []

/-- `r.Header.Get`: the first value, if there is one. -/
def Request.header (r : Request) : Bytes := r.clientCert.headD []

def Request.delHeader (r : Request) : Request := { r with clientCert := [] }

structure ProxyCertSanitizer where
  trusted : List IPNet

/-- The loop of `NewProxyCertSanitizer` over the entries. -/
def appendNetworks : List (List Char) → List IPNet → Option (List IPNet)
  | [], trusted => some trusted
  | raw :: rest, trusted =>
    if trimSpace raw = [] then appendNetworks rest trusted
    else
      match parseCIDR (trimSpace raw) with
      | none => none
      | some c => appendNetworks rest (trusted ++ [c.network])

def newProxyCertSanitizer (cidrs : String) : Option ProxyCertSanitizer :=
  (appendNetworks (cidrs.toList.splitOn ',') []).map .mk

/-- The address of the sender; there may be no port. -/
def remoteIP (remoteAddr : String) : Option Addr :=
  match splitHostPort remoteAddr.toList with
  | some (host, _) => parseIP host
  | none => parseIP remoteAddr.toList

namespace ProxyCertSanitizer

variable (s : ProxyCertSanitizer)

def isTrusted (remoteAddr : String) : Bool :=
  match remoteIP remoteAddr with
  | none => false
  | some ip => s.trusted.any fun network => network.contains ip

def handler (r : Request) : Request :=
  if r.header ≠ [] ∧ ¬ s.isTrusted r.remoteAddr then r.delHeader else r

end ProxyCertSanitizer

def unhex (c : UInt8) : Option UInt8 :=
  if 48 ≤ c ∧ c ≤ 57 then some (c - 48)
  else if 97 ≤ c ∧ c ≤ 102 then some (c - 97 + 10)
  else if 65 ≤ c ∧ c ≤ 70 then some (c - 65 + 10)
  else none

/-- `url.QueryUnescape`: `%` and two digits are a byte, `+` is a space. -/
def queryUnescape : Bytes → Option Bytes
  | [] => some []
  | c :: rest =>
    if c = 37 then
      match rest with
      | a :: b :: rest' => do
        let hi ← unhex a
        let lo ← unhex b
        let out ← queryUnescape rest'
        return (hi * 16 + lo) :: out
      | _ => none
    else (queryUnescape rest).map fun out => (if c = 43 then 32 else c) :: out

/-- The CA of the server: `verify` finds the certificate in a PEM text and checks, at the given
time, that the CA has issued it for clients. -/
structure CertPool where
  verify : Time → Bytes → Option ClientCert

structure RouterConfig where
  ca : Option CertPool
  trustedProxyCIDRs : String

def certFromHeader (pool : CertPool) (verifiedAt : Time) (r : Request) : Option ClientCert :=
  if r.header = [] then none
  else pool.verify verifiedAt ((queryUnescape r.header).getD r.header)

variable (ca : Option CertPool) (cfg : RouterConfig) (cidrs : String) (verifiedAt : Time)
  (r : Request)

/-- The certificate `MTLSMiddleware.Handler` goes by. -/
def clientCertificate : Option ClientCert :=
  match r.peer, ca with
  | some c, _ => some c
  | none, some pool => certFromHeader pool verifiedAt r
  | none, none => none

def sanitize : Request :=
  if cidrs = "" then r
  else
    match newProxyCertSanitizer cidrs with
    | none => r
    | some s => s.handler r

def agentRoute {β : Type} (cfg : RouterConfig) (verifiedAt now : Time) (r : Request)
    (next : AgentIdentity → Proc Db (Reply β)) : Proc Db (Reply β) :=
  authenticate now (clientCertificate cfg.ca verifiedAt (sanitize cfg.trustedProxyCIDRs r)) next

def authenticatedAs (now : Time) (r : Request) (db : Db) : Option AgentIdentity :=
  match ((agentRoute cfg verifiedAt now r fun who => pure (.ok 200 who)).run [] db).1 with
  | .ok _ who => some who
  | .error _ _ _ => none

def trustedRanges : Option (List Cidr) :=
  (((cidrs.toList.splitOn ',').map trimSpace).filter (· ≠ [])).mapM parseCIDR

def FromTrusted (remoteAddr : String) : Prop :=
  ∃ ranges, trustedRanges cidrs = some ranges ∧ ∃ a, remoteIP remoteAddr = some a ∧
    ∃ c ∈ ranges, c.Includes a

/-- A header is honoured only if it comes from a trusted proxy. -/
def HeaderOnlyFromTrusted : Prop :=
  ∀ verifiedAt now db, verifiedAt ≤ now → r.peer = none →
    (authenticatedAs cfg verifiedAt now r db).isSome →
    FromTrusted cfg.trustedProxyCIDRs r.remoteAddr

/-- The request brings a certificate in its header and none of its own. -/
def Forwards : Prop :=
  r.peer = none ∧ ∃ pool, ca = some pool ∧ ∃ verifiedAt now c, verifiedAt ≤ now ∧
    certFromHeader pool verifiedAt r = some c ∧ c.commonName ≠ "" ∧ c.notBefore ≤ now ∧
    now ≤ c.notAfter

lemma appendNetworks_eq {entries : List (List Char)} {trusted : List IPNet} :
    appendNetworks entries trusted =
      (((entries.map trimSpace).filter (· ≠ [])).mapM parseCIDR).map fun ranges =>
        trusted ++ ranges.map Cidr.network := by
  induction entries generalizing trusted with
  | nil => simp [appendNetworks]
  | cons raw rest ih =>
    rw [appendNetworks]
    by_cases hraw : trimSpace raw = []
    · rw [if_pos hraw, ih]
      simp [hraw]
    · have hfilter : ((raw :: rest).map trimSpace).filter (· ≠ []) =
          trimSpace raw :: (rest.map trimSpace).filter (· ≠ []) := by simp [hraw]
      rw [if_neg hraw, hfilter, List.mapM_cons]
      rcases hparse : parseCIDR (trimSpace raw) with _ | c
      · rfl
      · dsimp only
        rw [ih]
        rcases ((rest.map trimSpace).filter (· ≠ [])).mapM parseCIDR with _ | ranges
        · rfl
        · simp

lemma newProxyCertSanitizer_eq {cidrs : String} : newProxyCertSanitizer cidrs =
      (trustedRanges cidrs).map fun ranges => ⟨ranges.map Cidr.network⟩ := by
  rw [newProxyCertSanitizer, appendNetworks_eq, trustedRanges, map_map]
  rfl

variable {cidrs : String} {ranges : List Cidr} {r : Request} {remoteAddr : String}
  {cfg : RouterConfig}

lemma isTrusted_iff (h : trustedRanges cidrs = some ranges) :
    (ProxyCertSanitizer.mk (ranges.map Cidr.network)).isTrusted remoteAddr = true ↔
      FromTrusted cidrs remoteAddr := by
  unfold ProxyCertSanitizer.isTrusted FromTrusted
  rcases hip : remoteIP remoteAddr with _ | a
  · simp
  · simp only [List.any_map, List.any_eq_true, Function.comp, contains_network]
    constructor
    · rintro ⟨c, hc, hincludes⟩
      exact ⟨ranges, h, a, rfl, c, hc, hincludes⟩
    · rintro ⟨ranges', h', a', ha', c, hc, hincludes⟩
      cases ha'
      cases h.symm.trans h'
      exact ⟨c, hc, hincludes⟩

/-! ### Requests -/

lemma authenticatedAs_eq {verifiedAt now : Time} {db : Db} :
    authenticatedAs cfg verifiedAt now r db =
      (clientCertificate cfg.ca verifiedAt (sanitize cfg.trustedProxyCIDRs r)).bind
        fun c => admitted now c db := by
  unfold authenticatedAs agentRoute
  rcases clientCertificate cfg.ca verifiedAt (sanitize cfg.trustedProxyCIDRs r) with _ | c
  · rfl
  rw [bind_some]
  rcases hadm : admitted now c db with _ | who
  · obtain ⟨n, code, msg, hrun⟩ := run_authenticate_refused _ [] (.inl hadm)
    rw [hrun]
  · rw [run_authenticate hadm rfl]
    rfl

lemma sanitize_of_unconfigured (h : ¬ (cidrs ≠ "" ∧ (trustedRanges cidrs).isSome)) :
    sanitize cidrs r = r := by
  unfold sanitize
  split
  · rfl
  · rename_i hne
    rcases hranges : trustedRanges cidrs with _ | ranges
    · rw [newProxyCertSanitizer_eq, hranges]
      rfl
    · exact absurd ⟨hne, by rw [hranges]; rfl⟩ h

lemma not_fromTrusted (h : ¬ (cidrs ≠ "" ∧ (trustedRanges cidrs).isSome)) :
    ¬ FromTrusted cidrs remoteAddr := by
  rintro ⟨ranges, hranges, a, -, c, hc, -⟩
  by_cases hempty : cidrs = ""
  · subst hempty
    have hnil : trustedRanges "" = some [] := by decide
    cases hnil.symm.trans hranges
    cases hc
  · exact h ⟨hempty, by rw [hranges]; rfl⟩

lemma sanitize_cases : sanitize cidrs r = r ∨ sanitize cidrs r = r.delHeader := by
  unfold sanitize ProxyCertSanitizer.handler
  split
  · exact .inl rfl
  split
  · exact .inl rfl
  split
  · exact .inr rfl
  · exact .inl rfl

lemma header_of_authenticated {verifiedAt now : Time} {db : Db} (hpeer : r.peer = none)
    (h : (authenticatedAs cfg verifiedAt now r db).isSome) :
    sanitize cfg.trustedProxyCIDRs r = r ∧ ∃ pool, cfg.ca = some pool ∧ ∃ c,
      certFromHeader pool verifiedAt r = some c ∧ (admitted now c db).isSome := by
  rw [authenticatedAs_eq] at h
  obtain ⟨who, hwho⟩ := isSome_iff_exists.mp h
  obtain ⟨c, hc, hadm⟩ := bind_eq_some_iff.mp hwho
  have hsome : (admitted now c db).isSome := by
    rw [hadm]
    rfl
  unfold clientCertificate at hc
  rcases sanitize_cases with hs | hs
  · rw [hs, hpeer] at hc
    rcases hca : cfg.ca with _ | pool
    · rw [hca] at hc
      cases hc
    · rw [hca] at hc
      exact ⟨hs, pool, rfl, c, hc, hsome⟩
  · rw [hs] at hc
    have hpeer' : r.delHeader.peer = none := hpeer
    rw [hpeer'] at hc
    rcases hca : cfg.ca with _ | pool
    · rw [hca] at hc
      cases hc
    · rw [hca] at hc
      cases hc

lemma fromTrusted_of_sanitize (hne : cidrs ≠ "") (hranges : trustedRanges cidrs = some ranges)
    (hheader : r.header ≠ []) (h : sanitize cidrs r = r) : FromTrusted cidrs r.remoteAddr := by
  rw [← isTrusted_iff hranges]
  by_contra hnot
  have hdel : sanitize cidrs r = r.delHeader := by
    rw [sanitize, if_neg hne, newProxyCertSanitizer_eq, hranges]
    exact if_pos ⟨hheader, hnot⟩
  rw [hdel] at h
  have hheader' : r.delHeader.header = [] := rfl
  rw [h] at hheader'
  exact hheader hheader'

/-- A database that knows the certificate. -/
def knows (c : ClientCert) : Db where
  devices := ⟨[{ id := c.commonName, tenantID := "" }], List.nodup_singleton _⟩
  certs := ⟨[{ id := "", deviceID := c.commonName, serialNumber := c.serialNumber, fingerprint := ""
               issuedAt := c.notBefore, expiresAt := c.notAfter }], List.nodup_singleton _⟩

lemma admitted_knows {c : ClientCert} {now : Time} (hname : c.commonName ≠ "")
    (hfrom : c.notBefore ≤ now) (hto : now ≤ c.notAfter) : (admitted now c (knows c)).isSome := by
  have hrow : (knows c).devices.get? c.commonName =
      some { id := c.commonName, tenantID := "" } := by
    simp [knows, Table.get?]
  have hserials : ((knows c).certs.rows.map (·.serialNumber)).Nodup := List.nodup_singleton _
  rw [admitted_of_rows hserials hname hfrom hto hrow DeviceStatus.noConfusion
    (List.mem_singleton.mpr rfl) rfl rfl rfl]
  rfl

/-- **Forwarded certificates.** A header is honoured from trusted proxies only exactly when the list
of proxies is not empty and all of it can be read, or when there is no certificate in the header
that could be honoured. -/
theorem headerOnlyFromTrusted_iff (cfg : RouterConfig) (r : Request) : HeaderOnlyFromTrusted cfg r ↔
      (cfg.trustedProxyCIDRs ≠ "" ∧ (trustedRanges cfg.trustedProxyCIDRs).isSome) ∨
        ¬ Forwards cfg.ca r := by
  constructor
  · intro h
    by_contra hnot
    push Not at hnot
    obtain ⟨hconfigured, hpeer, pool, hca, verifiedAt, now, c, hle, hc, hname, hfrom, hto⟩ := hnot
    have hunconfigured : ¬ (cfg.trustedProxyCIDRs ≠ "" ∧
        (trustedRanges cfg.trustedProxyCIDRs).isSome) := fun hboth => hconfigured hboth.1 hboth.2
    refine not_fromTrusted hunconfigured (h verifiedAt now (knows c) hle hpeer ?_)
    have hcert : clientCertificate cfg.ca verifiedAt r = some c := by
      simp only [clientCertificate, hpeer, hca, hc]
    rw [authenticatedAs_eq, sanitize_of_unconfigured hunconfigured, hcert, bind_some]
    exact admitted_knows hname hfrom hto
  · intro h verifiedAt now db hle hpeer hauth
    obtain ⟨hsanitize, pool, hca, c, hc, hadm⟩ := header_of_authenticated hpeer hauth
    have hheader : r.header ≠ [] := by
      intro hempty
      rw [certFromHeader, if_pos hempty] at hc
      cases hc
    rcases h with ⟨hne, hranges⟩ | hforwards
    · obtain ⟨ranges, hranges⟩ := isSome_iff_exists.mp hranges
      exact fromTrusted_of_sanitize hne hranges hheader hsanitize
    · obtain ⟨who, hwho⟩ := isSome_iff_exists.mp hadm
      have hrows := admits_of_admitted hwho
      exact absurd ⟨hpeer, pool, hca, verifiedAt, now, c, hle, hc, hrows.name, hrows.notBefore,
        hrows.notAfter⟩ hforwards

namespace Spoofing

open Sample

def pool : CertPool where
  verify _ pem := if pem = [67] then some (cert "d") else none

def stranger : Request := { remoteAddr := "203.0.113.9:4711", clientCert := [[67]] }

end Spoofing

open Spoofing Sample in
/-- With an empty list, and with one that cannot be read, a stranger is authenticated. -/
theorem stranger_authenticated : ¬ HeaderOnlyFromTrusted ⟨some pool, ""⟩ stranger ∧
      ¬ HeaderOnlyFromTrusted ⟨some pool, "10.0.0.0/8, 10.0.0.0/33"⟩ stranger := by
  constructor
  · intro h
    obtain ⟨ranges, hranges, a, -, c, hc, -⟩ := h 1 1 db le_rfl rfl (by decide)
    have hnil : trustedRanges "" = some [] := by decide
    cases hnil.symm.trans hranges
    cases hc
  · intro h
    obtain ⟨ranges, hranges, -⟩ := h 1 1 db le_rfl rfl (by decide)
    have hnone : trustedRanges "10.0.0.0/8, 10.0.0.0/33" = none := by decide
    cases hnone.symm.trans hranges

end Moebius.Proxy
