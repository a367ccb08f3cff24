import Moebius.Pki

/-!
Renewal of an agent's certificate: the new certificate is stored and the ones before it are
superseded in one transaction.
-/

namespace Moebius.Renew

open Proc

structure RenewRequest where
  csr : String

structure RenewResponse where
  certificate : Certificate
  caChain : String

variable (C : Crypto) (env : Env)

def certRow (x : Certificate) : CertRow where
  id := env.newCertificateID 0
  deviceID := x.commonName
  serialNumber := x.serialHex
  fingerprint := C.fingerprint x
  issuedAt := env.now
  expiresAt := env.now + defaultCertValidity

/-- The transaction; the answer is the number of superseded certificates. -/
def store (C : Crypto) (env : Env) (x : Certificate) :
    Proc Db (Except (Reply RenewResponse) ℕ) := do
  let row := certRow C env x
  if ← attempt (Db.insertCert row) then
    match ← query (fun db => some (db.supersedeCerts env.now x.commonName row.id)) with
    | none => pure (.error (.err 500 "failed to store certificate"))
    | some n =>
      if ← commit then pure (.ok n)
      else pure (.error (.err 500 "failed to store certificate"))
  else pure (.error (.err 500 "failed to store certificate"))

def sign (agentID : String) (req : RenewRequest) : Option Certificate :=
  C.signCSR (env.clock 5) env.serial req.csr agentID defaultCertValidity

def serveHTTP (who : AgentIdentity) (body : Option RenewRequest) : Proc Db (Reply RenewResponse) :=
  if who.agentID = "" then pure (.err 401 "agent identity required")
  else
    match body with
    | none => pure (.err 400 "invalid request body")
    | some req =>
      if req.csr = "" then pure (.err 400 "csr is required")
      else
        match sign C env who.agentID req with
        | none => pure (.err 400 "invalid CSR")
        | some x => do
          match ← transaction env.txFaults (store C env x)
              (.err 500 "failed to store certificate") with
          | .error r => pure r
          | .ok n => do
            logAction env who.tenantID who.agentID "agent" "cert.renew" "agent_certificate"
              (env.newCertificateID 0)
              [("cert_serial", x.serialHex), ("superseded_certs", toString n),
                ("revocation_reason", "superseded_by_renewal")]
            pure (.ok 200 { certificate := x, caChain := C.caChainPEM })

end Moebius.Renew
