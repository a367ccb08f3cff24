import Moebius.Handler
import Moebius.Hex

/-!
Agent certificates.

The CA signs what an agent requests for the agent's own identifier, with a random serial number
and to the second. What PEM, X.509 and SHA-256 do to the bytes is left open.
-/

namespace Moebius

structure Certificate where
  serialNumber : ℕ
  commonName : String
  notBefore : Time
  notAfter : Time
  publicKey : String
  deriving DecidableEq

structure Crypto where
  /-- The key of a signing request: the text has to be PEM, a well-formed request, signed by the
  key it carries, and the key has to be on P-256. -/
  publicKey : String → Option String
  fingerprint : Certificate → String
  hashToken : String → String
  caChainPEM : String

/-- X.509 keeps whole seconds. -/
def wholeSeconds (t : Time) : Time := t - t % second

def defaultCertValidity : Time := 90 * 24 * 3600 * second

/-- `SignCSR`; `now` is its own clock reading. -/
def Crypto.signCSR (C : Crypto) (now : Time) (serial : Option ℕ) (csr agentID : String)
    (validity : Time) : Option Certificate := do
  let publicKey ← C.publicKey csr
  let serialNumber ← serial
  return {
    serialNumber
    commonName := agentID
    notBefore := wholeSeconds now
    notAfter := wholeSeconds (now + validity)
    publicKey }

/-- The serial number as it is stored and looked up. -/
def Certificate.serialHex (x : Certificate) : String := Hex.encode (Hex.bytes x.serialNumber)

def Certificate.client (x : Certificate) : ClientCert :=
  { commonName := x.commonName
    serialNumber := x.serialHex
    notBefore := x.notBefore
    notAfter := x.notAfter }

lemma Crypto.signed_of_signCSR {C : Crypto} {now : Time} {serial : Option ℕ}
    {csr agentID : String} {validity : Time} {x : Certificate}
    (h : C.signCSR now serial csr agentID validity = some x) :
    x.commonName = agentID ∧ serial = some x.serialNumber ∧ C.publicKey csr = some x.publicKey := by
  unfold signCSR at h
  rcases hkey : C.publicKey csr with _ | key
  · simp [hkey] at h
  rcases serial with _ | n
  · simp [hkey] at h
  · simp only [hkey, Option.bind_eq_bind, Option.bind_some, Option.pure_def] at h
    cases h
    exact ⟨rfl, rfl, rfl⟩

end Moebius
