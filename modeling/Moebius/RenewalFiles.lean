import Moebius.FileOps
import Moebius.Renewal

/-!
How a renewed certificate gets into its files.

`SaveRenewal` overwrites the certificate, then the key, then the chain, each in its place. Between
the first byte of the certificate and the last one of the key the two files belong to different
certificates, or one of them is cut off: whatever stops the agent there leaves it with files it
cannot load. For the files it makes no difference whether a write fails or the process stops in it:
either way the file has not been opened yet, or holds a first part of the data.
-/

namespace Moebius.Renewal

open Write

variable {β : Type}

abbrev Files (β : Type) := String → File β

structure Result (β : Type) where
  certPEM : List β
  keyPEM : List β
  caChainPEM : List β

/-- Three different files. -/
structure Paths where
  cert : String
  key : String
  ca : String
  cert_ne_key : cert ≠ key
  cert_ne_ca : cert ≠ ca
  key_ne_ca : key ≠ ca

structure Writes where
  cert : Write := .all
  key : Write := .all
  ca : Write := .all

/-- Files written one after the other, up to the first error. -/
def writeFiles (d : Files β) : List (String × List β × Write) → Except String Unit × Files β
  | [] => (.ok (), d)
  | (path, data, w) :: rest =>
    let d' := Function.update d path (w.file data (d path))
    match w.result ("write " ++ path ++ ": ") ("write " ++ path ++ ": ") with
    | .error err => (.error err, d')
    | .ok () => writeFiles d' rest

def saveFiles (P : Paths) (r : Result β) (w : Writes) (d : Files β) :
    Except String Unit × Files β :=
  writeFiles d [(P.cert, r.certPEM, w.cert), (P.key, r.keyPEM, w.key), (P.ca, r.caChainPEM, w.ca)]

section

variable (P : Paths) (r : Result β) (w : Writes) (d : Files β)

lemma saveFiles_cert : (saveFiles P r w d).2 P.cert = w.cert.file r.certPEM (d P.cert) := by
  obtain ⟨cert, key, ca⟩ := w
  cases cert <;> cases key <;>
    simp [saveFiles, writeFiles, result, file, P.cert_ne_key]
  cases ca <;> simp [P.cert_ne_key, P.cert_ne_ca]

lemma saveFiles_key : (saveFiles P r w d).2 P.key =
    if w.cert = .all then w.key.file r.keyPEM (d P.key) else d P.key := by
  obtain ⟨cert, key, ca⟩ := w
  cases cert <;> cases key <;>
    simp [saveFiles, writeFiles, result, file, P.cert_ne_key.symm]
  cases ca <;> simp [P.key_ne_ca]

end

/-! ### The pair on disk -/

/-- The certificate and the key are both the old ones or both the new ones. -/
def Paired (P : Paths) (r : Result β) (d d' : Files β) : Prop :=
  d' P.cert = d P.cert ∧ d' P.key = d P.key ∨
    d' P.cert = some r.certPEM ∧ d' P.key = some r.keyPEM

instance [DecidableEq β] (P : Paths) (r : Result β) (d d' : Files β) :
    Decidable (Paired P r d d') :=
  inferInstanceAs (Decidable (_ ∧ _ ∨ _ ∧ _))

/-- The certificate has not been opened, or it is written and so is all of the key. -/
def Writes.Together (r : Result β) (w : Writes) : Prop :=
  (∃ err, w.cert = .refused err) ∨
    w.cert = .all ∧ ∀ old : File β, w.key.file r.keyPEM old = some r.keyPEM

variable {r : Result β} {w : Writes}

lemma paired_of_together (h : w.Together r) (P : Paths) (d : Files β) :
    Paired P r d (saveFiles P r w d).2 := by
  unfold Paired
  rw [saveFiles_cert, saveFiles_key]
  rcases h with ⟨err, hcert⟩ | ⟨hcert, hkey⟩
  · rw [hcert]
    exact .inl ⟨rfl, rfl⟩
  · rw [hcert]
    exact .inr ⟨rfl, hkey _⟩

lemma together_of_paired {P : Paths} {d : Files β}
    (hcert : ∀ old, d P.cert = some old → ¬ old <+: r.certPEM) (hkey : d P.key ≠ some r.keyPEM)
    (h : Paired P r d (saveFiles P r w d).2) : w.Together r := by
  unfold Paired at h
  rw [saveFiles_cert, saveFiles_key] at h
  have hold : ∀ n, some (r.certPEM.take n) ≠ d P.cert := fun n he =>
    hcert _ he.symm ⟨_, List.take_append_drop n _⟩
  cases hw : w.cert with
  | refused err => exact .inl ⟨err, hw⟩
  | stopped n err =>
    rw [hw] at h
    rcases h with ⟨hsame, -⟩ | ⟨-, hnew⟩
    · exact absurd hsame (hold n)
    · exact absurd hnew hkey
  | all =>
    refine .inr ⟨hw, fun old => ?_⟩
    rw [hw] at h
    rcases h with ⟨hsame, -⟩ | ⟨-, hnew⟩
    · refine absurd hsame ?_
      have hwhole := hold r.certPEM.length
      rwa [List.take_length] at hwhole
    · cases hk : w.key with
      | refused err =>
        rw [hk] at hnew
        exact absurd hnew hkey
      | stopped n err =>
        rw [hk] at hnew
        exact hnew
      | all => rfl

/-- What the files decode to: the certificate, and the public half of the key. -/
structure Pem (β : Type) where
  cert : List β → Option Certificate
  key : List β → Option String

variable (K : Pem β) (P : Paths) (d : Files β)

/-- The files as the agent reads them when it starts. -/
def credentials : Credentials :=
  { certFile := (d P.cert).bind K.cert, keyFile := (d P.key).bind K.key }

/-- The next start gets a certificate out of the files. -/
def Loads : Prop :=
  ((credentials K P d).loadX509KeyPair true).isSome
  deriving Decidable

/-- **When a renewal leaves a pair.** If a write fails or the agent is stopped before the
certificate is touched or after the key is written, the two files are a pair, and can be loaded if
both pairs can. Unless the old files happen to be first parts of the new ones, no other end of the
writes leaves a pair. -/
theorem paired_iff_together (K : Pem β) (P : Paths) (d : Files β) (r : Result β) (w : Writes) :
    (w.Together r → Paired P r d (saveFiles P r w d).2 ∧
      (Loads K P d → (∀ d', d' P.cert = some r.certPEM → d' P.key = some r.keyPEM → Loads K P d') →
        Loads K P (saveFiles P r w d).2)) ∧
    ((∀ old, d P.cert = some old → ¬ old <+: r.certPEM) → d P.key ≠ some r.keyPEM →
      (Paired P r d (saveFiles P r w d).2 ↔ w.Together r)) := by
  refine ⟨fun h => ?_, fun hcert hkey =>
    ⟨together_of_paired hcert hkey, fun h => paired_of_together h P d⟩⟩
  have hpaired := paired_of_together h P d
  refine ⟨hpaired, fun hold hnew => ?_⟩
  rcases hpaired with ⟨hcert, hkey⟩ | ⟨hcert, hkey⟩
  · unfold Loads credentials
    rwa [hcert, hkey]
  · exact hnew _ hcert hkey

namespace HalfRenewed

def paths : Paths where
  cert := "client.crt"
  key := "client.key"
  ca := "ca.crt"
  cert_ne_key := by decide
  cert_ne_ca := by decide
  key_ne_ca := by decide

/-- A key pair is a number, and both files begin with it. -/
def pem : Pem ℕ where
  cert := fun data => data.head?.map fun n => { Sample.issued 5 with publicKey := toString n }
  key := fun data => data.head?.map toString

def oldFiles : Files ℕ := fun path =>
  if path = "client.crt" ∨ path = "client.key" then some [1] else none

def renewed : Result ℕ := { certPEM := [2], keyPEM := [2], caChainPEM := [] }

end HalfRenewed

open HalfRenewed in
theorem pair_of_done : Paired paths renewed oldFiles (saveFiles paths renewed {} oldFiles).2 ∧
      Loads pem paths (saveFiles paths renewed {} oldFiles).2 ∧
      ¬ (⟨.all, .stopped 0 "", .all⟩ : Writes).Together renewed := by
  obtain ⟨hpaired, hloads⟩ :=
    (paired_iff_together pem paths oldFiles renewed {}).1 (.inr ⟨rfl, fun _ => rfl⟩)
  refine ⟨hpaired, hloads (by decide) fun d' hcert hkey => ?_, fun h => ?_⟩
  · unfold Loads credentials
    rw [hcert, hkey]
    decide
  · have hiff := (paired_iff_together pem paths oldFiles renewed ⟨.all, .stopped 0 "", .all⟩).2
      (fun old h => by cases h; decide) (by decide)
    exact absurd (hiff.mpr h) (by decide)

open HalfRenewed in
/-- The old pair can be loaded. When the key cannot be opened after the certificate has been
written, or the agent is stopped when it has truncated the certificate, neither pair is there and
the agent does not start again. -/
theorem half_renewed : Loads pem paths oldFiles ∧
      ∀ w ∈ [({ key := .refused "no space left" } : Writes), { cert := .stopped 0 "stopped" }],
        ¬ Paired paths renewed oldFiles (saveFiles paths renewed w oldFiles).2 ∧
          ¬ Loads pem paths (saveFiles paths renewed w oldFiles).2 := by
  decide

end Moebius.Renewal
