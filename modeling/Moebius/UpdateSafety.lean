import Moebius.Update

/-!
What an update leaves on the disk.

An update installs exactly when everything it asks for is granted; otherwise the installed binary
stays and the staging file goes. The previous binary is written in place, so a copy that stops
half-way damages it, and a later rollback installs the damage.
-/

namespace Moebius.Update

open File

variable {β κ : Type} {C : Crypto β κ} {J : Codec PendingUpdate β} {A : Agent} {io : Io β}
  {jobID : String} {payload : Except String AgentUpdatePayload} {p : AgentUpdatePayload}
  {d : Disk β} {old new : List β}

structure Ready (A : Agent) (io : Io β) (p : AgentUpdatePayload) (d : Disk β) : Prop where
  version : p.version ≠ ""
  newer : ¬ (p.force = false ∧ A.version ≠ "dev" ∧ p.version ≤ A.version)
  platform : A.platform.isNone = false
  stat : io.stat = none
  current : d.binary ≠ none
  space : 0 < p.sizeBytes → checkDiskSpace io.statfs io.half p.sizeBytes = .ok ()
  url : p.downloadURL ≠ ""

/-- The bytes have the hash of the payload, and its signature under the key it names. -/
structure Genuine (C : Crypto β κ) (A : Agent) (io : Io β) (p : AgentUpdatePayload)
    (new : List β) : Prop where
  hash : C.hex (C.sha256 new) = p.sha256
  signature : ∃ key sig, fetchSigningKey C A io.client p.signatureKeyID = .ok key ∧
    C.decodeBase64 p.signature = .ok sig ∧ C.verify key (C.sha256 new) sig = true

/-- The server sends these bytes. -/
def Fetched.Delivers (answer : Fetched β) (body : List β) : Prop :=
  ∃ status, answer = .response status body ∧ (status = 200 ∨ status = 206)

/-- Everything an update that swaps `old` for `new` asks for. -/
structure Installs (C : Crypto β κ) (A : Agent) (io : Io β) (p : AgentUpdatePayload) (d : Disk β)
    (old new : List β) : Prop where
  ready : Ready A io p d
  current : d.binary = some old
  download : (io.client p.downloadURL).Delivers new
  save : io.save = .all
  declared : p.sha256 ≠ "" ∧ p.signature ≠ "" ∧ p.signatureKeyID ≠ ""
  genuine : Genuine C A io p new
  hash : io.hash = none
  read : io.read = none
  chmod : io.chmod = none
  backup : io.backup = {}
  rename : io.rename = none

/-! ### The stages -/

lemma preflight_eq_ok : preflight A io payload d = .ok p ↔ payload = .ok p ∧ Ready A io p d := by
  constructor
  · intro h
    unfold preflight at h
    split at h
    · cases h
    split at h
    · cases h
    rename_i q hversion
    split at h
    · cases h
    rename_i hnewer
    split at h
    · cases h
    rename_i hplatform
    split at h
    · cases h
    rename_i data hdata
    obtain ⟨hstat, hbinary⟩ := access_eq_ok.mp hdata
    split at h
    · cases h
    rename_i hspace
    split at h
    · cases h
    rename_i hurl
    cases h
    refine ⟨rfl, hversion, hnewer, Bool.eq_false_iff.mpr hplatform, hstat, by simp [hbinary], ?_,
      hurl⟩
    intro hpos
    rwa [if_pos hpos] at hspace
  · rintro ⟨rfl, h⟩
    obtain ⟨data, hbinary⟩ := Option.ne_none_iff_exists'.mp h.current
    have hspace : (if 0 < p.sizeBytes then checkDiskSpace io.statfs io.half p.sizeBytes
        else .ok ()) = .ok () := by
      split
      · rename_i hpos
        exact h.space hpos
      · rfl
    simp only [preflight, if_neg h.version, if_neg h.newer, h.platform,
      access_eq_ok.mpr ⟨h.stat, hbinary⟩, hspace, if_neg h.url]
    rfl

variable {answer : Fetched β} {path : String} {rio : RollbackIo}

lemma downloadFile_of_delivers (h : answer.Delivers new) {dest : File β} :
    downloadFile answer .all dest = (.ok (), some new) := by
  obtain ⟨status, rfl, hs⟩ := h
  have : ¬ (status ≠ 200 ∧ status ≠ 206) := by omega
  simp [downloadFile, if_neg this, Write.result, Write.file]

lemma delivers_of_downloadFile {save : Write} {dest f : File β}
    (h : downloadFile answer save dest = (.ok (), f)) :
    ∃ body, answer.Delivers body ∧ save = .all ∧ f = some body := by
  unfold downloadFile at h
  split at h
  · cases h
  · cases h
  · rename_i status body
    split at h
    · cases h
    · rename_i hs
      obtain ⟨hr, rfl⟩ := Prod.mk.inj h
      obtain rfl := Write.result_eq_ok.mp hr
      exact ⟨body, ⟨status, rfl, by omega⟩, rfl, rfl⟩

lemma verifySignature_eq_ok {staging : File β} {sigB64 keyID : String} :
    verifySignature C A io staging sigB64 keyID = .ok () ↔
      ∃ key data sig, fetchSigningKey C A io.client keyID = .ok key ∧
        io.read = none ∧ staging = some data ∧ C.decodeBase64 sigB64 = .ok sig ∧
        C.verify key (C.sha256 data) sig = true := by
  constructor
  · intro h
    unfold verifySignature at h
    split at h
    · cases h
    rename_i key hkey
    split at h
    · cases h
    rename_i data hdata
    obtain ⟨hread, hstaging⟩ := access_eq_ok.mp hdata
    split at h
    · cases h
    rename_i sig hsig
    split at h
    · cases h
    rename_i hverify
    exact ⟨key, data, sig, hkey, hread, hstaging, hsig, by simpa using hverify⟩
  · rintro ⟨key, data, sig, hkey, hread, hstaging, hsig, hverify⟩
    simp [verifySignature, hkey, access_eq_ok.mpr ⟨hread, hstaging⟩, hsig, hverify]

lemma verifyStaged_eq_ok : verifyStaged C A io p (some new) = .ok () ↔
      (p.sha256 ≠ "" ∧ p.signature ≠ "" ∧ p.signatureKeyID ≠ "") ∧ Genuine C A io p new ∧
        io.hash = none ∧ io.read = none ∧ io.chmod = none := by
  constructor
  · intro h
    unfold verifyStaged at h
    split at h
    · cases h
    rename_i hsha
    split at h
    · cases h
    rename_i actual hactual
    split at h
    · cases h
    rename_i hhash
    split at h
    · cases h
    rename_i hsigned
    split at h
    · cases h
    rename_i hverify
    split at h
    · cases h
    rename_i hchmod
    obtain ⟨key, data, sig, hkey, hread, hdata, hsig, hok⟩ := verifySignature_eq_ok.mp hverify
    cases hdata
    have herr : io.hash = none := by
      cases he : io.hash with
      | none => rfl
      | some err => simp [fileSHA256, he, access, Except.map] at hactual
    have hsum : C.hex (C.sha256 new) = actual := by
      simpa [fileSHA256, herr, access, Except.map] using hactual
    push Not at hsigned
    refine ⟨⟨hsha, hsigned.1, hsigned.2⟩, ⟨?_, key, sig, hkey, hsig, hok⟩, herr, hread, hchmod⟩
    rw [hsum]
    exact not_not.mp hhash
  · rintro ⟨⟨hsha, hsig, hkeyID⟩, ⟨hhash, key, sig, hkey, hdec, hok⟩, herr, hread, hchmod⟩
    have hverify : verifySignature C A io (some new) p.signature p.signatureKeyID = .ok () :=
      verifySignature_eq_ok.mpr ⟨key, new, sig, hkey, hread, rfl, hdec, hok⟩
    simp [verifyStaged, hsha, hsig, hkeyID, hverify, hchmod, fileSHA256, herr, access,
      Except.map, hhash]

lemma install_cases (hbinary : d.binary = some old) (hstaging : d.staging = some new) :
    (io.backup = {} ∧ io.rename = none ∧ install io d =
      (.ok (), { d with binary := some new, staging := none, previous := some old })) ∨
    ∃ err, install io d = (.error err,
      { d with previous := (io.backup.run io.notExist d.binary d.previous).2 }) := by
  unfold install
  split
  · rename_i err previous hrun
    exact .inr ⟨_, by rw [hrun]⟩
  · rename_i previous hrun
    have hok : (io.backup.run io.notExist d.binary d.previous).1 = .ok () := by rw [hrun]
    obtain ⟨-, hbackup⟩ := Copy.run_eq_ok.mp hok
    split
    · exact .inr ⟨_, by rw [hrun]⟩
    · rename_i data hdata
      obtain ⟨hrename, hdata⟩ := access_eq_ok.mp hdata
      rw [hbackup, hbinary, Copy.run_default] at hrun
      cases hrun
      cases hstaging.symm.trans hdata
      exact .inl ⟨hbackup, hrename, rfl⟩

def Disk.swapped (J : Codec PendingUpdate β) (A : Agent) (io : Io β) (jobID : String)
    (p : AgentUpdatePayload) (old new : List β) (d : Disk β) : Disk β :=
  { binary := some new, staging := none, previous := some old
    pending := io.writePending.file (J.encode (pendingUpdate A io.now jobID p)) d.pending }

inductive Outcome (C : Crypto β κ) (J : Codec PendingUpdate β) (A : Agent) (io : Io β)
    (jobID : String) (payload : Except String AgentUpdatePayload) (d : Disk β) :
    JobResultSubmission × Disk β → Prop
  /-- Nothing was downloaded. -/
  | refused (msg : String) (h : ∀ p, preflight A io payload d ≠ .ok p) :
      Outcome C J A io jobID payload d (failed msg, d)
  /-- The download was dropped before the backup was begun. -/
  | dropped (msg : String) (staging : File β) :
      Outcome C J A io jobID payload d (failed msg, removeStaging io { d with staging })
  | stuck (msg : String) (staging : File β) :
      Outcome C J A io jobID payload d (failed msg, removeStaging io
        { d with
          staging
          previous := (io.backup.run io.notExist d.binary d.previous).2 })
  | installed {p : AgentUpdatePayload} {old new : List β} (msg : String) (hp : payload = .ok p)
      (h : Installs C A io p d old new) :
      Outcome C J A io jobID payload d (restarting msg, d.swapped J A io jobID p old new)

theorem executeAgentUpdate_outcome (C : Crypto β κ) (J : Codec PendingUpdate β) (A : Agent)
    (io : Io β) (jobID : String) (payload : Except String AgentUpdatePayload) (d : Disk β) :
    Outcome C J A io jobID payload d (executeAgentUpdate C J A io jobID payload d) := by
  unfold executeAgentUpdate
  split
  · rename_i err herr
    exact .refused err (by simp [herr])
  rename_i p hp
  obtain ⟨hpayload, hready⟩ := preflight_eq_ok.mp hp
  obtain ⟨old, hold⟩ := Option.ne_none_iff_exists'.mp hready.current
  split
  · rename_i err staging _
    exact .dropped _ staging
  rename_i staging hdown
  obtain ⟨new, hdelivers, hsave, rfl⟩ := delivers_of_downloadFile hdown
  unfold applyStaged
  split
  · rename_i err _
    exact .dropped err (some new)
  rename_i hverified
  obtain ⟨hdeclared, hgenuine, hhash, hread, hchmod⟩ := verifyStaged_eq_ok.mp hverified
  rcases install_cases (d := { d with staging := some new }) hold rfl with
    ⟨hbackup, hrename, hi⟩ | ⟨err, hi⟩
  · rw [hi]
    exact .installed _ hpayload ⟨hready, hold, hdelivers, hsave, hdeclared, hgenuine, hhash, hread,
      hchmod, hbackup, hrename⟩
  · rw [hi]
    exact .stuck err (some new)

lemma executeAgentUpdate_of_installs (h : Installs C A io p d old new) :
    executeAgentUpdate C J A io jobID (.ok p) d =
      (restarting ("New binary installed, restarting into v" ++ p.version),
        d.swapped J A io jobID p old new) := by
  have hi : install io { d with staging := some new } =
      (.ok (), { d with binary := some new, staging := none, previous := some old }) := by
    simp [install, h.backup, h.current, h.rename, access]
  have hv : verifyStaged C A io p (some new) = .ok () :=
    verifyStaged_eq_ok.mpr ⟨h.declared, h.genuine, h.hash, h.read, h.chmod⟩
  simp only [executeAgentUpdate, preflight_eq_ok.mpr ⟨rfl, h.ready⟩, h.save,
    downloadFile_of_delivers h.download, applyStaged, hv, hi, Disk.swapped]

lemma rollback_error (h : d.previous = none) : ∃ err, rollback path rio d = (.error err, d) := by
  unfold rollback
  split
  · exact ⟨_, rfl⟩
  · rename_i data hdata
    rw [h] at hdata
    exact absurd (access_eq_ok.mp hdata).2 (by simp)

lemma rollback_cases (path : String) (rio : RollbackIo) (d : Disk β) :
    (∃ b, d.previous = some b ∧ rio.stat = none ∧ rio.rename = none ∧ rollback path rio d =
      (.ok (), removePending rio.removeFails { d with binary := some b, previous := none })) ∨
    (d.previous = none ∨ rio.stat ≠ none ∨ rio.rename ≠ none) ∧
      ∃ err, rollback path rio d = (.error err, d) := by
  cases hp : d.previous with
  | none => exact .inr ⟨.inl rfl, rollback_error hp⟩
  | some b =>
    cases hs : rio.stat with
    | some err => exact .inr ⟨.inr (.inl (by simp)), by simp [rollback, hp, hs, access]⟩
    | none =>
      cases hr : rio.rename with
      | some err =>
        exact .inr ⟨.inr (.inr (by simp)), by simp [rollback, hp, hs, hr, access]⟩
      | none => exact .inl ⟨b, rfl, rfl, rfl, by simp [rollback, hp, hs, hr, access]⟩

/-- The binary of `d` is back, its traces are gone, and there is no further way back. -/
structure RolledBack (path : String) (d d' : Disk β) : Prop where
  binary : d'.binary = d.binary
  previous : d'.previous = none
  pending : d'.pending = none
  last : ∀ rio : RollbackIo, ∃ err, rollback path rio d' = (.error err, d')

lemma rollback_of_swapped (hold : d.binary = some old) (hremove : rio.removeFails = false) :
    (∃ d', rollback path rio (d.swapped J A io jobID p old new) = (.ok (), d') ∧
      RolledBack path d d') ∨ (rio.stat ≠ none ∨ rio.rename ≠ none) ∧
      ∃ err, rollback path rio (d.swapped J A io jobID p old new) =
        (.error err, d.swapped J A io jobID p old new) := by
  rcases rollback_cases path rio (d.swapped J A io jobID p old new) with
    ⟨b, hb, -, -, hr⟩ | ⟨hcause, herr⟩
  · left
    refine ⟨_, hr, ?_, rfl, by rw [hremove]; rfl, fun rio' => rollback_error rfl⟩
    rw [hold]
    exact hb.symm
  · right
    exact ⟨hcause.resolve_left (by simp [Disk.swapped]), herr⟩

/-- What an update that reports `restarting` has done: the file that was downloaded is installed,
it is genuine, and every rollback that meets no failing operation brings the old bytes back. -/
def Reversible (C : Crypto β κ) (A : Agent) (io : Io β)
    (payload : Except String AgentUpdatePayload) (path : String) (d d' : Disk β) : Prop :=
  ∃ p old new, payload = .ok p ∧ d.binary = some old ∧
    (io.client p.downloadURL).Delivers new ∧ Genuine C A io p new ∧
    d'.binary = some new ∧ d'.previous = some old ∧
    ∀ rio : RollbackIo, rio.removeFails = false →
      (∃ d'', rollback path rio d' = (.ok (), d'') ∧ RolledBack path d d'') ∨
      (rio.stat ≠ none ∨ rio.rename ≠ none) ∧ ∃ err, rollback path rio d' = (.error err, d')

theorem update_verified_and_reversible (C : Crypto β κ) (J : Codec PendingUpdate β) (A : Agent)
    (io : Io β) (jobID : String) (payload : Except String AgentUpdatePayload) (path : String)
    (d : Disk β) (hremove : io.removeFails = false) :
    let r := executeAgentUpdate C J A io jobID payload d
    (r.1.status = "failed" ∨ r.1.status = "restarting") ∧
    (r.1.status = "failed" → r.2.binary = d.binary ∧
      ∀ p, preflight A io payload d = .ok p → r.2.staging = none) ∧
    (r.1.status = "restarting" → Reversible C A io payload path d r.2) := by
  intro r
  have hr := executeAgentUpdate_outcome C J A io jobID payload d
  change Outcome C J A io jobID payload d r at hr
  generalize r = r' at hr
  have hgone : ∀ d' : Disk β, (removeStaging io d').staging = none := by
    intro d'
    rw [removeStaging, hremove]
    rfl
  cases hr with
  | refused msg h => exact ⟨.inl rfl, fun _ => ⟨rfl, fun p hp => absurd hp (h p)⟩, by simp [failed]⟩
  | dropped msg staging
  | stuck msg staging => exact ⟨.inl rfl, fun _ => ⟨rfl, fun _ _ => hgone _⟩, by simp [failed]⟩
  | @installed p old new msg hp h =>
    refine ⟨.inr rfl, by simp [restarting], fun _ => ?_⟩
    exact ⟨p, old, new, hp, h.current, h.download, h.genuine, rfl, rfl,
      fun rio hrio => rollback_of_swapped h.current hrio⟩

theorem sample_update_reversible :
    Reversible Sample.crypto Sample.agent Sample.io (.ok Sample.payload) "agent.previous"
      Sample.disk (executeAgentUpdate Sample.crypto Sample.codec Sample.agent Sample.io "job_j"
        (.ok Sample.payload) Sample.disk).2 :=
  (update_verified_and_reversible Sample.crypto Sample.codec Sample.agent Sample.io "job_j"
    (.ok Sample.payload) "agent.previous" Sample.disk rfl).2.2 (by decide)

end Moebius.Update
