import Moebius.FileOps
import Moebius.LineLog
import Moebius.Models

/-!
How the agent replaces its own binary.

Four files take part: the installed binary, the staging file a download goes to, the previous
binary, and the note about the pending update that the restarted agent checks itself against.
Hashes, signatures and the encodings of keys and notes are parameters, as are the answers of the
network and the way each operation on a file ends.
-/

namespace Moebius.Update

variable {β κ : Type}

inductive Fetched (β : Type)
  /-- No request could be made of the URL. -/
  | badURL (err : String)
  | unreachable (err : String)
  | response (status : ℕ) (body : List β)

structure Crypto (β κ : Type) where
  sha256 : List β → List β
  hex : List β → String
  decodeBase64 : String → Except String (List β)
  /-- The field `public_key` of a response. -/
  publicKeyField : List β → Except String String
  decodePEM : String → Option (List β)
  /-- The key, unless it is of another kind. -/
  parsePKIX : List β → Except String (Option κ)
  verify : κ → List β → List β → Bool
  /-- Bytes as the text of a message. -/
  text : List β → String

/-- A threshold as the floating-point computations with it see it. -/
structure Threshold where
  scale : ℤ → ℤ
  percent : String

structure AgentUpdatePayload where
  version : String
  downloadURL : String
  sha256 : String
  signature : String
  signatureKeyID : String
  sizeBytes : ℤ
  force : Bool := false
  deriving DecidableEq

structure AgentRollbackPayload where
  reason : String := ""

structure PendingUpdate where
  jobID : String
  expectedVersion : String
  previousVersion : String
  deadline : Time
  deriving DecidableEq

structure Platform where
  binaryPreviousPath : String

structure Agent where
  version : String
  platform : Option Platform
  pollInterval : ℤ
  serverURL : String

structure Disk (β : Type) where
  binary : File β
  staging : File β := none
  previous : File β := none
  pending : File β := none

structure Io (β : Type) where
  /-- The error for a file that does not exist. -/
  notExist : String
  client : String → Fetched β
  /-- The free bytes; nobody asks for them on Windows. -/
  statfs : Option (Except String ℤ)
  half : Threshold
  /-- The end of the download. -/
  now : Time
  stat : Option String := none
  save : Write := .all
  hash : Option String := none
  read : Option String := none
  chmod : Option String := none
  backup : Copy := {}
  rename : Option String := none
  writePending : Write := .all
  removeFails : Bool := false

/-- The check of Linux; the one of Windows (`none`) always fails. -/
def checkDiskSpace (statfs : Option (Except String ℤ)) (threshold : Threshold) (fileSize : ℤ) :
    Except String Unit :=
  match statfs with
  | none => .error "disk space check not implemented on Windows"
  | some (.error err) => .error ("statfs: " ++ err)
  | some (.ok freeBytes) =>
    if threshold.scale freeBytes < fileSize then
      .error ("insufficient_disk_space: file " ++ toString fileSize ++
        " bytes exceeds threshold (" ++ threshold.percent ++ "% of " ++ toString freeBytes ++
        " free)")
    else .ok ()

def downloadFile (answer : Fetched β) (save : Write) (dest : File β) :
    Except String Unit × File β :=
  match answer with
  | .badURL err => (.error ("create request: " ++ err), dest)
  | .unreachable err => (.error ("GET file: " ++ err), dest)
  | .response status body =>
    if status ≠ 200 ∧ status ≠ 206 then (.error ("server returned " ++ toString status), dest)
    else (save.result "create file: " "write file: ", save.file body dest)

def fileSHA256 (C : Crypto β κ) (missing : String) (err : Option String) (f : File β) :
    Except String String :=
  (f.access missing err).map fun data => C.hex (C.sha256 data)

def fetchSigningKey (C : Crypto β κ) (A : Agent) (client : String → Fetched β) (keyID : String) :
    Except String κ :=
  match client (A.serverURL ++ "/v1/agents/signing-keys/" ++ keyID) with
  | .badURL err => .error err
  | .unreachable err => .error err
  | .response status body =>
    if status ≠ 200 then .error ("server returned " ++ toString status ++ ": " ++ C.text body)
    else match C.publicKeyField body with
      | .error err => .error ("decode key response: " ++ err)
      | .ok pem =>
        match C.decodePEM pem with
        | none => .error "invalid PEM data"
        | some block =>
          match C.parsePKIX block with
          | .error err => .error ("parse public key: " ++ err)
          | .ok none => .error "key is not Ed25519"
          | .ok (some key) => .ok key

def verifySignature (C : Crypto β κ) (A : Agent) (io : Io β) (staging : File β)
    (signatureB64 keyID : String) : Except String Unit :=
  match fetchSigningKey C A io.client keyID with
  | .error err => .error ("fetch signing key: " ++ err)
  | .ok key =>
    match staging.access io.notExist io.read with
    | .error err => .error ("read file: " ++ err)
    | .ok data =>
      match C.decodeBase64 signatureB64 with
      | .error err => .error ("decode signature: " ++ err)
      | .ok sig =>
        if C.verify key (C.sha256 data) sig = false then .error "Ed25519 signature is invalid"
        else .ok ()

/-! ### The update -/

def failed (message : String) : JobResultSubmission := { status := "failed", message }

def restarting (message : String) : JobResultSubmission := { status := "restarting", message }

/-- `executeAgentUpdate` up to the point where it asks for the download. -/
def preflight (A : Agent) (io : Io β) (payload : Except String AgentUpdatePayload) (d : Disk β) :
    Except String AgentUpdatePayload :=
  match payload with
  | .error err => .error ("invalid agent_update payload: " ++ err)
  | .ok p =>
    if p.version = "" then .error "version is required in update payload"
    else if p.force = false ∧ A.version ≠ "dev" ∧ p.version ≤ A.version then
      .error ("target version " ++ p.version ++ " is not newer than current " ++ A.version ++
        " (use force to downgrade)")
    else if A.platform.isNone then
      .error "platform not configured (cannot determine binary paths)"
    else match d.binary.access io.notExist io.stat with
      | .error err => .error ("current binary not found: " ++ err)
      | .ok _ =>
        match if 0 < p.sizeBytes then checkDiskSpace io.statfs io.half p.sizeBytes
          else .ok () with
        | .error err => .error err
        | .ok () =>
          if p.downloadURL = "" then .error "download_url is required" else .ok p

def verifyStaged (C : Crypto β κ) (A : Agent) (io : Io β) (p : AgentUpdatePayload)
    (staging : File β) : Except String Unit :=
  if p.sha256 = "" then .error "sha256 is required for agent updates"
  else match fileSHA256 C io.notExist io.hash staging with
    | .error err => .error ("sha256 computation failed: " ++ err)
    | .ok actualHash =>
      if actualHash ≠ p.sha256 then
        .error ("checksum_mismatch: expected " ++ p.sha256 ++ ", got " ++ actualHash)
      else if p.signature = "" ∨ p.signatureKeyID = "" then
        .error "signature and signature_key_id are required for agent updates"
      else match verifySignature C A io staging p.signature p.signatureKeyID with
        | .error err => .error ("signature verification failed: " ++ err)
        | .ok () =>
          match io.chmod with
          | some err => .error ("failed to set binary permissions: " ++ err)
          | none => .ok ()

def install (io : Io β) (d : Disk β) : Except String Unit × Disk β :=
  match io.backup.run io.notExist d.binary d.previous with
  | (.error err, previous) =>
    (.error ("failed to backup current binary: " ++ err), { d with previous })
  | (.ok (), previous) =>
    match d.staging.access io.notExist io.rename with
    | .error err => (.error ("failed to replace binary: " ++ err), { d with previous })
    | .ok data => (.ok (), { d with binary := some data, staging := none, previous })

def deadline (A : Agent) (now : Time) : Time :=
  now + int64 (int64 (3 * if 0 < A.pollInterval then A.pollInterval else 30) * second)

def pendingUpdate (A : Agent) (now : Time) (jobID : String) (p : AgentUpdatePayload) :
    PendingUpdate :=
  { jobID, expectedVersion := p.version, previousVersion := A.version
    deadline := deadline A now }

def removeStaging (io : Io β) (d : Disk β) : Disk β :=
  { d with staging := d.staging.remove io.removeFails }

section

variable (C : Crypto β κ) (J : Codec PendingUpdate β) (A : Agent)

def applyStaged (io : Io β) (jobID : String) (p : AgentUpdatePayload) (d : Disk β) :
    JobResultSubmission × Disk β :=
  match verifyStaged C A io p d.staging with
  | .error err => (failed err, removeStaging io d)
  | .ok () =>
    match install io d with
    | (.error err, d) => (failed err, removeStaging io d)
    | (.ok (), d) =>
      -- a note that could not be written is only logged
      let note := J.encode (pendingUpdate A io.now jobID p)
      (restarting ("New binary installed, restarting into v" ++ p.version),
        { d with pending := io.writePending.file note d.pending })

def executeAgentUpdate (io : Io β) (jobID : String) (payload : Except String AgentUpdatePayload)
    (d : Disk β) : JobResultSubmission × Disk β :=
  match preflight A io payload d with
  | .error err => (failed err, d)
  | .ok p =>
    match downloadFile (io.client p.downloadURL) io.save d.staging with
    | (.error err, staging) =>
      (failed ("download failed: " ++ err), removeStaging io { d with staging })
    | (.ok (), staging) => applyStaged C J A io jobID p { d with staging }

end

structure RollbackIo where
  notExist : String
  stat : Option String := none
  rename : Option String := none
  removeFails : Bool := false

def removePending (fails : Bool) (d : Disk β) : Disk β :=
  { d with pending := d.pending.remove fails }

def rollback (previousPath : String) (io : RollbackIo) (d : Disk β) : Except String Unit × Disk β :=
  match d.previous.access io.notExist io.stat with
  | .error err => (.error ("previous binary not found at " ++ previousPath ++ ": " ++ err), d)
  | .ok _ =>
    match d.previous.access io.notExist io.rename with
    | .error err => (.error ("rollback rename failed: " ++ err), d)
    | .ok data =>
      (.ok (), removePending io.removeFails { d with binary := some data, previous := none })

/-- `look` is the error of the check made before `rollback` makes the same one. -/
def executeAgentRollback (A : Agent) (look : Option String) (io : RollbackIo)
    (payload : Except String AgentRollbackPayload) (d : Disk β) :
    JobResultSubmission × Disk β :=
  match payload with
  | .error err => (failed ("invalid agent_rollback payload: " ++ err), d)
  | .ok p =>
    match A.platform with
    | none => (failed "platform not configured", d)
    | some platform =>
      match d.previous.access io.notExist look with
      | .error _ =>
        (failed ("no previous binary at " ++ platform.binaryPreviousPath ++
          ": cannot roll back"), d)
      | .ok _ =>
        match rollback platform.binaryPreviousPath io d with
        | (.error err, d) => (failed ("rollback failed: " ++ err), d)
        | (.ok (), d) =>
          (restarting ("Rolled back to previous binary. Reason: " ++ p.reason), d)

variable (J : Codec PendingUpdate β) (version : String)

/-- The content of the note; no note is no error. -/
def readPending (err : Option String) (pending : File β) : Except String (Option PendingUpdate) :=
  match err, pending with
  | some err, _ => .error ("read pending update: " ++ err)
  | none, none => .ok none
  | none, some data =>
    match J.decode data with
    | none => .error "parse pending update"
    | some p => .ok (some p)

structure VerifyResult where
  pending : PendingUpdate
  success : Bool := false
  needRoll : Bool := false
  error : String := ""

structure RestartIo where
  now : Time
  read : Option String := none
  rollback : RollbackIo
  formatTime : Time → String

def checkPostRestart (io : RestartIo) (pending : File β) : Option VerifyResult :=
  match readPending J io.read pending with
  | .error _ => none
  | .ok none => none
  | .ok (some p) =>
    if p.deadline < io.now then
      some
        { pending := p, needRoll := true
          error := "update deadline exceeded: expected " ++ p.expectedVersion ++ " by " ++
            io.formatTime p.deadline ++ ", running " ++ version }
    else if version ≠ p.expectedVersion then
      some
        { pending := p, needRoll := true
          error := "version mismatch after restart: expected " ++ p.expectedVersion ++
            ", got " ++ version }
    else some { pending := p, success := true }

/-- The part of `runDaemon` that deals with a pending update. A failed rollback is only logged;
the result tells whether the agent has rolled back. -/
def postRestart (platform : Platform) (io : RestartIo) (d : Disk β) : Bool × Disk β :=
  match checkPostRestart J version io d.pending with
  | none => (false, d)
  | some result =>
    if result.success then (false, removePending io.rollback.removeFails d)
    else if result.needRoll then
      match rollback platform.binaryPreviousPath io.rollback d with
      | (.error _, d) => (false, d)
      | (.ok (), d) => (true, d)
    else (false, d)

namespace Sample

/-- Files in which a note is a single token. -/
inductive Token
  | byte (n : ℕ)
  | note (p : PendingUpdate)
  deriving DecidableEq

def codec : Codec PendingUpdate Token where
  encode := fun p => [.note p]
  decode := fun data => match data with
    | [.note p] => some p
    | _ => none
  decode_encode := fun _ => rfl

/-- The hash of a file is its length in unary, and every signature is good. -/
def crypto : Crypto Token Unit where
  sha256 := id
  hex := fun data => String.ofList (data.map fun _ => 'a')
  decodeBase64 := fun _ => .ok []
  publicKeyField := fun _ => .ok "pem"
  decodePEM := fun _ => some []
  parsePKIX := fun _ => .ok (some ())
  verify := fun _ _ _ => true
  text := fun _ => ""

def agent : Agent where
  version := "dev"
  platform := some { binaryPreviousPath := "agent.previous" }
  pollInterval := 30
  serverURL := "https://server"

def payload : AgentUpdatePayload where
  version := "2"
  downloadURL := "https://server/agent"
  sha256 := "aaa"
  signature := "sig"
  signatureKeyID := "key"
  sizeBytes := 0

def io : Io Token where
  notExist := "no such file"
  client := fun _ => .response 200 [.byte 3, .byte 4, .byte 5]
  statfs := some (.ok 0)
  half := { scale := id, percent := "50" }
  now := 10 * second

def disk : Disk Token := { binary := some [.byte 1, .byte 2] }

def rollbackIo : RollbackIo where
  notExist := "no such file"

end Sample

end Moebius.Update
