import Moebius.Files
import Moebius.Jobs
import Moebius.Update
import Moebius.Volume

/-!
Uploads in chunks.

An upload session belongs to a file row. The chunks are staged in a directory of the session until
`CompleteUpload` has assembled them: it reads them in the order of their index, hashes what it has
read and sends the same bytes through a pipe to the storage backend, which saves them in the
background. The handlers are given here as they act when nothing else runs; their single steps
follow in `UploadThreads`.
-/

namespace Moebius.Upload

open Files Function Jobs

variable {β κ : Type}

structure UploadRow where
  id : String
  fileID : String
  tenantID : String
  chunkSizeBytes : ℤ
  totalChunks : ℤ
  uploadedChunks : List ℤ := []
  completedAt : Option Time := none
  expiresAt : Time
  createdAt : Time
  deriving DecidableEq

structure SigningKeyRow where
  id : String
  tenantID : String
  publicKey : String

structure Store (β : Type) where
  db : Db
  uploads : Table UploadRow.id := .empty
  signingKeys : Table SigningKeyRow.id := .empty
  /-- The staging directory of a session, if there is one, and the chunks in it. -/
  stage : String → Option (ℤ → Option (List β)) := fun _ => none
  /-- The objects of the local backend, by key. -/
  objects : Volume String β := .empty

structure Config (β κ : Type) where
  crypto : Update.Crypto β κ
  hash_ne : ∀ data, crypto.hex (crypto.sha256 data) ≠ ""
  quota : Option Defaults
  /-- Where the local backend keeps a key. -/
  path : String → String
  /-- What fills a gap in a file. -/
  zero : β

def uploadExpiry : Time := 24 * 3600 * second

/-! ### Initiating an upload -/

structure InitiateRequest where
  filename : String
  sizeBytes : ℤ
  sha256 : String
  signature : String := ""
  signatureKeyID : String := ""
  mimeType : String := ""

structure InitiateResponse where
  fileID : String
  uploadID : String
  chunkSizeBytes : ℤ
  totalChunks : ℤ
  uploadedChunks : List ℤ
  expiresAt : Time

/-- `CheckFileSize`; without a resolver there is no quota. -/
def checkFileSize (quota : Option Defaults) (tenantID : String) (sizeBytes : ℤ) (db : Db) :
    Except QuotaError Unit :=
  match quota with
  | none => .ok ()
  | some d =>
    match db.tenants.get? tenantID with
    | none => .error .internal
    | some tenant =>
      let eff := (tenant.quotas.map (applyOverride d)).getD d
      if eff.maxFileSizeBytes < 0 then .ok ()
      else if eff.maxFileSizeBytes < sizeBytes then
        .error (.exceeded eff.maxFileSizeBytes 0 sizeBytes)
      else .ok ()

def nullIfEmpty (s : String) : Option String := if s = "" then none else some s

def newFileID (env : Env) : String := env.newID "fil" 0

def newUploadID (env : Env) : String := env.newID "upl" 0

namespace Store

/-- `INSERT INTO files`, with its foreign keys. -/
def insertFile (row : FileRow) (s : Store β) : Option (Store β) :=
  if (s.db.tenants.get? row.tenantID).isSome ∧
      (row.createdBy.all fun u => (s.db.users.get? u).isSome) ∧
      (row.signatureKeyID.all fun k => (s.signingKeys.get? k).isSome) then
    (s.db.files.insert row).map fun t => { s with db := { s.db with files := t } }
  else none

/-- `INSERT INTO file_uploads`, with its foreign keys and the range of its counter. -/
def insertUpload (row : UploadRow) (s : Store β) : Option (Store β) :=
  if (s.db.files.get? row.fileID).isSome ∧ (s.db.tenants.get? row.tenantID).isSome ∧
      Int4 row.totalChunks then
    (s.uploads.insert row).map fun t => { s with uploads := t }
  else none

/-- `os.MkdirAll` of the staging directory; one that is there stays. -/
def makeStage (uploadID : String) (s : Store β) : Store β :=
  { s with
    stage := update s.stage uploadID (some ((s.stage uploadID).getD fun _ => none)) }

end Store

def initiateUpload (cfg : Config β κ) (env : Env) (caller : Caller)
    (body : Option InitiateRequest) (s : Store β) : Reply InitiateResponse × Store β :=
  match body with
  | none => (.err 400 "invalid request body", s)
  | some req =>
    if req.filename = "" ∨ req.sizeBytes ≤ 0 ∨ req.sha256 = "" then
      (.err 400 "filename, size_bytes, and sha256 are required", s)
    else
      match checkFileSize cfg.quota caller.tenantID req.sizeBytes s.db with
      | .error e => (quotaReply "file_size_bytes" e, s)
      | .ok () =>
        let totalChunks := Float64.ceilQuotient req.sizeBytes defaultChunkSize
        let file : FileRow :=
          { id := newFileID env, tenantID := caller.tenantID, filename := req.filename
            sizeBytes := req.sizeBytes, sha256 := req.sha256
            signature := nullIfEmpty req.signature
            signatureKeyID := nullIfEmpty req.signatureKeyID, mimeType := some req.mimeType
            storageBackend := "local", storagePath := "", createdBy := some caller.userID
            createdAt := env.now }
        let upload : UploadRow :=
          { id := newUploadID env, fileID := newFileID env, tenantID := caller.tenantID
            chunkSizeBytes := defaultChunkSize, totalChunks
            expiresAt := env.now + uploadExpiry, createdAt := env.now }
        match s.insertFile file with
        | none => (.err 500 "failed to create file record", s)
        | some s' =>
          match s'.insertUpload upload with
          -- the transaction takes the file row back
          | none => (.err 500 "failed to create upload session", s)
          | some s' =>
            (.ok 201
              { fileID := file.id, uploadID := upload.id
                chunkSizeBytes := defaultChunkSize, totalChunks, uploadedChunks := []
                expiresAt := upload.expiresAt },
              s'.makeStage upload.id)

structure ChunkRequest (β : Type) where
  /-- What `strconv.Atoi` makes of the index in the path. -/
  chunkIndex : Option ℤ
  body : List β
  /-- The header `X-Chunk-SHA256`. -/
  sha256 : String := ""

structure ChunkResponse where
  chunkIndex : ℤ
  received : Bool
  uploadedChunks : List ℤ
  remainingChunks : ℤ

namespace Store

/-- `WHERE id = $1 AND tenant_id = $2 AND completed_at IS NULL`. -/
def session (tenantID uploadID : String) (s : Store β) : Option UploadRow :=
  (s.uploads.get? uploadID).filter fun r => r.tenantID = tenantID ∧ r.completedAt = none

variable (uploadID : String) (i : ℤ)

/-- `array_append(array_remove(uploaded_chunks, $1), $1)`, and the new end of the session. -/
def addChunk (expiresAt : Time) (s : Store β) : Store β :=
  { s with
    uploads := s.uploads.update
      (fun r =>
        if r.id = uploadID then
          { r with uploadedChunks := r.uploadedChunks.filter (· ≠ i) ++ [i], expiresAt }
        else r)
      (fun r => by split <;> rfl) }

def uploadedChunks (s : Store β) : Option (List ℤ) :=
  (s.uploads.get? uploadID).map (·.uploadedChunks)

/-- A change of one staged chunk; without the directory there is none. -/
def setChunk (f : Option (List β) → Option (List β)) (s : Store β) : Store β :=
  { s with
    stage := update s.stage uploadID
      ((s.stage uploadID).map fun dir => update dir i (f (dir i))) }

end Store

lemma session_eq_some {s : Store β} {tenantID uploadID : String} {row : UploadRow} :
    s.session tenantID uploadID = some row ↔
      s.uploads.get? uploadID = some row ∧ row.tenantID = tenantID ∧ row.completedAt = none := by
  simp [Store.session, Option.filter_eq_some_iff]

def checkChunk (cfg : Config β κ) (now : Time) (i : ℤ) (req : ChunkRequest β) (row : UploadRow) :
    Option (Reply ChunkResponse) :=
  if row.expiresAt < now then some (.err 410 "upload session expired")
  else if i < 0 ∨ row.totalChunks ≤ i then
    some (.err 400 ("chunk_index must be 0-" ++ toString (row.totalChunks - 1)))
  else if defaultChunkSize + 1 < req.body.length then
    some (.err 400 "chunk exceeds maximum size")
  else if req.sha256 ≠ "" ∧ cfg.crypto.hex (cfg.crypto.sha256 req.body) ≠ req.sha256 then
    some (.error 400 "checksum_mismatch" "chunk SHA-256 does not match")
  else none

def sessionNotFound {α : Type} : Reply α := .err 404 "upload session not found or already completed"

/-- The response, with the chunks as they were read last. -/
def chunkReply (i : ℤ) (row : UploadRow) (chunks : List ℤ) : Reply ChunkResponse :=
  .ok 200
    { chunkIndex := i, received := true, uploadedChunks := chunks
      remainingChunks := row.totalChunks - chunks.length }

def uploadChunk (cfg : Config β κ) (env : Env) (caller : Caller) (uploadID : String)
    (req : ChunkRequest β) (s : Store β) : Reply ChunkResponse × Store β :=
  match req.chunkIndex with
  | none => (.err 400 "invalid chunk_index", s)
  | some i =>
    match s.session caller.tenantID uploadID with
    | none => (sessionNotFound, s)
    | some row =>
      match checkChunk cfg env.now i req row with
      | some r => (r, s)
      | none =>
        if (s.stage uploadID).isNone then (.err 500 "failed to write chunk", s)
        else
          let s := (s.setChunk uploadID i fun _ => some req.body).addChunk uploadID i
            (env.clock 1 + uploadExpiry)
          (chunkReply i row ((s.uploadedChunks uploadID).getD row.uploadedChunks), s)

/-! ### Completing an upload -/

def IsError {α : Type} (r : Reply α) : Prop := ∃ n code msg, r = .error n code msg

variable {α : Type} {r : Reply α}

lemma IsError.ne_ok (h : IsError r) (n : ℕ) (a : α) : r ≠ .ok n a := by
  obtain ⟨n', code, msg, rfl⟩ := h
  simp

def incomplete {α : Type} (row : UploadRow) : Option (Reply α) :=
  if (row.uploadedChunks.length : ℤ) ≠ row.totalChunks then
    some (.error 400 "incomplete_upload"
      ("uploaded " ++ toString row.uploadedChunks.length ++ " of " ++ toString row.totalChunks ++
        " chunks"))
  else none

lemma isError_of_incomplete {row : UploadRow} (h : incomplete row = some r) : IsError r := by
  unfold incomplete at h
  split at h
  · cases h; exact ⟨_, _, _, rfl⟩
  · cases h

namespace Store

/-- The declared hash; an error of the query is ignored. -/
def declaredSHA (fileID : String) (s : Store β) : String :=
  ((s.db.files.get? fileID).map (·.sha256)).getD ""

def readChunk (uploadID : String) (s : Store β) (i : ℕ) : Option (List β) :=
  (s.stage uploadID).bind fun dir => dir i

def saveObject (key : String) (data : List β) (s : Store β) : Store β :=
  { s with objects := s.objects.save key data }

def removeObject (key : String) (s : Store β) : Store β :=
  { s with objects := s.objects.remove key }

/-- `UPDATE files SET storage_path = $1, signature_verified = $2 WHERE id = $3`. -/
def setStored (fileID storagePath : String) (verified : Bool) (s : Store β) : Store β :=
  { s with
    db := { s.db with
      files := s.db.files.update
        (fun f =>
          if f.id = fileID then { f with storagePath, signatureVerified := verified } else f)
        (fun f => by split <;> rfl) } }

/-- `UPDATE file_uploads SET completed_at = $1 WHERE id = $2`. -/
def setCompleted (uploadID : String) (now : Time) (s : Store β) : Store β :=
  { s with
    uploads := s.uploads.update
      (fun r => if r.id = uploadID then { r with completedAt := some now } else r)
      (fun r => by split <;> rfl) }

def removeStage (uploadID : String) (s : Store β) : Store β :=
  { s with stage := update s.stage uploadID none }

/-- The entry of the audit log; an insertion that is refused is only logged. -/
def logUpload (env : Env) (caller : Caller) (fileID : String) (s : Store β) : Store β :=
  { s with
    db := (s.db.insertAudit
      { id := env.newAuditEntryID 0, tenantID := caller.tenantID, actorID := caller.userID
        actorType := "user", action := "file.upload", resourceType := "file"
        resourceID := fileID, metadata := [], createdAt := env.clock 1 }).getD s.db }

end Store

@[simp] lemma files_logUpload (env : Env) (caller : Caller) (fileID : String) (s : Store β) :
    (s.logUpload env caller fileID).db.files = s.db.files := by
  unfold Store.logUpload Db.insertAudit
  split
  · rcases s.db.auditLog.insert _ with _ | t <;> rfl
  · rfl

/-- The bytes of the next `n` chunks after those in `acc`, up to the first that cannot be read. -/
def assembleFrom (chunk : ℕ → Option (List β)) : ℕ → ℕ → List β → List β × Bool
  | 0, _, acc => (acc, true)
  | n + 1, i, acc =>
    match chunk i with
    | none => (acc, false)
    | some data => assembleFrom chunk n (i + 1) (acc ++ data)

def assemble (chunk : ℕ → Option (List β)) (total : ℤ) : List β × Bool :=
  assembleFrom chunk total.toNat 0 []

/-- `errSignatureInvalid`, with what is wrapped around it. -/
def signatureInvalid {α : Type} (detail : String) : Reply α :=
  .error 400 "signature_invalid" ("signature does not verify against registered key" ++ detail)

def signatureFailure {α : Type} : Reply α := .err 500 "failed to verify file signature"

def signatureOf (row : FileRow) : Option (String × String) :=
  match row.signature, row.signatureKeyID with
  | some sig, some keyID => if sig = "" ∨ keyID = "" then none else some (sig, keyID)
  | _, _ => none

/-- `parseEd25519PublicKeyPEM`; the handler does not tell its errors apart. -/
def parseKey (C : Update.Crypto β κ) (pem : String) : Option κ :=
  (C.decodePEM pem).bind fun block =>
    match C.parsePKIX block with
    | .ok (some key) => some key
    | _ => none

/-- The check of a signature against the key row that was found. -/
def verifyWith {α : Type} (C : Update.Crypto β κ) (digest : List β) (sigB64 : String)
    (key : Option SigningKeyRow) : Except (Reply α) Bool :=
  match key with
  | none => .error (signatureInvalid ": signing key not found")
  | some row =>
    match parseKey C row.publicKey with
    | none => .error signatureFailure
    | some pub =>
      match C.decodeBase64 sigB64 with
      | .error _ => .error (signatureInvalid ": signature is not valid base64")
      | .ok sig => if C.verify pub digest sig then .ok true else .error (signatureInvalid "")

lemma isError_of_verifyWith {C : Update.Crypto β κ} {digest : List β} {sigB64 : String}
    {key : Option SigningKeyRow} (h : verifyWith C digest sigB64 key = .error r) : IsError r := by
  unfold verifyWith at h
  split at h
  · cases h; exact ⟨_, _, _, rfl⟩
  split at h
  · cases h; exact ⟨_, _, _, rfl⟩
  split at h
  · cases h; exact ⟨_, _, _, rfl⟩
  split at h
  · cases h
  · cases h; exact ⟨_, _, _, rfl⟩

/-- `WHERE id = $1 AND tenant_id = $2`. -/
def Store.signingKey (tenantID keyID : String) (s : Store β) : Option SigningKeyRow :=
  (s.signingKeys.get? keyID).filter fun k => k.tenantID = tenantID

def verifyFileSignature {α : Type} (cfg : Config β κ) (tenantID fileID : String)
    (digest : List β) (s : Store β) : Except (Reply α) Bool :=
  match file? tenantID fileID s.db with
  | none => .error signatureFailure
  | some row =>
    match signatureOf row with
    | none => .ok false
    | some (sig, keyID) => verifyWith cfg.crypto digest sig (s.signingKey tenantID keyID)

lemma isError_of_verifyFileSignature {cfg : Config β κ} {tenantID fileID : String} {digest : List β}
    {s : Store β} (h : verifyFileSignature cfg tenantID fileID digest s = .error r) :
    IsError r := by
  unfold verifyFileSignature at h
  split at h
  · cases h; exact ⟨_, _, _, rfl⟩
  split at h
  · cases h
  · exact isError_of_verifyWith h

def zeroFile : Files.File where
  id := ""
  tenantID := ""
  filename := ""
  sizeBytes := 0
  sha256 := ""
  signature := ""
  signatureKeyID := ""
  signatureVerified := false
  mimeType := ""
  storageBackend := ""
  storagePath := ""
  createdBy := ""
  createdAt := zeroTime

/-- What a scan whose error is ignored leaves: the columns before the first that is `NULL`. -/
def scanned (row : FileRow) : Files.File :=
  let f := { zeroFile with
    id := row.id, tenantID := row.tenantID, filename := row.filename, sizeBytes := row.sizeBytes
    sha256 := row.sha256 }
  match row.signature with
  | none => f
  | some signature =>
    let f := { f with signature }
    match row.signatureKeyID with
    | none => f
    | some signatureKeyID =>
      let f := { f with signatureKeyID, signatureVerified := row.signatureVerified }
      match row.mimeType with
      | none => f
      | some mimeType =>
        let f := { f with
          mimeType, storageBackend := row.storageBackend, storagePath := row.storagePath }
        match row.createdBy with
        | none => f
        | some createdBy => { f with createdBy, createdAt := row.createdAt }

def completeReply (row : Option FileRow) : Reply Files.File :=
  .ok 200 ((row.map scanned).getD zeroFile)

/-- `CompleteUpload` once the object is saved and verified. -/
def finishUpload (cfg : Config β κ) (env : Env) (caller : Caller) (row : UploadRow)
    (verified : Bool) (s : Store β) : Reply Files.File × Store β :=
  let s := s.setStored row.fileID (cfg.path row.fileID) verified
  let s := s.setCompleted row.id env.now
  let s := s.removeStage row.id
  let s := s.logUpload env caller row.fileID
  (completeReply (s.db.files.get? row.fileID), s)

def checksumMismatch {α : Type} : Reply α :=
  .error 400 "checksum_mismatch" "assembled file SHA-256 does not match expected hash"

/-- `CompleteUpload` once the assembled file is saved. -/
def judgeUpload (cfg : Config β κ) (env : Env) (caller : Caller) (row : UploadRow)
    (expectedSHA : String) (data : List β) (s : Store β) : Reply Files.File × Store β :=
  if cfg.crypto.hex (cfg.crypto.sha256 data) ≠ expectedSHA then
    (checksumMismatch, s.removeObject row.fileID)
  else
    match verifyFileSignature cfg caller.tenantID row.fileID (cfg.crypto.sha256 data) s with
    | .error r => (r, s.removeObject row.fileID)
    | .ok verified => finishUpload cfg env caller row verified s

/-- `CompleteUpload` for a session that has all its chunks. -/
def assembleUpload (cfg : Config β κ) (env : Env) (caller : Caller) (row : UploadRow)
    (s : Store β) : Reply Files.File × Store β :=
  match assemble (s.readChunk row.id) row.totalChunks with
  -- the background save has stored what it was sent, and takes it back
  | (data, false) =>
    (.err 500 "failed to read chunk", (s.saveObject row.fileID data).removeObject row.fileID)
  | (data, true) =>
    judgeUpload cfg env caller row (s.declaredSHA row.fileID) data (s.saveObject row.fileID data)

def completeUpload (cfg : Config β κ) (env : Env) (caller : Caller) (uploadID : String)
    (s : Store β) : Reply Files.File × Store β :=
  match s.session caller.tenantID uploadID with
  | none => (sessionNotFound, s)
  | some row =>
    match incomplete row with
    | some r => (r, s)
    | none => assembleUpload cfg env caller row s

/-! ### A small store

One tenant with a user, and an open session of one chunk that is staged. -/

namespace Sample

variable [Inhabited β]

/-- The hash of a file tells its length, and every signature is good. -/
def crypto : Update.Crypto β Unit where
  sha256 := id
  hex := fun data => String.ofList ('h' :: data.map fun _ => 'a')
  decodeBase64 := fun _ => .ok []
  publicKeyField := fun _ => .ok "pem"
  decodePEM := fun _ => some []
  parsePKIX := fun _ => .ok (some ())
  verify := fun _ _ _ => true
  text := fun _ => ""

def cfg : Config β Unit where
  crypto := crypto
  hash_ne := fun _ => by simp [crypto]
  quota := none
  path := fun key => "files/" ++ key
  zero := default

def env (now : Time) (salt : String) : Env := .plain now salt

def caller : Caller := { tenantID := "t", userID := "u", isAdmin := true, scope := none }

def tenant : TenantRow := { id := "t" }

def user : UserRow := { id := "u", tenantID := "t" }

def db : Db where
  tenants := ⟨[tenant], by decide⟩
  users := ⟨[user], by decide⟩

def file : FileRow :=
  { id := "fil", tenantID := "t", filename := "file", sizeBytes := 2, sha256 := "haa"
    mimeType := some "", storageBackend := "local", storagePath := "", createdBy := some "u"
    createdAt := 0 }

def session : UploadRow :=
  { id := "upl", fileID := "fil", tenantID := "t", chunkSizeBytes := defaultChunkSize
    totalChunks := 1, uploadedChunks := [0], expiresAt := uploadExpiry, createdAt := 0 }

def store : Store β where
  db := { db with files := ⟨[file], by decide⟩ }
  uploads := ⟨[session], by decide⟩
  stage := fun id =>
    if id = "upl" then some (fun i => if i = 0 then some [default, default] else none) else none

end Sample

end Moebius.Upload
