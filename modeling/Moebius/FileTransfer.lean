import Moebius.Files
import Moebius.Update

/-!
How the agent fetches a file.

The agent asks the server for the data's URL and its hash, downloads the data next to the place it
is meant for, checks it and moves it there. Files are found by the components of their path; the
answers of the network and the way each operation on a file ends are parameters.
-/

namespace Moebius.FileTransfer

open Update (Fetched Threshold checkDiskSpace downloadFile fileSHA256 failed)

variable {β κ : Type}

structure FileTransferIntegrity where
  requireSHA256 : Bool := false
  requireSignature : Bool := false

structure FileTransferStorage where
  spaceCheckEnabled : Option Bool := none
  spaceCheckThreshold : Option Threshold := none

structure FileTransferOnComplete where
  exec : String := ""

structure FileTransferPayload where
  fileID : String
  integrity : Option FileTransferIntegrity := none
  storage : Option FileTransferStorage := none
  onComplete : Option FileTransferOnComplete := none

def components (path : String) : List String := (path.toList.splitOn '/').map String.ofList

/-- `filepath.Join` below a rooted directory, by its components. -/
def join (dir name : String) : List String := Files.clean (components dir ++ components name)

/-- `filepath.Base`. -/
def base (path : String) : String :=
  if path = "" then "."
  else (((components path).filter (· ≠ "")).getLast?).getD "/"

def written (path : List String) : String := "/" ++ String.intercalate "/" path

/-! ### The agent -/

structure Agent where
  serverURL : String
  dropDir : String

abbrev Disk (β : Type) := List String → File β

/-- What a transfer meets: the answers of the network and the way each operation ends. -/
structure Io (β : Type) where
  /-- The error for a file that does not exist. -/
  notExist : String
  client : String → Fetched β
  /-- `json.Decode` of the answer about a download. -/
  decodeInfo : List β → Except String Files.DownloadResponse
  statfs : Option (Except String ℤ)
  half : Threshold
  mkdir : Option String := none
  save : Write := .all
  hash : Option String := none
  rename : Option String := none
  removeFails : Bool := false
  /-- The error of a command run after the transfer, and its output. -/
  command : String → List String → Option (String × String) := fun _ _ => none

def getDownloadInfo (C : Update.Crypto β κ) (A : Agent) (io : Io β) (fileID : String) :
    Except String Files.DownloadResponse :=
  match io.client (A.serverURL ++ "/v1/agents/files/" ++ fileID ++ "/download") with
  | .badURL err => .error ("create request: " ++ err)
  | .unreachable err => .error ("GET download info: " ++ err)
  | .response status body =>
    if status ≠ 200 then .error ("server returned " ++ toString status ++ ": " ++ C.text body)
    else match io.decodeInfo body with
      | .error err => .error ("decode response: " ++ err)
      | .ok info => .ok info

def shouldCheckSpace (storage : Option FileTransferStorage) : Bool :=
  (storage.bind (·.spaceCheckEnabled)).getD true

def checkSpace (io : Io β) (storage : Option FileTransferStorage) (sizeBytes : ℤ) :
    Except String Unit :=
  if shouldCheckSpace storage then
    checkDiskSpace io.statfs ((storage.bind (·.spaceCheckThreshold)).getD io.half) sizeBytes
  else .ok ()

/-- The check of the hash, if one is asked for and the server has given one. -/
def checkHash (C : Update.Crypto β κ) (io : Io β) (integrity : Option FileTransferIntegrity)
    (sha256 : String) (temp : File β) : Except String Unit :=
  if (integrity.map (·.requireSHA256)).getD true ∧ sha256 ≠ "" then
    match fileSHA256 C io.notExist io.hash temp with
    | .error err => .error ("failed to compute SHA-256: " ++ err)
    | .ok actualHash =>
      if actualHash ≠ sha256 then
        .error ("checksum_mismatch: expected " ++ sha256 ++ ", got " ++ actualHash)
      else .ok ()
  else .ok ()

def runOnComplete (io : Io β) (onComplete : Option FileTransferOnComplete)
    (finalPath : List String) : JobResultSubmission :=
  let completed : JobResultSubmission :=
    { status := "completed", message := "file transferred to " ++ written finalPath }
  match onComplete with
  | none => completed
  | some c =>
    if c.exec = "" then completed
    else match io.command c.exec finalPath with
      | some (err, out) => { failed ("on_complete failed: " ++ err) with stdout := out }
      | none => completed

section

variable (C : Update.Crypto β κ) (A : Agent) (io : Io β) (p : FileTransferPayload)

def tempFile : List String := join A.dropDir (".downloading-" ++ p.fileID)

def finalPath : List String := join A.dropDir (base p.fileID)

variable (info : Files.DownloadResponse) (d : Disk β)

def removeTemp : Disk β :=
  Function.update d (tempFile A p) ((d (tempFile A p)).remove io.removeFails)

def place : JobResultSubmission × Disk β :=
  match checkHash C io p.integrity info.sha256 (d (tempFile A p)) with
  | .error err => (failed err, removeTemp A io p d)
  | .ok () =>
    match (d (tempFile A p)).access io.notExist io.rename with
    | .error err =>
      (failed ("failed to move file to drop directory: " ++ err), removeTemp A io p d)
    | .ok data =>
      (runOnComplete io p.onComplete (finalPath A p),
        Function.update (Function.update d (tempFile A p) none) (finalPath A p) (some data))

def fetch : JobResultSubmission × Disk β :=
  match checkSpace io p.storage info.sizeBytes with
  | .error err => (failed err, d)
  | .ok () =>
    match io.mkdir with
    | some err => (failed ("failed to create drop directory: " ++ err), d)
    | none =>
      match downloadFile (io.client info.url) io.save (d (tempFile A p)) with
      | (.error err, temp) =>
        (failed ("download failed: " ++ err),
          removeTemp A io p (Function.update d (tempFile A p) temp))
      | (.ok (), temp) => place C A io p info (Function.update d (tempFile A p) temp)

end

def executeFileTransfer (C : Update.Crypto β κ) (A : Agent) (io : Io β)
    (payload : Except String FileTransferPayload) (d : Disk β) : JobResultSubmission × Disk β :=
  match payload with
  | .error err => (failed ("invalid file_transfer payload: " ++ err), d)
  | .ok p =>
    if p.fileID = "" then (failed "file_id is required", d)
    else if A.dropDir = "" then (failed "drop directory not configured", d)
    else match getDownloadInfo C A io p.fileID with
      | .error err => (failed ("failed to get download info: " ++ err), d)
      | .ok info => fetch C A io p info d

end Moebius.FileTransfer
