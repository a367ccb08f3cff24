import Moebius.FileTransfer
import Moebius.Volume

/-!
A transfer step by step.

The agent runs every job in a goroutine of its own, so the operations of several transfers on the
files may come in any order. A step is one operation on a file, with one piece of the data where
data is copied or hashed; what comes before the download touches no file and is one step.
-/

namespace Moebius.FileTransfer

open Files Volume Function Write

variable {β κ : Type}

/-- The files of the device, with the inodes their paths lead to. -/
abbrev Drop (β : Type) := Volume (List String) β

inductive Stage (β : Type)
  | starting
  | downloading (info : DownloadResponse)
  /-- The temporary file is open for writing, `rest` is still to come. -/
  | copying (info : DownloadResponse) (n off : ℕ) (rest : List β)
  | downloaded (info : DownloadResponse)
  | hashing (info : DownloadResponse) (n : ℕ) (seen : List β)
  | checked (info : DownloadResponse)
  /-- The file with inode `n` has been moved to its place. -/
  | moved (info : DownloadResponse) (n : ℕ)
  /-- The transfer is about to report `r`. -/
  | returned (r : JobResultSubmission) (info : DownloadResponse) (n : ℕ)
  /-- The temporary file is about to be removed. -/
  | removing (err : String)
  | failed (err : String)
  | reported (r : JobResultSubmission)

/-- What a step meets: the network and the commands, whether its operation on a file fails, and how
many bytes it moves. -/
structure Turn (β : Type) where
  io : Io β
  err : Option String := none
  size : ℕ := 0

/-- The hash is asked for and the server has given one. -/
def MustCheck (p : FileTransferPayload) (info : DownloadResponse) : Prop :=
  (p.integrity.map (·.requireSHA256)).getD true ∧ info.sha256 ≠ ""
  deriving Decidable

section

variable (C : Update.Crypto β κ) (A : Agent) (p : FileTransferPayload)

def prepare (io : Io β) : Stage β :=
  if p.fileID = "" then .failed "file_id is required"
  else if A.dropDir = "" then .failed "drop directory not configured"
  else match getDownloadInfo C A io p.fileID with
    | .error err => .failed ("failed to get download info: " ++ err)
    | .ok info =>
      match checkSpace io p.storage info.sizeBytes with
      | .error err => .failed err
      | .ok () =>
        match io.mkdir with
        | some err => .failed ("failed to create drop directory: " ++ err)
        | none => .downloading info

variable (x : Turn β) (info : DownloadResponse) (v : Drop β)

/-- The request for the data and `os.Create`. -/
def startDownload : Drop β × Stage β :=
  match x.io.client info.url with
  | .badURL err => (v, .removing ("download failed: " ++ ("create request: " ++ err)))
  | .unreachable err => (v, .removing ("download failed: " ++ ("GET file: " ++ err)))
  | .response status body =>
    if status ≠ 200 ∧ status ≠ 206 then
      (v, .removing ("download failed: " ++ ("server returned " ++ toString status)))
    else match x.err with
      | some err => (v, .removing ("download failed: " ++ ("create file: " ++ err)))
      | none =>
        ((v.create (tempFile A p)).2, .copying info (v.create (tempFile A p)).1 0 body)

/-- `os.Open` of the temporary file, if its hash is to be checked. -/
def openTemp : Stage β :=
  if MustCheck p info then
    match x.err, v.names (tempFile A p) with
    | some err, _ => .removing ("failed to compute SHA-256: " ++ err)
    | none, none => .removing ("failed to compute SHA-256: " ++ x.io.notExist)
    | none, some n => .hashing info n []
  else .checked info

/-- At the end of the file the hashes are compared. -/
def hashPiece (n : ℕ) (seen : List β) (v : Drop β) : Stage β :=
  match x.err with
  | some err => .removing ("failed to compute SHA-256: " ++ err)
  | none =>
    if (v.inodes n).length ≤ seen.length then
      if C.hex (C.sha256 seen) ≠ info.sha256 then
        .removing
          ("checksum_mismatch: expected " ++ info.sha256 ++ ", got " ++ C.hex (C.sha256 seen))
      else .checked info
    else .hashing info n (seen ++ ((v.inodes n).drop seen.length).take x.size)

def moveFile : Drop β × Stage β :=
  match x.err, v.names (tempFile A p) with
  | some err, _ => (v, .removing ("failed to move file to drop directory: " ++ err))
  | none, none => (v, .removing ("failed to move file to drop directory: " ++ x.io.notExist))
  | none, some n => (v.rename (tempFile A p) (finalPath A p), .moved info n)

variable [Inhabited β]

def Stage.step (x : Turn β) (v : Drop β) : Stage β → Drop β × Stage β
  | .starting => (v, prepare C A p x.io)
  | .downloading info => startDownload A p x info v
  | .copying info n off rest =>
    match x.err, rest with
    | some err, _ => (v, .removing ("download failed: " ++ ("write file: " ++ err)))
    | none, [] => (v, .downloaded info)
    | none, rest =>
      (v.write default n off (rest.take x.size),
        .copying info n (off + (rest.take x.size).length) (rest.drop x.size))
  | .downloaded info => (v, openTemp A p x info v)
  | .hashing info n seen => (v, hashPiece C x info n seen v)
  | .checked info => moveFile A p x info v
  | .moved info n => (v, .returned (runOnComplete x.io p.onComplete (finalPath A p)) info n)
  | .returned r _ _ => (v, .reported r)
  | .removing err => (if x.io.removeFails then v else v.remove (tempFile A p), .failed err)
  | .failed err => (v, .reported (Update.failed err))
  | .reported r => (v, .reported r)

end

def Stage.result : Stage β → Option JobResultSubmission
  | .returned r _ _ => some r
  | .failed err => some (Update.failed err)
  | .reported r => some r
  | _ => none

def Stage.Over : Stage β → Prop
  | .failed _ => True
  | .reported _ => True
  | _ => False

/-! ### What a step does -/

/-- From these files and this stage a step leads to those. -/
inductive Goes [Inhabited β] (C : Update.Crypto β κ) (A : Agent) (p : FileTransferPayload)
    (v : Drop β) : Stage β → Drop β → Stage β → Prop
  | prepared {info : DownloadResponse} : Goes C A p v .starting v (.downloading info)
  | refused {err : String} : Goes C A p v .starting v (.failed err)
  | gaveUp {st : Stage β} {err : String} (h : ¬ st.Over) : Goes C A p v st v (.removing err)
  | created {info : DownloadResponse} {body : List β} :
      Goes C A p v (.downloading info) (v.create (tempFile A p)).2
        (.copying info (v.create (tempFile A p)).1 0 body)
  | wrote {info : DownloadResponse} {n off off' : ℕ} {data rest rest' : List β} :
      Goes C A p v (.copying info n off rest) (v.write default n off data)
        (.copying info n off' rest')
  | closed {info : DownloadResponse} {n off : ℕ} {rest : List β} :
      Goes C A p v (.copying info n off rest) v (.downloaded info)
  | opened {info : DownloadResponse} {n : ℕ} (hmust : MustCheck p info)
      (hname : v.names (tempFile A p) = some n) :
      Goes C A p v (.downloaded info) v (.hashing info n [])
  | unchecked {info : DownloadResponse} (hmust : ¬ MustCheck p info) :
      Goes C A p v (.downloaded info) v (.checked info)
  | hashed {info : DownloadResponse} {n : ℕ} {seen : List β} (k : ℕ) :
      Goes C A p v (.hashing info n seen) v
        (.hashing info n (seen ++ ((v.inodes n).drop seen.length).take k))
  | passed {info : DownloadResponse} {n : ℕ} {seen : List β}
      (hend : (v.inodes n).length ≤ seen.length) (hhash : C.hex (C.sha256 seen) = info.sha256) :
      Goes C A p v (.hashing info n seen) v (.checked info)
  | moved {info : DownloadResponse} {n : ℕ} (hname : v.names (tempFile A p) = some n) :
      Goes C A p v (.checked info) (v.rename (tempFile A p) (finalPath A p)) (.moved info n)
  | ran {info : DownloadResponse} {n : ℕ} {r : JobResultSubmission} :
      Goes C A p v (.moved info n) v (.returned r info n)
  | removed {err : String} : Goes C A p v (.removing err) (v.remove (tempFile A p)) (.failed err)
  | kept {err : String} : Goes C A p v (.removing err) v (.failed err)
  | reported {st : Stage β} {r : JobResultSubmission} : Goes C A p v st v (.reported r)

lemma goes_step [Inhabited β] (C : Update.Crypto β κ) (A : Agent) (p : FileTransferPayload)
    (x : Turn β) (v : Drop β) (st : Stage β) :
    Goes C A p v st (st.step C A p x v).1 (st.step C A p x v).2 := by
  cases st with
  | starting =>
    simp only [Stage.step, prepare]
    split
    · exact .refused
    split
    · exact .refused
    split
    · exact .refused
    split
    · exact .refused
    split
    · exact .refused
    · exact .prepared
  | downloading info =>
    simp only [Stage.step, startDownload]
    split
    · exact .gaveUp id
    · exact .gaveUp id
    split
    · exact .gaveUp id
    split
    · exact .gaveUp id
    · exact .created
  | copying info n off rest =>
    simp only [Stage.step]
    split
    · exact .gaveUp id
    · exact .closed
    · exact .wrote
  | downloaded info =>
    simp only [Stage.step, openTemp]
    split
    · rename_i hmust
      split
      · exact .gaveUp id
      · exact .gaveUp id
      · rename_i hname
        exact .opened hmust hname
    · rename_i hmust
      exact .unchecked hmust
  | hashing info n seen =>
    simp only [Stage.step, hashPiece]
    split
    · exact .gaveUp id
    split
    · rename_i hend
      split
      · exact .gaveUp id
      · rename_i hhash
        exact .passed hend (not_not.mp hhash)
    · exact .hashed x.size
  | checked info =>
    simp only [Stage.step, moveFile]
    split
    · exact .gaveUp id
    · exact .gaveUp id
    · rename_i hname
      exact .moved hname
  | moved info n => exact .ran
  | removing err =>
    simp only [Stage.step]
    split
    · exact .kept
    · exact .removed
  | _ => exact .reported

section

variable [Inhabited β] (C : Update.Crypto β κ) (A : Agent) (p : FileTransferPayload)

/-- A transfer that stands here can run alone to its end, with this submission and these files. -/
inductive Ends : Drop β → Stage β → JobResultSubmission × Disk β → Prop
  | over {v : Drop β} {st : Stage β} {r : JobResultSubmission} (h : st.result = some r) :
      Ends v st (r, v.content)
  | step {v : Drop β} {st : Stage β} {r : JobResultSubmission × Disk β} (x : Turn β)
      (h : Ends (st.step C A p x v).1 (st.step C A p x v).2 r) : Ends v st r

variable {C A p} {v : Drop β} (io : Io β) (info : DownloadResponse)

variable {r : JobResultSubmission × Disk β}

end

end Moebius.FileTransfer
