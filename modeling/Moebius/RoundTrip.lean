import Moebius.FileTransfer
import Moebius.ServerSteps
import Moebius.Upload

/-!
From an upload to a device.

The agent's client is put together with the server: the address of the server, the two routes that
lead to files, and the handlers behind them. The metadata of a file that was uploaded without a
signature does not scan, and the URL a signed one is handed out with is relative to a server the
client is not told.
-/

namespace Moebius.RoundTrip

open FileTransfer Upload Proc Files
open Update (Fetched)

variable {β κ : Type}

def cut (start text : List Char) : Option (List Char) :=
  if start <+: text then some (text.drop start.length) else none

@[simp] lemma cut_append {start text : List Char} : cut start (start ++ text) = some text := by
  simp [cut]

/-- The client needs a scheme it knows. -/
def isAbsolute (url : String) : Bool :=
  (cut "http://".toList url.toList).isSome || (cut "https://".toList url.toList).isSome

inductive Route
  | download (fileID : String)
  | fileData (fileID : String)

/-- The routes to files; an identifier in the path is one segment. -/
def route (path : List Char) : Option Route :=
  match cut "/v1/agents/files/".toList path with
  | some rest =>
    (cut "/download".toList.reverse rest.reverse).bind fun id =>
      if '/' ∈ id then none else some (.download (String.ofList id.reverse))
  | none =>
    (cut "/v1/files/data/".toList path).bind fun id =>
      if '/' ∈ id then none else some (.fileData (String.ofList id))

structure Server (β : Type) where
  url : String
  files : Files.Config
  env : Env
  store : Store β
  json : Codec DownloadResponse β
  errorBody : String → String → List β

namespace Server

variable (S : Server β)

def encodeReply : Reply DownloadResponse → Fetched β
  | .ok status info => .response status (S.json.encode info)
  | .error status code msg => .response status (S.errorBody code msg)

def notFound : Fetched β := .response 404 (S.errorBody "not_found" "404 page not found")

/-- `ServeFileData`, for a request without conditions. -/
def serveFileData (fileID : String) : Fetched β :=
  match S.store.objects.content fileID with
  | none => S.encodeReply (.err 404 "file data not found")
  | some data => .response 200 data

variable (cert : Option ClientCert)

def serve : Option Route → Fetched β
  | some (.download fileID) =>
    S.encodeReply ((agent S.files S.env cert (download S.env fileID)).run []
      S.store.db).1
  | some (.fileData fileID) => S.serveFileData fileID
  | none => S.notFound

/-- The client of an agent with this certificate; `elsewhere` is what other servers answer. -/
def client (elsewhere : String → Fetched β) (url : String) : Fetched β :=
  if isAbsolute url = false then
    .unreachable ("Get \"" ++ url ++ "\": unsupported protocol scheme \"\"")
  else match cut S.url.toList url.toList with
    | none => elsewhere url
    | some path => S.serve cert (route path)

end Server

/-- An upload to be completed, and a job of an agent that fetches the file afterwards. -/
structure Trip (β κ : Type) where
  cfg : Config β κ
  env : Env
  caller : Caller
  uploadID : String
  store : Store β
  /-- The session, as it is when the upload is completed. -/
  session : UploadRow
  found : store.uploads.get? uploadID = some session
  server : Server β
  cert : Option ClientCert
  elsewhere : String → Fetched β
  agent : Agent
  payload : FileTransferPayload
  io : Io β
  disk : Disk β

namespace Trip

variable (x : Trip β κ)

def upload : Reply Files.File × Store β :=
  completeUpload x.cfg x.env x.caller x.uploadID x.store

def job : JobResultSubmission × Disk β :=
  let server := { x.server with store := x.upload.2 }
  executeFileTransfer x.cfg.crypto x.agent
    { x.io with
      client := server.client x.cert x.elsewhere
      decodeInfo := fun body =>
        match server.json.decode body with
        | none => .error "invalid character"
        | some info => .ok info }
    (.ok x.payload) x.disk

/-- The upload has been completed; the job is for its file and asks for nothing special, and is
run by an agent of the tenant that has space and meets no failure of its own. -/
structure Ready : Prop where
  completed : ∃ f, x.upload.1 = .ok 200 f
  fileID : x.payload.fileID = x.session.fileID
  integrity : x.payload.integrity = none
  onComplete : x.payload.onComplete = none
  serverURL : x.agent.serverURL = x.server.url ∧ isAbsolute x.server.url
  tenant : ∃ cert device, x.cert = some cert ∧
    x.store.db.devices.get? cert.commonName = some device ∧ device.tenantID = x.caller.tenantID
  space : ∀ file, x.store.db.files.get? x.session.fileID = some file →
    checkSpace x.io x.payload.storage file.sizeBytes = .ok ()
  quiet : x.io.mkdir = none ∧ x.io.save = .all ∧ x.io.hash = none ∧ x.io.rename = none

/-- The job reports success and the file is the one that was uploaded. -/
def Delivered : Prop :=
  x.job.1.status = "completed" ∧
    x.job.2 (finalPath x.agent x.payload) = x.upload.2.objects.content x.session.fileID

end Trip

/-! ### The trip is never made -/

variable (cfg : Files.Config) (env : Env) (fileID : String)

lemma isAbsolute_storageURL : isAbsolute (storageURL fileID) = false := by
  have hrest : (storageURL fileID).toList =
      '/' :: ("v1/files/data/".toList ++ fileID.toList) := String.toList_append
  simp [isAbsolute, cut, hrest]

/-- What the agent is told about a download names no server. -/
def Relative : Reply DownloadResponse → Prop
  | .ok _ info => ∃ fileID, info.url = storageURL fileID
  | .error status _ _ => status ≠ 200

lemma wp_download {ctx : Caller} {db : Db} :
    (download env fileID ctx).wp (fun _ _ => True) (fun r _ => Relative r) db := by
  have hload : (loadFile ctx.tenantID fileID).ReadOnly := by
    refine readOnly_bind (readOnly_read _) fun row => ?_
    cases row <;> trivial
  refine wp_bind_of_readOnly hload trivial fun f => ?_
  cases f with
  | none => exact (by decide : (404 : ℕ) ≠ 200)
  | some f =>
    dsimp only
    split
    · exact (by decide : (409 : ℕ) ≠ 200)
    · exact ⟨fileID, rfl⟩

lemma wp_limited {cfg : Files.Config} {next : ApiAuth.Handler DownloadResponse} {db : Db}
    (h : ∀ ctx, (next ctx).wp (fun _ _ => True) (fun r _ => Relative r) db) {ctx : Caller} :
    (limited cfg next ctx).wp (fun _ _ => True) (fun r _ => Relative r) db := by
  unfold limited
  rcases cfg.auth.limit with _ | limit
  · exact h ctx
  dsimp only [ApiAuth.perTenant]
  split
  · exact h ctx
  split
  · exact h ctx
  · exact (by decide : (429 : ℕ) ≠ 200)

lemma relative_download (cert : Option ClientCert) (fileID : String) (faults : List Bool)
    (db : Db) :
    Relative ((agent cfg env cert (download env fileID)).run faults db).1 := by
  have hw : (agent cfg env cert (download env fileID)).wp (fun _ _ => True)
      (fun r _ => Relative r) db := by
    refine wp_authenticate trivial (fun n code msg hn => ?_) fun who _ => ?_
    · exact fun h => absurd (h ▸ hn) (by decide)
    · exact wp_limited (fun ctx => wp_download env fileID)
  exact wp_run hw faults

variable {C : Update.Crypto β κ} {A : Agent} {io : Io β} {S : Server β}
  {cert : Option ClientCert} {elsewhere : String → Fetched β}

lemma route_download (rest : List Char) : route ("/v1/agents/files/".toList ++ rest) = none ∨
      ∃ fileID, route ("/v1/agents/files/".toList ++ rest) = some (.download fileID) := by
  simp only [route, cut_append]
  cases cut "/download".toList.reverse rest.reverse with
  | none => exact .inl rfl
  | some id =>
    simp only [Option.bind_some]
    split
    · exact .inl rfl
    · exact .inr ⟨_, rfl⟩

lemma url_of_getDownloadInfo {fileID : String} {info : DownloadResponse}
    (hurl : A.serverURL = S.url) (hclient : io.client = S.client cert elsewhere)
    (hdecode : ∀ body info, io.decodeInfo body = .ok info → S.json.decode body = some info)
    (h : getDownloadInfo C A io fileID = .ok info) :
    ∃ fileID, info.url = storageURL fileID := by
  unfold getDownloadInfo at h
  have hlist : (A.serverURL ++ "/v1/agents/files/" ++ fileID ++ "/download").toList =
      S.url.toList ++ ("/v1/agents/files/".toList ++ (fileID.toList ++ "/download".toList)) := by
    simp only [hurl, String.toList_append, List.append_assoc]
  rw [hclient, Server.client] at h
  by_cases habs : isAbsolute (A.serverURL ++ "/v1/agents/files/" ++ fileID ++ "/download") = false
  · rw [if_pos habs] at h
    cases h
  rw [if_neg habs, hlist, cut_append] at h
  dsimp only at h
  rcases route_download (fileID.toList ++ "/download".toList) with hroute | ⟨id, hroute⟩
  · rw [hroute] at h
    simp [Server.serve, Server.notFound] at h
  · rw [hroute, Server.serve] at h
    have hrel := relative_download S.files S.env cert id [] S.store.db
    generalize ((agent S.files S.env cert (download S.env id)).run []
      S.store.db).1 = r at h hrel
    cases r with
    | error status code msg =>
      have hne : status ≠ 200 := hrel
      simp only [Server.encodeReply, if_pos hne] at h
      cases h
    | ok status info' =>
      simp only [Server.encodeReply] at h
      split at h
      · cases h
      split at h
      · cases h
      · rename_i info'' hinfo
        cases h
        have hdec := hdecode _ _ hinfo
        rw [S.json.decode_encode] at hdec
        cases hdec
        exact hrel

lemma fetch_failed {p : FileTransferPayload} {info : DownloadResponse} {d : Disk β}
    (hclient : io.client = S.client cert elsewhere)
    (hurl : ∃ fileID, info.url = storageURL fileID) :
    (fetch C A io p info d).1.status = "failed" := by
  obtain ⟨fileID, hurl⟩ := hurl
  unfold fetch
  split
  · rfl
  split
  · rfl
  rw [hclient, hurl, Server.client, if_pos (isAbsolute_storageURL fileID)]
  rfl

lemma Trip.job_failed {x : Trip β κ} (h : x.agent.serverURL = x.server.url) :
    x.job.1.status = "failed" := by
  unfold job executeFileTransfer
  dsimp only
  split
  · rfl
  split
  · rfl
  split
  · rfl
  rename_i info hinfo
  refine @fetch_failed _ _ _ _ _ { x.server with store := x.upload.2 } x.cert x.elsewhere _ _ _ rfl
    (@url_of_getDownloadInfo _ _ _ _ _ { x.server with store := x.upload.2 } x.cert x.elsewhere
      _ _ h rfl ?_ hinfo)
  intro body info hok
  dsimp only at hok
  split at hok
  · cases hok
  · rename_i hdec
    cases hok
    exact hdec

/-- No completed upload is delivered, so the round trip holds only where there is nothing to
deliver. -/
theorem round_trip_iff (x : Trip β κ) : (x.Ready → x.Delivered) ↔ ¬ x.Ready := by
  constructor
  · intro h hready
    have hfailed := Trip.job_failed hready.serverURL.1
    rw [(h hready).1] at hfailed
    exact absurd hfailed (by decide)
  · intro h hready
    exact absurd hready h

namespace Sample

/-- Data in which an answer of the server is a single token. -/
inductive Token
  | byte
  | info (r : DownloadResponse)

instance : Inhabited Token := ⟨.byte⟩

def json : Codec DownloadResponse Token where
  encode := fun r => [.info r]
  decode := fun data => match data with
    | [.info r] => some r
    | _ => none
  decode_encode := fun _ => rfl

variable (signed : Bool)

def file : FileRow :=
  if signed then
    { Upload.Sample.file with signature := some "sig", signatureKeyID := some "key" }
  else Upload.Sample.file

def store : Store Token :=
  { Upload.Sample.store with
    db := { Moebius.Sample.db with files := ⟨[file signed], by simp⟩ }
    signingKeys := ⟨[{ id := "key", tenantID := "t", publicKey := "pem" }], by decide⟩ }

def server : Server Token where
  url := "https://server"
  files :=
    { auth := { hashAPIKey := id }, ilike := fun a b => a = b, textBefore := fun _ _ => false
      serveContent := fun _ f => ⟨200, f.content⟩, baseDir := ["files"] }
  env := Upload.Sample.env (2 * second) "y"
  store := { db := {} }
  json := json
  errorBody := fun _ _ => []

def trip : Trip Token Unit where
  cfg := Upload.Sample.cfg
  env := Upload.Sample.env second "x"
  caller := Upload.Sample.caller
  uploadID := "upl"
  store := store signed
  session := Upload.Sample.session
  found := rfl
  server := server
  cert := some (Moebius.Sample.cert "d")
  elsewhere := fun _ => .unreachable ""
  agent := { serverURL := "https://server", dropDir := "/drop" }
  payload := { fileID := "fil" }
  io :=
    { notExist := "", client := fun _ => .unreachable "", decodeInfo := fun _ => .error ""
      statfs := some (.ok 100), half := { scale := id, percent := "50" } }
  disk := fun _ => none

lemma ready (signed : Bool) : (trip signed).Ready where
  completed := by cases signed <;> exact ⟨_, rfl⟩
  fileID := rfl
  integrity := rfl
  onComplete := rfl
  serverURL := ⟨rfl, by cases signed <;> decide⟩
  tenant := ⟨Moebius.Sample.cert "d", { id := "d", tenantID := "t" }, rfl,
    by cases signed <;> decide, rfl⟩
  space := by
    intro f hf
    cases signed <;> cases hf <;> rfl
  quiet := ⟨rfl, rfl, rfl, rfl⟩

end Sample

/-- Without a signature the server does not find the file's metadata, with one the agent cannot
follow the URL. -/
theorem sample_trips_fail :
    (∀ signed, ¬ ((Sample.trip signed).Ready → (Sample.trip signed).Delivered)) ∧
      (Sample.trip false).job.1.message = "failed to get download info: server returned 404: " ∧
      (Sample.trip true).job.1.message =
        "download failed: GET file: Get \"/v1/files/data/fil\": " ++
          "unsupported protocol scheme \"\"" := by
  refine ⟨fun signed h => ?_, by decide, by decide⟩
  have hfailed := Trip.job_failed (Sample.ready signed).serverURL.1
  rw [(h (Sample.ready signed)).1] at hfailed
  exact absurd hfailed (by decide)

end Moebius.RoundTrip
