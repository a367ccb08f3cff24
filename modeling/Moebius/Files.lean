import Mathlib.Data.List.Sort
import Moebius.ApiAuth
import Moebius.Float64

/-!
The endpoints that hand out files: metadata and lists to API callers, download links to agents, and
the data itself.

The first three read the `files` table and ask for the tenant. The data is served from the storage
backend, by the identifier in the path alone, and nobody has to say who they are.
-/

namespace Moebius.Files

open Proc ApiAuth

structure Stored where
  content : String
  modTime : Time

abbrev Disk := List String → Option Stored

/-- `filepath.Clean` of a rooted path, by its components. -/
def clean (components : List String) : List String :=
  components.foldl
    (fun acc c =>
      if c = "" ∨ c = "." then acc else if c = ".." then acc.dropLast else acc ++ [c]) []

def path (baseDir : List String) (key : String) : List String := clean (baseDir ++ key.splitOn "/")

/-! ### Handlers -/

/-- What `http.ServeContent` writes. -/
structure Served where
  status : ℕ
  body : String

structure Config where
  auth : ApiAuth.Config
  /-- `filename ILIKE '%search%'`. -/
  ilike : String → String → Bool
  /-- How the database compares text. -/
  textBefore : String → String → Bool
  /-- `http.ServeContent`, for the headers of the request. -/
  serveContent : List (String × String) → Stored → Served
  /-- The directory of the local backend. -/
  baseDir : List String

structure File where
  id : String
  tenantID : String
  filename : String
  sizeBytes : ℤ
  sha256 : String
  signature : String
  signatureKeyID : String
  signatureVerified : Bool
  mimeType : String
  storageBackend : String
  storagePath : String
  createdBy : String
  createdAt : Time

/-- `Scan` of a row: `NULL` does not scan into a string. -/
def scanFile (row : FileRow) : Option File := do
  let signature ← row.signature
  let signatureKeyID ← row.signatureKeyID
  let mimeType ← row.mimeType
  let createdBy ← row.createdBy
  return {
    id := row.id, tenantID := row.tenantID, filename := row.filename, sizeBytes := row.sizeBytes
    sha256 := row.sha256, signature, signatureKeyID, signatureVerified := row.signatureVerified
    mimeType, storageBackend := row.storageBackend, storagePath := row.storagePath, createdBy
    createdAt := row.createdAt }

variable (cfg : Config) (tenantID : String) (env : Env) (n : Option ℤ) (fileID : String)

/-- `WHERE id = $1 AND tenant_id = $2`. -/
def file? (db : Db) : Option FileRow :=
  db.files.rows.find? fun f => f.id = fileID ∧ f.tenantID = tenantID

/-- The query `GetFile` and `Download` have in common; they do not tell its errors apart. -/
def loadFile : Proc Db (Option File) := do
  match ← read (file? tenantID fileID) with
  | none => pure none
  | some row => pure (row.bind scanFile)

def getFile : Handler File := fun ctx => do
  match ← loadFile ctx.tenantID fileID with
  | none => pure (.err 404 "file not found")
  | some f => pure (.ok 200 f)

structure Page where
  data : List File
  nextCursor : String
  hasMore : Bool
  limit : ℕ

/-- The limit of `ParsePagination`, from what `strconv.Atoi` makes of the parameter. -/
def pageLimit : ℕ :=
  match n with
  | none => 50
  | some n => if 0 < n then min n.toNat 500 else 50

/-- `ORDER BY created_at DESC, id DESC`. -/
def newestFirst (a b : FileRow) : Prop :=
  b.createdAt < a.createdAt ∨ b.createdAt = a.createdAt ∧ cfg.textBefore a.id b.id = false
  deriving Decidable

def selectFiles (tenantID : String) (limit : ℕ) (cursor search : String) (db : Db) : List FileRow :=
  ((env.scanFiles.order (db.files.select fun f =>
    f.tenantID = tenantID && (search == "" || cfg.ilike f.filename search) &&
      (cursor == "" || cfg.textBefore f.id cursor))).insertionSort (newestFirst cfg)).take
    (limit + 1)

def listFiles (cursor search : String) : Handler Page := fun ctx => do
  match ← read (selectFiles cfg env ctx.tenantID (pageLimit n) cursor search) with
  | none => pure (.err 500 "failed to list files")
  | some rows =>
    match rows.mapM scanFile with
    | none => pure (.err 500 "failed to read files")
    | some files =>
      let hasMore := decide (pageLimit n < files.length)
      let data := if hasMore then files.take (pageLimit n) else files
      pure (.ok 200
        { data, hasMore, limit := pageLimit n
          nextCursor := if hasMore then (data.getLast?.map (·.id)).getD "" else "" })

def defaultChunkSize : ℤ := 5 * 1024 * 1024

structure DownloadResponse where
  url : String
  sizeBytes : ℤ
  chunkSizeBytes : ℤ
  totalChunks : ℤ
  sha256 : String
  signature : String
  signatureKeyID : String
  expiresAt : Time

def storageURL (key : String) : String := "/v1/files/data/" ++ key

def download : Handler DownloadResponse :=
  fun ctx => do
    match ← loadFile ctx.tenantID fileID with
    | none => pure (.err 404 "file not found")
    | some f =>
      if f.signature ≠ "" ∧ f.signatureVerified = false then
        pure (.error 409 "signature_unverified"
          "file has a stored signature that was not verified server-side")
      else
        pure (.ok 200
          { url := storageURL fileID, sizeBytes := f.sizeBytes, chunkSizeBytes := defaultChunkSize
            totalChunks := Float64.ceilQuotient f.sizeBytes defaultChunkSize, sha256 := f.sha256
            signature := f.signature, signatureKeyID := f.signatureKeyID
            expiresAt := env.now + 300 * second })

def serveFileData (disk : Disk) (fileID : String) (headers : List (String × String)) :
    Reply String :=
  match disk (path cfg.baseDir fileID) with
  | none => .err 404 "file data not found"
  | some f => .ok (cfg.serveContent headers f).status (cfg.serveContent headers f).body

/-- A request with the credentials it carries: a header for the API, a certificate for agents. -/
inductive Request
  | getFile (authorization fileID : String)
  | listFiles (authorization : String) (limit : Option ℤ) (cursor search : String)
  | download (cert : Option ClientCert) (fileID : String)
  | fileData (fileID : String) (headers : List (String × String))

inductive Response
  | file (r : Reply File)
  | files (r : Reply Page)
  | download (r : Reply DownloadResponse)
  | data (r : Reply String)

def limited {β : Type} (cfg : Config) (next : Handler β) : Handler β :=
  match cfg.auth.limit with
  | none => next
  | some limit => perTenant limit next

def api {β : Type} (cfg : Config) (env : Env) (authorization : String)
    (next : Handler β) : Proc Db (Reply β) :=
  chain cfg.auth env authorization (require "files:read" next)

/-- Behind the authentication of agents, whose tenant is that of the device. -/
def agent {β : Type} (cfg : Config) (env : Env) (cert : Option ClientCert)
    (next : Handler β) : Proc Db (Reply β) :=
  authenticate (env.clock 4) cert fun who =>
    limited cfg next { anonymous with tenantID := who.tenantID }

/-- What the server answers; `faults` are the queries that fail. -/
def respond (faults : List Bool) (db : Db) (disk : Disk) : Request → Response
  | .getFile authorization fileID =>
    .file ((api cfg env authorization (getFile fileID)).run faults db).1
  | .listFiles authorization limit cursor search =>
    .files ((api cfg env authorization (listFiles cfg env limit cursor search)).run faults db).1
  | .download cert fileID =>
    .download ((agent cfg env cert (download env fileID)).run faults db).1
  | .fileData fileID headers => .data (serveFileData cfg disk fileID headers)

end Moebius.Files
