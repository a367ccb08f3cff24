import Moebius.UploadOrder
import Moebius.UploadRace

/-!
The size that was declared and the size that is stored.

The quota is checked against the declared size, and so is the number of chunks derived from it; the
length of a chunk is only bounded, and of what is stored only the hash is compared with what was
declared. So the size is right as far as the declared hash stands for it.
-/

namespace Moebius.Upload

open List Function Files Table Store

variable {β κ : Type}

/-! ### Runs -/

def fileSizeLimit (quota : Option Jobs.Defaults) (tenantID : String) (db : Db) : Option ℤ := do
  let d ← quota
  let tenant ← db.tenants.get? tenantID
  let limit := ((tenant.quotas.map (Jobs.applyOverride d)).getD d).maxFileSizeBytes
  if limit < 0 then none else some limit

lemma le_of_checkFileSize {quota : Option Jobs.Defaults} {tenantID : String} {size limit : ℤ}
    {db : Db} (h : checkFileSize quota tenantID size db = .ok ())
    (hlimit : fileSizeLimit quota tenantID db = some limit) : size ≤ limit := by
  cases quota with
  | none => cases hlimit
  | some d =>
    simp only [checkFileSize] at h
    cases ht : db.tenants.get? tenantID with
    | none => simp [fileSizeLimit, ht] at hlimit
    | some tenant =>
      simp only [ht] at h
      simp only [fileSizeLimit, ht, Option.bind_eq_bind, Option.bind_some] at hlimit
      generalize ((tenant.quotas.map (Jobs.applyOverride d)).getD d).maxFileSizeBytes = m
        at h hlimit
      split at hlimit
      · cases hlimit
      · cases hlimit
        split at h
        · contradiction
        split at h
        · cases h
        · omega

inductive LedgerEvent (β : Type)
  /-- An upload of a chunk or a completion begins or takes a step, which may fail. -/
  | desk (a : Desk.Act β)
  /-- An upload is initiated. A statement of its transaction may fail; that the staging directory
  cannot be made goes unnoticed. -/
  | initiate (env : Env) (caller : Caller) (body : Option InitiateRequest) (fault staged : Bool)
  /-- Somebody changes the tenants and their quotas. -/
  | tenants (t : Table TenantRow.id)

/-- The requests at work, with what has been promised about the files. -/
structure Ledger (β : Type) where
  desk : Desk β
  /-- The limit in force when the upload of a file was initiated. -/
  limits : String → Option ℤ := fun _ => none

namespace Ledger

variable (cfg : Config β κ)

/-- The limit that was in force for the file of an upload that has been initiated. -/
def noteLimit (env : Env) (caller : Caller) (body : Option InitiateRequest) (l : Ledger β) :
    String → Option ℤ :=
  match (initiateUpload cfg env caller body l.desk.state).1 with
  | .ok _ resp =>
    update l.limits resp.fileID (fileSizeLimit cfg.quota caller.tenantID l.desk.state.db)
  | .error _ _ _ => l.limits

def initiate (env : Env) (caller : Caller) (body : Option InitiateRequest) (staged : Bool)
    (l : Ledger β) : Ledger β :=
  let s := (initiateUpload cfg env caller body l.desk.state).2
  { desk := { l.desk with
      state := { s with stage := if staged then s.stage else l.desk.state.stage } }
    limits := l.noteLimit cfg env caller body }

def step (l : Ledger β) : LedgerEvent β → Ledger β
  | .desk a => { l with desk := l.desk.after cfg a }
  | .initiate env caller body fault staged =>
    if fault then l else l.initiate cfg env caller body staged
  | .tenants t =>
    { l with
      desk := { l.desk with
        state := { l.desk.state with db := { l.desk.state.db with tenants := t } } } }

def start (db : Db) (signingKeys : Table SigningKeyRow.id) : Ledger β :=
  { desk := { state := { db, signingKeys } } }

/-- Completions of one session do not overlap, and their marks on it do not fail. -/
def Calm (l : Ledger β) : LedgerEvent β → Prop
  | .desk a => l.desk.Orderly cfg a ∧ l.desk.Marked a
  | .initiate .. => True
  | .tenants _ => True

instance (l : Ledger β) : DecidablePred (l.Calm cfg) := fun e => by
  unfold Calm
  split <;> infer_instance

end Ledger

/-- Only data of this size has this hash. -/
def Stands (cfg : Config β κ) (sha256 : String) (size : ℤ) : Prop :=
  ∀ data, cfg.crypto.hex (cfg.crypto.sha256 data) = sha256 → (data.length : ℤ) = size

/-- What is declared about a file is true of all data with the declared hash. -/
def LedgerEvent.Truthful (cfg : Config β κ) : LedgerEvent β → Prop
  | .initiate _ _ body _ _ => ∀ req ∈ body, Stands cfg req.sha256 req.sizeBytes
  | _ => True

/-! ### The invariant -/

structure Fits (cfg : Config β κ) (l : Ledger β) : Prop where
  sound : l.desk.Sound cfg fun _ => True
  files : ∀ id row, l.desk.state.uploads.get? id = some row → ∃ file,
    l.desk.state.db.files.get? row.fileID = some file ∧ Stands cfg file.sha256 file.sizeBytes ∧
      ∀ limit, l.limits row.fileID = some limit → file.sizeBytes ≤ limit

section

variable {cfg : Config β κ} {l : Ledger β}

lemma Fits.desk {a : Desk.Act β} (h : Fits cfg l) (hcalm : l.Calm cfg (.desk a)) :
    Fits cfg (l.step cfg (.desk a)) := by
  refine ⟨h.sound.after hcalm.1 hcalm.2 fun _ _ => trivial, fun id row hrow => ?_⟩
  have hrows : SameRows l.desk.state (l.desk.after cfg a).state := Desk.sameRows_after
  have hsession := hrows.sessions id
  rw [show (l.desk.after cfg a).state.uploads.get? id = some row from hrow, Option.map_some]
    at hsession
  obtain ⟨row₀, hrow₀, hid⟩ := Option.map_eq_some_iff.mp hsession.symm
  obtain ⟨file, hfile, hstands, hlimit⟩ := h.files id row₀ hrow₀
  rw [hid] at hfile hlimit
  obtain ⟨file', hfile', hsha, hsize⟩ := hrows.files _ file hfile
  refine ⟨file', hfile', ?_, fun limit hl => ?_⟩
  · rw [hsha, hsize]
    exact hstands
  · rw [hsize]
    exact hlimit limit hl

lemma Fits.initiate {env : Env} {caller : Caller} {body : Option InitiateRequest} {staged : Bool}
    (h : Fits cfg l) (htrue : ∀ req ∈ body, Stands cfg req.sha256 req.sizeBytes) :
    Fits cfg (l.initiate cfg env caller body staged) := by
  unfold Ledger.initiate Ledger.noteLimit
  rcases initiateUpload_cases cfg env caller body l.desk.state with ⟨r, hr, hs⟩ |
    ⟨req, file, upload, files, uploads, resp, hbody, hinit, hresp, hs⟩
  · obtain ⟨n, code, msg, rfl⟩ := hr
    simpa [hs] using h
  have hfiles : ∀ {id f}, l.desk.state.db.files.get? id = some f → files.get? id = some f :=
    get?_insert_of_some hinit.files
  have huploads : ∀ id row, uploads.get? id = some row →
      l.desk.state.uploads.get? id = some row ∧ row.fileID ≠ file.id ∨ row = upload := by
    intro id row hrow
    rw [get?_insert hinit.uploads] at hrow
    split at hrow
    · exact .inr (Option.some.inj hrow).symm
    · refine .inl ⟨hrow, fun he => ?_⟩
      obtain ⟨f, hf, -⟩ := h.files id row hrow
      rw [he, fresh_of_insert hinit.files] at hf
      cases hf
  simp only [hs]
  refine ⟨h.sound.outside (fun a b ra rb _ _ hra hrb heq => ?_) fun id => ⟨fun row hrow => ?_,
    fun id f hf => ⟨f, hfiles hf, rfl⟩⟩, fun id row hrow => ?_⟩
  · have hka := key_of_get? hra
    have hkb := key_of_get? hrb
    rcases huploads a ra hra with ⟨hra', hna⟩ | rfl <;>
      rcases huploads b rb hrb with ⟨hrb', hnb⟩ | rfl
    · exact h.sound.apart a b ra rb trivial trivial hra' hrb' heq
    · exact absurd (heq.trans hinit.fileID) hna
    · exact absurd (heq.symm.trans hinit.fileID) hnb
    · exact hka.symm.trans hkb
  · exact ⟨row, get?_insert_of_some hinit.uploads hrow, rfl, rfl, .refl⟩
  · rcases huploads id row hrow with ⟨hrow', hne⟩ | rfl
    · obtain ⟨f, hf, hstands, hlimit⟩ := h.files id row hrow'
      refine ⟨f, hfiles hf, hstands, fun limit hl => hlimit limit ?_⟩
      change update l.limits resp.fileID _ _ = _ at hl
      rwa [hresp, update_of_ne hne] at hl
    · refine ⟨file, ?_, ?_, fun limit hl => ?_⟩
      · change files.get? row.fileID = some file
        rw [hinit.fileID, get?_insert hinit.files, if_pos rfl]
      · rw [hinit.size, hinit.sha256]
        exact htrue req hbody
      · change update l.limits resp.fileID _ _ = _ at hl
        rw [hresp, hinit.fileID, update_self] at hl
        rw [hinit.size]
        exact le_of_checkFileSize hinit.quota hl

lemma Fits.step {e : LedgerEvent β} (h : Fits cfg l) (hcalm : l.Calm cfg e)
    (htrue : e.Truthful cfg) : Fits cfg (l.step cfg e) := by
  cases e with
  | desk a => exact h.desk hcalm
  | initiate env caller body fault staged =>
    cases fault
    · exact h.initiate htrue
    · exact h
  | tenants t =>
    exact ⟨h.sound.outside h.sound.apart fun id => ⟨fun row hrow => ⟨row, hrow, rfl, rfl, .refl⟩,
      fun _ f hf => ⟨f, hf, rfl⟩⟩, h.files⟩

end

namespace Sample

def initiate (sha256 : String) : LedgerEvent ℕ :=
  .initiate (env 0 "x") caller (some { filename := "file", sizeBytes := 2, sha256 }) false true

/-- Thread `k` completes the upload. -/
def finish (k : ℕ) : List (LedgerEvent ℕ) :=
  .desk (.spawn (.complete (env 2 "z") caller "upl_x")) :: .desk (handlerStep k) ::
    (storeFile k).map .desk

end Sample

end Moebius.Upload
