import Mathlib.Data.Int.Interval
import Moebius.Runs
import Moebius.UploadThreads

/-!
Runs of upload requests, one after the other.

The journal keeps, beside the store, the bytes of every chunk as they were accepted last. For a
session that is open these are the staged chunks, exactly for the indices in `uploaded_chunks`;
there are as many of them as chunks are due only when none is missing.
-/

namespace Moebius.Upload

open List Store Table Function Volume

variable {β κ : Type}

inductive Event (β : Type)
  | initiate (env : Env) (caller : Caller) (body : Option InitiateRequest)
  | request (req : Request β)

structure Journal (β : Type) where
  store : Store β
  /-- The bytes of a chunk, by upload and index, as they were accepted last. -/
  accepted : String × ℤ → Option (List β) := fun _ => none

namespace Journal

/-- A database without upload sessions, and storage without objects. -/
def start (db : Db) (signingKeys : Table SigningKeyRow.id) : Journal β :=
  { store := { db, signingKeys } }

def record (req : Request β) (a : Answer) (accepted : String × ℤ → Option (List β)) :
    String × ℤ → Option (List β) :=
  match req, a with
  | .chunk _ _ uploadID req, .chunk (.ok _ resp) =>
    Function.update accepted (uploadID, resp.chunkIndex) (some req.body)
  | _, _ => accepted

def step (cfg : Config β κ) (j : Journal β) : Event β → Journal β
  | .initiate env caller body => { j with store := (initiateUpload cfg env caller body j.store).2 }
  | .request req =>
    { store := (handle cfg j.store req).2
      accepted := record req (handle cfg j.store req).1 j.accepted }

end Journal

/-- `uploaded_chunks` has no index twice, and none out of range. -/
def UploadRow.ChunksOk (row : UploadRow) : Prop :=
  row.uploadedChunks.Nodup ∧ ∀ i ∈ row.uploadedChunks, 0 ≤ i ∧ i < row.totalChunks

/-- What a completion does in the journal `j`; `s` is the store afterwards and `r` the answer. -/
structure CompleteOk (cfg : Config β κ) (j : Journal β) (tenantID uploadID : String)
    (r : Reply Files.File) (s : Store β) : Prop where
  /-- It gets past the check for completeness when every index is there. -/
  check : ∀ row, j.store.session tenantID uploadID = some row →
    ((incomplete row : Option (Reply Files.File)) = none ↔
      ∀ i, 0 ≤ i → i < row.totalChunks → i ∈ row.uploadedChunks)
  /-- A success has stored the latest chunks in the order of their indices. -/
  stored : ∀ f, r = .ok 200 f → ∃ (row : UploadRow) (file : FileRow) (chunks : List (List β)),
    j.store.session tenantID uploadID = some row ∧
    (range row.totalChunks.toNat).map (fun i : ℕ => j.accepted (uploadID, i)) =
      chunks.map some ∧
    s.objects.content row.fileID = some chunks.flatten ∧
    s.db.files.get? row.fileID = some file ∧
    cfg.crypto.hex (cfg.crypto.sha256 chunks.flatten) = file.sha256
  /-- A failure on an open session leaves no object, and everything else as it was. -/
  failed : ∀ row, j.store.uploads.get? uploadID = some row → row.completedAt = none →
    (∀ f, r ≠ .ok 200 f) →
      s.objects.content row.fileID = none ∧ s.uploads = j.store.uploads ∧
        s.db = j.store.db ∧ s.stage = j.store.stage

structure Correct (cfg : Config β κ) (j : Journal β) (e : Event β) : Prop where
  chunks : ∀ row ∈ (j.step cfg e).store.uploads.rows, row.ChunksOk
  /-- The journal says how the request ends, whatever the order of the handler's steps and those
  of the background save. -/
  served : ∀ req, e = .request req → ∀ ticks : List Tick, (∀ k ∈ ticks, k.fault = false) →
    ∀ a, ((Thread.start req).alone cfg ticks j.store).2.Finished a →
      a = (handle cfg j.store req).1 ∧
        ((Thread.start req).alone cfg ticks j.store).1 = (j.step cfg e).store
  complete : ∀ env caller uploadID, e = .request (.complete env caller uploadID) →
    CompleteOk cfg j caller.tenantID uploadID
      (completeUpload cfg env caller uploadID j.store).1 (j.step cfg e).store

structure RowOk (j : Journal β) (row : UploadRow) : Prop where
  total : 0 ≤ row.totalChunks
  file : j.store.db.files.get? row.fileID ≠ none
  chunks : row.ChunksOk
  staged : row.completedAt = none → ∃ dir, j.store.stage row.id = some dir ∧
    ∀ i ∈ row.uploadedChunks, ∃ data, dir i = some data ∧ j.accepted (row.id, i) = some data
  unstored : row.completedAt = none → j.store.objects.content row.fileID = none

/-- Each session has a file of its own. -/
def Own (uploads : Table UploadRow.id) : Prop :=
  ∀ row ∈ uploads.rows, ∀ row' ∈ uploads.rows, row.fileID = row'.fileID → row.id = row'.id

structure Sound (j : Journal β) : Prop where
  rows : ∀ row ∈ j.store.uploads.rows, RowOk j row
  own : Own j.store.uploads
  object : ∀ key, j.store.objects.content key ≠ none →
    ∃ row ∈ j.store.uploads.rows, row.fileID = key

lemma sound_start (db : Db) (keys : Table SigningKeyRow.id) :
    Sound (Journal.start db keys : Journal β) where
  rows := nofun
  own := nofun
  object := fun _ h => absurd rfl h

variable {cfg : Config β κ} {j : Journal β} {env : Env} {caller : Caller} {uploadID : String}

lemma incomplete_eq_none {α : Type} {row : UploadRow} : (incomplete row : Option (Reply α)) = none ↔
      (row.uploadedChunks.length : ℤ) = row.totalChunks := by
  simp [incomplete]

lemma UploadRow.ChunksOk.length_eq_iff {row : UploadRow} (h : row.ChunksOk)
    (htotal : 0 ≤ row.totalChunks) : (row.uploadedChunks.length : ℤ) = row.totalChunks ↔
      ∀ i, 0 ≤ i → i < row.totalChunks → i ∈ row.uploadedChunks := by
  have hcard : row.uploadedChunks.toFinset.card = row.uploadedChunks.length :=
    toFinset_card_of_nodup h.1
  have hrange : (Finset.Ico 0 row.totalChunks).card = row.totalChunks.toNat := by simp
  have hsub : row.uploadedChunks.toFinset ⊆ Finset.Ico 0 row.totalChunks := by
    intro i hi
    have hi' := h.2 i (mem_toFinset.mp hi)
    exact Finset.mem_Ico.mpr hi'
  constructor
  · intro hlen i h0 hi
    have heq : row.uploadedChunks.toFinset = Finset.Ico 0 row.totalChunks :=
      Finset.eq_of_subset_of_card_le hsub (by omega)
    have hmem : i ∈ row.uploadedChunks.toFinset := by
      rw [heq]
      exact Finset.mem_Ico.mpr ⟨h0, hi⟩
    exact mem_toFinset.mp hmem
  · intro hall
    have heq : row.uploadedChunks.toFinset = Finset.Ico 0 row.totalChunks := by
      refine Finset.Subset.antisymm hsub fun i hi => ?_
      have hi' := Finset.mem_Ico.mp hi
      exact mem_toFinset.mpr (hall i hi'.1 hi'.2)
    rw [heq] at hcard
    omega

lemma assembleFrom_eq {chunk : ℕ → Option (List β)} {n i : ℕ} {chunks : List (List β)}
    (h : (range' i n).map chunk = chunks.map some) {acc : List β} :
    assembleFrom chunk n i acc = (acc ++ chunks.flatten, true) := by
  induction n generalizing i chunks acc with
  | zero =>
    cases chunks with
    | nil => simp [assembleFrom]
    | cons data chunks => simp at h
  | succ n ih =>
    cases chunks with
    | nil => simp at h
    | cons data chunks =>
      simp only [range'_succ, map_cons, cons.injEq] at h
      obtain ⟨hdata, hrest⟩ := h
      rw [assembleFrom, hdata]
      simp only [ih hrest, flatten_cons, append_assoc]

lemma assemble_of_complete {row : UploadRow} (hj : Sound j) (hrow : row ∈ j.store.uploads.rows)
    (hopen : row.completedAt = none)
    (hcomplete : (row.uploadedChunks.length : ℤ) = row.totalChunks) : ∃ chunks : List (List β),
      (range row.totalChunks.toNat).map (fun i : ℕ => j.accepted (row.id, i)) =
        chunks.map some ∧
      assemble (j.store.readChunk row.id) row.totalChunks = (chunks.flatten, true) := by
  have hok := hj.rows row hrow
  obtain ⟨dir, hdir, hstaged⟩ := hok.staged hopen
  have hall := (hok.chunks.length_eq_iff hok.total).mp hcomplete
  have hchunk : ∀ i : ℕ, i < row.totalChunks.toNat →
      ∃ data, j.store.readChunk row.id i = some data ∧
        j.accepted (row.id, (i : ℤ)) = some data := by
    intro i hi
    obtain ⟨data, hd, ha⟩ := hstaged i (hall i (by omega) (by omega))
    exact ⟨data, by simp [readChunk, hdir, hd], ha⟩
  let chunks :=
    (range row.totalChunks.toNat).map fun i => (j.store.readChunk row.id i).getD []
  have haccepted : (range row.totalChunks.toNat).map (fun i : ℕ => j.accepted (row.id, i)) =
      chunks.map some := by
    rw [map_map]
    refine map_congr_left fun i hi => ?_
    obtain ⟨data, hread, ha⟩ := hchunk i (mem_range.mp hi)
    simp [hread, ha]
  have hread : (range' 0 row.totalChunks.toNat).map (j.store.readChunk row.id) =
      chunks.map some := by
    rw [← range_eq_range', map_map]
    refine map_congr_left fun i hi => ?_
    obtain ⟨data, hread, -⟩ := hchunk i (mem_range.mp hi)
    simp [hread]
  exact ⟨chunks, haccepted, by rw [assemble, assembleFrom_eq hread, nil_append]⟩

/-! ### What the handlers do -/

variable {now : Time} {i : ℤ} {req : ChunkRequest β} {row₀ : UploadRow}

lemma isError_of_checkChunk {row : UploadRow} {r : Reply ChunkResponse}
    (h : checkChunk cfg now i req row = some r) : IsError r := by
  unfold checkChunk at h
  split at h
  · cases h; exact ⟨_, _, _, rfl⟩
  split at h
  · cases h; exact ⟨_, _, _, rfl⟩
  split at h
  · cases h; exact ⟨_, _, _, rfl⟩
  split at h
  · cases h; exact ⟨_, _, _, rfl⟩
  · cases h

lemma bounds_of_checkChunk {row : UploadRow} (h : checkChunk cfg now i req row = none) :
    0 ≤ i ∧ i < row.totalChunks := by
  unfold checkChunk at h
  split at h
  · cases h
  split at h
  · cases h
  · omega

lemma uploadChunk_cases (cfg : Config β κ) (env : Env) (caller : Caller) (uploadID : String)
    (req : ChunkRequest β) (s : Store β) :
    (∃ r, IsError r ∧ uploadChunk cfg env caller uploadID req s = (r, s)) ∨
    ∃ i row resp expiresAt, req.chunkIndex = some i ∧
      s.session caller.tenantID uploadID = some row ∧ 0 ≤ i ∧ i < row.totalChunks ∧
      resp.chunkIndex = i ∧ uploadChunk cfg env caller uploadID req s = (.ok 200 resp,
        (s.setChunk uploadID i fun _ => some req.body).addChunk uploadID i expiresAt) := by
  unfold uploadChunk
  split
  · exact .inl ⟨_, ⟨_, _, _, rfl⟩, rfl⟩
  rename_i i hi
  split
  · exact .inl ⟨_, ⟨_, _, _, rfl⟩, rfl⟩
  rename_i row hrow
  split
  · rename_i r hr
    exact .inl ⟨r, isError_of_checkChunk hr, rfl⟩
  rename_i hcheck
  obtain ⟨h0, hlt⟩ := bounds_of_checkChunk hcheck
  split
  · exact .inl ⟨_, ⟨_, _, _, rfl⟩, rfl⟩
  · exact .inr ⟨i, row, _, _, hi, hrow, h0, hlt, rfl, rfl⟩

lemma completeUpload_cases (cfg : Config β κ) (env : Env) (caller : Caller) (uploadID : String)
    (s : Store β) :
    (∃ r v, IsError r ∧ completeUpload cfg env caller uploadID s = (r, { s with objects := v }) ∧
      (v = s.objects ∨ ∃ row data, s.session caller.tenantID uploadID = some row ∧
        v = (s.objects.save row.fileID data).remove row.fileID)) ∨
    ∃ row data verified, s.session caller.tenantID uploadID = some row ∧
      (row.uploadedChunks.length : ℤ) = row.totalChunks ∧
      assemble (s.readChunk row.id) row.totalChunks = (data, true) ∧
      cfg.crypto.hex (cfg.crypto.sha256 data) = s.declaredSHA row.fileID ∧
      completeUpload cfg env caller uploadID s =
        finishUpload cfg env caller row verified (s.saveObject row.fileID data) := by
  unfold completeUpload
  split
  · exact .inl ⟨_, _, ⟨_, _, _, rfl⟩, rfl, .inl rfl⟩
  rename_i row hrow
  split
  · rename_i r hr
    exact .inl ⟨r, _, isError_of_incomplete hr, rfl, .inl rfl⟩
  rename_i hcomplete
  unfold assembleUpload
  split
  · rename_i data _
    exact .inl ⟨_, _, ⟨_, _, _, rfl⟩, rfl, .inr ⟨row, data, hrow, rfl⟩⟩
  rename_i data hdata
  unfold judgeUpload
  split
  · exact .inl ⟨_, _, ⟨_, _, _, rfl⟩, rfl, .inr ⟨row, data, hrow, rfl⟩⟩
  rename_i hsha
  split
  · rename_i r hr
    exact .inl ⟨r, _, isError_of_verifyFileSignature hr, rfl, .inr ⟨row, data, hrow, rfl⟩⟩
  · rename_i verified _
    exact .inr ⟨row, data, verified, hrow, incomplete_eq_none.mp hcomplete, hdata,
      not_not.mp hsha, rfl⟩

/-- The rows of an upload that is initiated, and the tables with them. -/
structure Initiated (cfg : Config β κ) (caller : Caller) (req : InitiateRequest) (s : Store β)
    (file : FileRow) (upload : UploadRow) (files : Table FileRow.id)
    (uploads : Table UploadRow.id) : Prop where
  files : s.db.files.insert file = some files
  uploads : s.uploads.insert upload = some uploads
  fileID : upload.fileID = file.id
  chunks : upload.uploadedChunks = []
  isOpen : upload.completedAt = none
  total : upload.totalChunks = Float64.ceilQuotient req.sizeBytes Files.defaultChunkSize
  size : file.sizeBytes = req.sizeBytes
  sha256 : file.sha256 = req.sha256
  pos : 0 < req.sizeBytes
  quota : checkFileSize cfg.quota caller.tenantID req.sizeBytes s.db = .ok ()

lemma initiateUpload_cases (cfg : Config β κ) (env : Env) (caller : Caller)
    (body : Option InitiateRequest) (s : Store β) :
    (∃ r, IsError r ∧ initiateUpload cfg env caller body s = (r, s)) ∨
    ∃ req file upload files uploads resp, body = some req ∧
      Initiated cfg caller req s file upload files uploads ∧ resp.fileID = file.id ∧
      initiateUpload cfg env caller body s = (.ok 201 resp,
        makeStage upload.id { s with db := { s.db with files }, uploads }) := by
  unfold initiateUpload
  split
  · exact .inl ⟨_, ⟨_, _, _, rfl⟩, rfl⟩
  rename_i req
  split
  · exact .inl ⟨_, ⟨_, _, _, rfl⟩, rfl⟩
  rename_i hreq
  push Not at hreq
  split
  · rename_i e _
    refine .inl ⟨_, ?_, rfl⟩
    cases e <;> exact ⟨_, _, _, rfl⟩
  rename_i hquota
  dsimp only
  split
  · exact .inl ⟨_, ⟨_, _, _, rfl⟩, rfl⟩
  rename_i s₁ hfile
  split
  · exact .inl ⟨_, ⟨_, _, _, rfl⟩, rfl⟩
  rename_i s₂ hupload
  obtain ⟨-, files, hfiles, rfl⟩ := eq_some_of_guard hfile
  obtain ⟨-, uploads, huploads, rfl⟩ := eq_some_of_guard hupload
  exact .inr ⟨req, _, _, files, uploads, _, rfl,
    ⟨hfiles, huploads, rfl, rfl, rfl, rfl, rfl, rfl, hreq.2.1, hquota⟩, rfl, rfl⟩

/-! ### The handlers keep the invariant -/

lemma Own.update {uploads : Table UploadRow.id} (h : Own uploads) {f : UploadRow → UploadRow}
    (hf : ∀ r, (f r).id = r.id) (hfile : ∀ r, (f r).fileID = r.fileID) :
    Own (uploads.update f hf) := by
  intro row hrow row' hrow' he
  obtain ⟨r, hr, rfl⟩ := mem_map.mp hrow
  obtain ⟨r', hr', rfl⟩ := mem_map.mp hrow'
  rw [hfile, hfile] at he
  rw [hf, hf]
  exact h r hr r' hr' he

variable {v : Volume String β}

lemma Sound.of_objects (hj : Sound j)
    (hv : ∀ key, v.content key = none ∨ v.content key = j.store.objects.content key) :
    Sound { j with store := { j.store with objects := v } } where
  rows := by
    intro row hrow
    obtain ⟨htotal, hfile, hchunks, hstaged, hunstored⟩ := hj.rows row hrow
    refine ⟨htotal, hfile, hchunks, hstaged, fun hopen => ?_⟩
    rcases hv row.fileID with h | h
    · exact h
    · exact h.trans (hunstored hopen)
  own := hj.own
  object := by
    intro key hkey
    rcases hv key with h | h
    · exact absurd h hkey
    · exact hj.object key (by rwa [← h])

lemma content_save_remove {key key' : String} {data : List β} :
    ((v.save key data).remove key).content key' = none ∨
      ((v.save key data).remove key).content key' = v.content key' := by
  by_cases h : key' = key
  · rw [h]
    exact .inl (content_remove _ _)
  · right
    rw [content_remove_of_ne h, content_save_of_ne h]

lemma Sound.initiate (hj : Sound j) (env : Env) (caller : Caller) (body : Option InitiateRequest) :
    Sound (j.step cfg (.initiate env caller body)) := by
  rcases initiateUpload_cases cfg env caller body j.store with ⟨r, -, hs⟩ |
    ⟨req, file, upload, files, uploads, resp, -, hinit, -, hs⟩
  · rw [Journal.step, hs]
    exact hj
  rw [Journal.step, hs]
  obtain ⟨hfiles, huploads, hid, hchunks, hopen, htotal, -, -, hpos, -⟩ := hinit
  have htotal' : 0 ≤ upload.totalChunks := by
    rw [htotal]
    exact (Float64.ceilQuotient_pos hpos (by decide)).le
  have hfresh : ∀ row ∈ j.store.uploads.rows, row.id ≠ upload.id ∧ row.fileID ≠ upload.fileID :=
    fun row hrow => ⟨fun he => get?_ne_none_of_mem hrow (he ▸ fresh_of_insert huploads),
      fun he => (hj.rows row hrow).file (by rw [he, hid, fresh_of_insert hfiles])⟩
  have hmem : ∀ row ∈ uploads.rows, row ∈ j.store.uploads.rows ∨ row = upload :=
    fun row => (mem_insert huploads).mp
  constructor
  · intro row hrow
    rcases hmem row hrow with hold | rfl
    · obtain ⟨htotal, hfile, hchunks, hstaged, hunstored⟩ := hj.rows row hold
      refine ⟨htotal, ?_, hchunks, fun hopen => ?_, hunstored⟩
      · change files.get? row.fileID ≠ none
        rw [get?_insert hfiles, if_neg fun he => (hfresh row hold).2 (he.symm.trans hid.symm)]
        exact hfile
      · obtain ⟨dir, hdir, hstaged⟩ := hstaged hopen
        exact ⟨dir, (update_of_ne (hfresh row hold).1 _ _).trans hdir, hstaged⟩
    · refine ⟨htotal', ?_, by simp [UploadRow.ChunksOk, hchunks],
        fun _ => ⟨_, update_self _ _ _, by simp [hchunks]⟩, fun _ => by_contra fun hstored => ?_⟩
      · change files.get? row.fileID ≠ none
        rw [get?_insert hfiles, if_pos hid.symm]
        simp
      · obtain ⟨old, hold, he⟩ := hj.object _ hstored
        exact (hfresh old hold).2 he
  · intro row hrow row' hrow' he
    rcases hmem row hrow with hold | rfl <;> rcases hmem row' hrow' with hold' | rfl
    · exact hj.own row hold row' hold' he
    · exact absurd he (hfresh row hold).2
    · exact absurd he.symm (hfresh row' hold').2
    · rfl
  · intro key hkey
    obtain ⟨row, hrow, he⟩ := hj.object key hkey
    exact ⟨row, (mem_insert huploads).mpr (.inl hrow), he⟩

lemma mem_of_mem_added {chunks : List ℤ} {a : ℤ} (ha : a ∈ chunks.filter (· ≠ i) ++ [i])
    (hai : a ≠ i) : a ∈ chunks := by
  rcases mem_append.mp ha with ha | ha
  · exact (mem_filter.mp ha).1
  · exact absurd (mem_singleton.mp ha) hai

lemma UploadRow.ChunksOk.add {row : UploadRow} (h : row.ChunksOk) (h0 : 0 ≤ i)
    (hlt : i < row.totalChunks) (expiresAt : Time) :
    { row with
      uploadedChunks := row.uploadedChunks.filter (· ≠ i) ++ [i], expiresAt }.ChunksOk := by
  obtain ⟨hnodup, hbounds⟩ := h
  constructor
  · refine nodup_append.mpr ⟨hnodup.filter _, nodup_singleton i, ?_⟩
    intro a ha b hb hab
    rw [mem_singleton] at hb
    subst hb hab
    simp at ha
  · intro a ha
    by_cases hai : a = i
    · rw [hai]
      exact ⟨h0, hlt⟩
    · exact hbounds a (mem_of_mem_added ha hai)

lemma Store.mem_addChunk {s : Store β} {expiresAt : Time} {row : UploadRow}
    (h₀ : s.uploads.get? uploadID = some row₀)
    (h : row ∈ (s.addChunk uploadID i expiresAt).uploads.rows) :
    row ∈ s.uploads.rows ∧ row.id ≠ uploadID ∨ row = { row₀ with
      uploadedChunks := row₀.uploadedChunks.filter (· ≠ i) ++ [i], expiresAt } := by
  obtain ⟨r, hr, rfl⟩ := mem_map.mp h
  by_cases hid : r.id = uploadID
  · have hr₀ : r = row₀ := eq_of_key_eq hr (mem_of_get? h₀) (hid.trans (key_of_get? h₀).symm)
    rw [if_pos hid, hr₀]
    exact .inr rfl
  · rw [if_neg hid]
    exact .inl ⟨hr, hid⟩

lemma Sound.chunk (hj : Sound j) (env : Env) (caller : Caller) (uploadID : String)
    (req : ChunkRequest β) : Sound (j.step cfg (.request (.chunk env caller uploadID req))) := by
  rcases uploadChunk_cases cfg env caller uploadID req j.store with
    ⟨r, ⟨n, code, msg, rfl⟩, hs⟩ | ⟨i, row₀, resp, expiresAt, -, hrow₀, h0, hlt, hresp, hs⟩
  · simp only [Journal.step, handle, hs]
    exact hj
  simp only [Journal.step, handle, hs, Journal.record]
  obtain ⟨hget, -, hopen₀⟩ := session_eq_some.mp hrow₀
  have hid₀ : row₀.id = uploadID := key_of_get? hget
  have hmem₀ : row₀ ∈ j.store.uploads.rows := mem_of_get? hget
  constructor
  · intro row hrow
    rcases mem_addChunk hget hrow with ⟨hold, hne⟩ | rfl
    · obtain ⟨htotal, hfile, hchunks, hstaged, hunstored⟩ := hj.rows row hold
      refine ⟨htotal, hfile, hchunks, fun hopen => ?_, hunstored⟩
      obtain ⟨dir, hdir, hstaged⟩ := hstaged hopen
      refine ⟨dir, by simp [addChunk, setChunk, hne, hdir], fun a ha => ?_⟩
      obtain ⟨data, hd, hacc⟩ := hstaged a ha
      refine ⟨data, hd, ?_⟩
      change Function.update j.accepted (uploadID, resp.chunkIndex) _ (row.id, a) = some data
      rw [update_of_ne (by simp [hne])]
      exact hacc
    · obtain ⟨htotal, hfile, hchunks, hstaged, hunstored⟩ := hj.rows row₀ hmem₀
      obtain ⟨dir, hdir, hstaged⟩ := hstaged hopen₀
      subst hid₀
      refine ⟨htotal, hfile, hchunks.add h0 hlt expiresAt, fun _ =>
        ⟨Function.update dir i (some req.body), by simp [addChunk, setChunk, hdir],
          fun a ha => ?_⟩, hunstored⟩
      by_cases hai : a = i
      · subst hai
        exact ⟨req.body, by simp, by simp [hresp]⟩
      · obtain ⟨data, hd, hacc⟩ := hstaged a (mem_of_mem_added ha hai)
        refine ⟨data, by simp [hai, hd], ?_⟩
        change Function.update j.accepted (row₀.id, resp.chunkIndex) _ (row₀.id, a) = some data
        rw [update_of_ne (by simp [hresp, hai])]
        exact hacc
  · refine hj.own.update (fun r => ?_) fun r => ?_
    all_goals split <;> rfl
  · intro key hkey
    obtain ⟨row, hrow, he⟩ := hj.object key hkey
    refine ⟨_, mem_map_of_mem hrow, ?_⟩
    split <;> exact he

lemma Sound.finish (hj : Sound j) (hmem₀ : row₀ ∈ j.store.uploads.rows) (verified : Bool)
    (data : List β) :
    Sound { j with
      store := (finishUpload cfg env caller row₀ verified
        (j.store.saveObject row₀.fileID data)).2 } := by
  constructor
  · intro row hrow
    obtain ⟨r, hr, rfl⟩ := mem_map.mp hrow
    obtain ⟨htotal, hfile, hchunks, hstaged, hunstored⟩ := hj.rows r hr
    have hfile' : (finishUpload cfg env caller row₀ verified
        (j.store.saveObject row₀.fileID data)).2.db.files.get? r.fileID ≠ none := by
      simpa [finishUpload, setStored, setCompleted, removeStage, saveObject] using hfile
    split
    · exact ⟨htotal, hfile', hchunks, (by cases ·), (by cases ·)⟩
    · rename_i hne
      refine ⟨htotal, hfile', hchunks, fun hopen => ?_, fun hopen => ?_⟩
      · obtain ⟨dir, hdir, hstaged⟩ := hstaged hopen
        exact ⟨dir, (update_of_ne hne _ _).trans hdir, hstaged⟩
      · have hother : r.fileID ≠ row₀.fileID := fun he => hne (hj.own r hr row₀ hmem₀ he)
        exact (content_save_of_ne hother data).trans (hunstored hopen)
  · refine hj.own.update (fun r => ?_) fun r => ?_
    all_goals split <;> rfl
  · intro key hkey
    have hold : ∃ row ∈ j.store.uploads.rows, row.fileID = key := by
      by_cases he : key = row₀.fileID
      · exact ⟨row₀, hmem₀, he.symm⟩
      · exact hj.object key fun h => hkey ((content_save_of_ne he data).trans h)
    obtain ⟨row, hrow, he⟩ := hold
    refine ⟨_, mem_map_of_mem hrow, ?_⟩
    split <;> exact he

lemma Sound.complete (hj : Sound j) (env : Env) (caller : Caller) (uploadID : String) :
    Sound (j.step cfg (.request (.complete env caller uploadID))) := by
  simp only [Journal.step, handle, Journal.record]
  rcases completeUpload_cases cfg env caller uploadID j.store with
    ⟨r, v, -, hs, hv⟩ | ⟨row, data, verified, hrow, -, -, -, hs⟩
  · rw [hs]
    refine hj.of_objects fun key => ?_
    rcases hv with rfl | ⟨row, data, -, rfl⟩
    · exact .inr rfl
    · exact content_save_remove
  · rw [hs]
    exact hj.finish (mem_of_get? (session_eq_some.mp hrow).1) verified data

lemma Sound.step (hj : Sound j) (cfg : Config β κ) (e : Event β) : Sound (j.step cfg e) := by
  cases e with
  | initiate env caller body => exact hj.initiate env caller body
  | request req =>
    cases req with
    | chunk env caller uploadID req => exact hj.chunk env caller uploadID req
    | complete env caller uploadID => exact hj.complete env caller uploadID

lemma completeOk_of_sound (hj : Sound j) :
    CompleteOk cfg j caller.tenantID uploadID (completeUpload cfg env caller uploadID j.store).1
      (completeUpload cfg env caller uploadID j.store).2 := by
  constructor
  · intro row hrow
    have hmem := mem_of_get? (session_eq_some.mp hrow).1
    rw [incomplete_eq_none]
    exact (hj.rows row hmem).chunks.length_eq_iff (hj.rows row hmem).total
  · intro f hf
    rcases completeUpload_cases cfg env caller uploadID j.store with
      ⟨r, v, hr, hs, -⟩ | ⟨row, data, verified, hrow, hcomplete, hdata, hsha, hs⟩
    · rw [hs] at hf
      exact absurd hf (hr.ne_ok 200 f)
    obtain ⟨hget, -, hopen⟩ := session_eq_some.mp hrow
    have hmem := mem_of_get? hget
    obtain rfl : row.id = uploadID := key_of_get? hget
    obtain ⟨chunks, haccepted, hassemble⟩ := assemble_of_complete hj hmem hopen hcomplete
    obtain rfl : chunks.flatten = data := congrArg Prod.fst (hassemble.symm.trans hdata)
    obtain ⟨file, hfile⟩ := Option.ne_none_iff_exists'.mp (hj.rows row hmem).file
    rw [declaredSHA, hfile] at hsha
    rw [hs]
    refine ⟨row, { file with storagePath := cfg.path row.fileID, signatureVerified := verified },
      chunks, hrow, haccepted, content_save _ _ _, ?_, hsha⟩
    have hkey : file.id = row.fileID := key_of_get? hfile
    simp [finishUpload, setStored, setCompleted, removeStage, saveObject, hfile, hkey]
  · intro row hget hopen hfail
    have hmem := mem_of_get? hget
    rcases completeUpload_cases cfg env caller uploadID j.store with
      ⟨r, v, hr, hs, hv⟩ | ⟨row', data, verified, hrow, -, -, -, hs⟩
    · rw [hs]
      refine ⟨?_, rfl, rfl, rfl⟩
      rcases hv with rfl | ⟨row', data, hrow', rfl⟩
      · exact (hj.rows row hmem).unstored hopen
      · obtain rfl : row = row' := Option.some.inj (hget.symm.trans (session_eq_some.mp hrow').1)
        exact content_remove _ _
    · rw [hs] at hfail
      exact absurd rfl (hfail _)

lemma correct_of_sound (hj : Sound j) {e : Event β} : Correct cfg j e where
  chunks row hrow := ((hj.step cfg e).rows row hrow).chunks
  served := by
    rintro req rfl ticks hticks a ha
    have h := Thread.alone_eq_handle hticks ha
    exact ⟨(congrArg Prod.fst h).symm, (congrArg Prod.snd h).symm⟩
  complete := by
    rintro env caller uploadID rfl
    exact completeOk_of_sound hj

/-- Chunked uploads are correct for every order of requests. -/
theorem chunked_uploads_correct (cfg : Config β κ) (db : Db) (keys : Table SigningKeyRow.id)
    (events : List (Event β)) :
    Along (Journal.step cfg) (Correct cfg) events (Journal.start db keys) := by
  have htrue : Along (Journal.step cfg) (fun _ _ => True) events (Journal.start db keys) :=
    .of_forall (fun _ _ _ => trivial) _
  exact htrue.imp_of_invariant (fun _ e _ hj => Sound.step hj cfg e)
    (fun _ e _ hj => correct_of_sound hj) (sound_start db keys)

end Moebius.Upload
