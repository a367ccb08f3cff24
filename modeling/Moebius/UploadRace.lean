import Moebius.Crew
import Moebius.Runs
import Moebius.UploadThreads

/-!
Uploads and completions side by side.

A completion is at work from the query that finds its session open until it has answered and its
background save is over. Uploads of chunks never touch the stored object, and what the handler
hashes is what it sends, so one completion of a session at a time stores what it has checked; once
it has marked the session no other one finds it open. Sessions do not disturb each other as long as
each has a file of its own. A completion that is at work when another one of its session succeeds
empties the object and, its chunks being gone, removes it.
-/

namespace Moebius.Upload

open Completion Store

variable {β κ : Type}

/-! ### The property -/

abbrev Desk (β : Type) := Crew (Store β) (Thread β)

abbrev Desk.Act (β : Type) := Crew.Act (Request β) Tick

def Desk.after (cfg : Config β κ) : Desk β → Act β → Desk β :=
  Crew.after Thread.start (Thread.step cfg)

def ObjectOk (cfg : Config β κ) (fileID : String) (s : Store β) : Prop :=
  ∃ file data, s.db.files.get? fileID = some file ∧ s.objects.content fileID = some data ∧
    cfg.crypto.hex (cfg.crypto.sha256 data) = file.sha256

def Thread.Succeeded : Thread β → Prop
  | .complete c => ∃ f, c.stage = .answered (.ok 200 f)
  | .chunk _ => False

/-- Once a completion of the session has succeeded, the object of its file is intact. -/
def Desk.Intact (cfg : Config β κ) (uploadID : String) (d : Desk β) : Prop :=
  ∀ t ∈ d.threads, t.Succeeded →
    ∃ row, d.state.uploads.get? uploadID = some row ∧ ObjectOk cfg row.fileID d.state

/-- From the query that found the session open until the background save is over. -/
def Completion.Active (c : Completion β) : Prop :=
  match c.stage with
  | .selecting => False
  | .answered _ => ¬ c.saver.Settled
  | _ => True

def Thread.Active : Thread β → Prop
  | .chunk _ => False
  | .complete c => c.Active

instance : DecidablePred (Saver.Settled : Saver β → Prop) := fun s => by
  unfold Saver.Settled
  split <;> infer_instance

instance : DecidablePred (Active : Completion β → Prop) := fun c => by
  unfold Active
  split <;> infer_instance

instance : DecidablePred (Thread.Active : Thread β → Prop) := fun t => by
  unfold Thread.Active
  split <;> infer_instance

def Request.uploadID : Request β → String
  | .chunk _ _ uploadID _ => uploadID
  | .complete _ _ uploadID => uploadID

def Thread.uploadID : Thread β → String
  | .chunk c => c.uploadID
  | .complete c => c.uploadID

/-- The step is the failing one of a completion that marks its session completed. -/
def Thread.FailsToMark (k : Tick) : Thread β → Prop
  | .complete { stage := .completing _, .. } => k.saver = false ∧ k.fault = true
  | _ => False

instance (k : Tick) : DecidablePred (Thread.FailsToMark k : Thread β → Prop) := fun t => by
  unfold Thread.FailsToMark
  split <;> infer_instance

/-- The mark on a completed session does not fail. -/
def Desk.Marked (d : Desk β) : Desk.Act β → Prop
  | .spawn _ => True
  | .step i k => ∀ t ∈ d.threads[i]?, ¬ t.FailsToMark k

instance (d : Desk β) : DecidablePred d.Marked := fun a => by
  unfold Desk.Marked
  split <;> infer_instance

/-- All requests are for this session, and the mark on it does not fail. -/
def Desk.Marks (uploadID : String) (d : Desk β) : Desk.Act β → Prop
  | .spawn r => r.uploadID = uploadID
  | .step i k => d.Marked (.step i k)

instance (uploadID : String) (d : Desk β) : DecidablePred (d.Marks uploadID) := fun a => by
  unfold Desk.Marks
  split <;> infer_instance

/-- A completion that finds its session open finds no other one of the session at work. -/
def Desk.Orderly (cfg : Config β κ) (d : Desk β) (a : Desk.Act β) : Prop :=
  Crew.Orderly (Thread.step cfg) Thread.Active Thread.uploadID d a
  deriving Decidable

def IsOpen (uploadID fileID : String) (s : Store β) : Prop :=
  ∃ row, s.uploads.get? uploadID = some row ∧ row.completedAt = none ∧ row.fileID = fileID

def IsDone (cfg : Config β κ) (uploadID : String) (s : Store β) : Prop :=
  ∃ row, s.uploads.get? uploadID = some row ∧ row.completedAt ≠ none ∧ ObjectOk cfg row.fileID s

lemma IsOpen.not_isDone {cfg : Config β κ} {uploadID fileID : String} {s : Store β}
    (h : IsOpen uploadID fileID s) : ¬ IsDone cfg uploadID s := by
  rintro ⟨row, hrow, hdone, -⟩
  obtain ⟨row', hrow', hopen, -⟩ := h
  cases hrow.symm.trans hrow'
  exact hdone hopen

namespace Completion

/-- The handler has sent `data`, for the file of a session that is open. -/
structure Saving (s : Store β) (c : Completion β) (data : List β) : Prop where
  isOpen : IsOpen c.uploadID c.key s
  holds : ∃ v₀, c.saver.Holds False c.key v₀ s.objects c.pipe data

/-- The handler has hashed and sent `data`. -/
structure Fed (s : Store β) (c : Completion β) (row : UploadRow) (expectedSHA : String)
    (data : List β) : Prop extends Saving s c data where
  id : row.id = c.uploadID
  expected : expectedSHA = "" ∨
    ∃ file, s.db.files.get? row.fileID = some file ∧ file.sha256 = expectedSHA
  key : c.key = row.fileID

structure Checked (cfg : Config β κ) (s : Store β) (c : Completion β) (row : UploadRow) :
    Prop where
  id : row.id = c.uploadID
  isOpen : IsOpen c.uploadID row.fileID s
  object : ObjectOk cfg row.fileID s
  saver : c.saver = .done true

def Safe (cfg : Config β κ) (s : Store β) (c : Completion β) : Prop :=
  match c.stage with
  | .selecting => c.saver = .idle ∧ c.pipe = {}
  | .loadingSHA row => c.saver = .idle ∧ c.pipe = {} ∧ row.id = c.uploadID ∧
      IsOpen c.uploadID row.fileID s
  | .reading row expectedSHA _ data => Fed s c row expectedSHA data ∧
      c.pipe.writeEnd = .opened ∧ c.pipe.pending = none
  | .sending row expectedSHA _ data => Fed s c row expectedSHA data ∧ c.pipe.writeEnd = .opened
  | .waiting row expectedSHA data => Fed s c row expectedSHA data
  | .loadingSignature row _ | .loadingKey row _ _ _ | .storing row _ | .completing row =>
      Checked cfg s c row
  | .deleting row r => IsError r ∧ c.saver = .done true ∧ IsOpen c.uploadID row.fileID s
  | .cleaning _ | .logging _ | .returning _ => c.saver = .done true ∧ IsDone cfg c.uploadID s
  | .answered r => c.saver.Settled ∧ IsDone cfg c.uploadID s ∨
      IsError r ∧ (c.saver.Settled ∨ ∃ data, Saving s c data)

end Completion

def Thread.Safe (cfg : Config β κ) (s : Store β) : Thread β → Prop
  | .chunk _ => True
  | .complete c => c.Safe cfg s

/-! ### What a step changes -/

/-- No step makes or removes a session or a file, gives a session another file, or changes what a
file was declared to be. -/
structure SameRows (s s' : Store β) : Prop where
  sessions : ∀ id, (s'.uploads.get? id).map UploadRow.fileID =
    (s.uploads.get? id).map UploadRow.fileID
  files : ∀ id f, s.db.files.get? id = some f → ∃ f', s'.db.files.get? id = some f' ∧
    f'.sha256 = f.sha256 ∧ f'.sizeBytes = f.sizeBytes

/-- The session is open or completed as before, and its file and the object are the same. -/
structure Keeps (uploadID : String) (s s' : Store β) : Prop where
  session : ∀ row, s.uploads.get? uploadID = some row →
    ∃ row', s'.uploads.get? uploadID = some row' ∧ row'.completedAt = row.completedAt ∧
      row'.fileID = row.fileID ∧ Volume.Same row.fileID s.objects s'.objects
  files : ∀ id f, s.db.files.get? id = some f →
    ∃ f', s'.db.files.get? id = some f' ∧ f'.sha256 = f.sha256

variable {cfg : Config β κ}

lemma SameRows.refl (s : Store β) : SameRows s s := ⟨fun _ => rfl, fun _ f h => ⟨f, h, rfl, rfl⟩⟩

lemma SameRows.keeps {uploadID : String} {s s' : Store β} (h : SameRows s s')
    (hsession : ∀ row, s.uploads.get? uploadID = some row →
      ∃ row', s'.uploads.get? uploadID = some row' ∧ row'.completedAt = row.completedAt ∧
        row'.fileID = row.fileID ∧ Volume.Same row.fileID s.objects s'.objects) :
    Keeps uploadID s s' :=
  ⟨hsession, fun id f hf => (h.files id f hf).imp fun _ h => ⟨h.1, h.2.1⟩⟩

namespace Keeps

variable {uploadID fileID : String} {s s' : Store β}

lemma refl (uploadID : String) (s : Store β) : Keeps uploadID s s :=
  (SameRows.refl s).keeps fun row h => ⟨row, h, rfl, rfl, .refl⟩

lemma isOpen (h : Keeps uploadID s s') (ho : IsOpen uploadID fileID s) :
    IsOpen uploadID fileID s' ∧ Volume.Same fileID s.objects s'.objects := by
  obtain ⟨row, hrow, hopen, rfl⟩ := ho
  obtain ⟨row', hrow', hc, hf, hsame⟩ := h.session row hrow
  exact ⟨⟨row', hrow', hc.trans hopen, hf⟩, hsame⟩

lemma objectOk (h : Keeps uploadID s s') (hsame : Volume.Same fileID s.objects s'.objects)
    (ho : ObjectOk cfg fileID s) : ObjectOk cfg fileID s' := by
  obtain ⟨file, data, hfile, hdata, hsha⟩ := ho
  obtain ⟨file', hfile', hsha'⟩ := h.files _ _ hfile
  exact ⟨file', data, hfile', hsame.content.trans hdata, hsha.trans hsha'.symm⟩

lemma isDone (h : Keeps uploadID s s') (hd : IsDone cfg uploadID s) : IsDone cfg uploadID s' := by
  obtain ⟨row, hrow, hdone, ho⟩ := hd
  obtain ⟨row', hrow', hc, hf, hsame⟩ := h.session row hrow
  exact ⟨row', hrow', by rwa [hc], by rw [hf]; exact h.objectOk hsame ho⟩

variable {c : Completion β}

lemma saving {data : List β} (h : Keeps c.uploadID s s') (hc : c.Saving s data) :
    c.Saving s' data := by
  obtain ⟨hopen, v₀, hholds⟩ := hc
  obtain ⟨hopen', hsame⟩ := h.isOpen hopen
  exact ⟨hopen', hholds.frame hsame⟩

lemma fed {row : UploadRow} {expectedSHA : String} {data : List β} (h : Keeps c.uploadID s s')
    (hc : c.Fed s row expectedSHA data) : c.Fed s' row expectedSHA data where
  toSaving := h.saving hc.toSaving
  id := hc.id
  expected := hc.expected.imp_right fun ⟨_, hfile, hsha⟩ =>
    (h.files _ _ hfile).imp fun _ hf => ⟨hf.1, hf.2.trans hsha⟩
  key := hc.key

lemma checked {row : UploadRow} (h : Keeps c.uploadID s s') (hc : c.Checked cfg s row) :
    c.Checked cfg s' row :=
  ⟨hc.id, (h.isOpen hc.isOpen).1, h.objectOk (h.isOpen hc.isOpen).2 hc.object, hc.saver⟩

lemma safe (h : Keeps c.uploadID s s') (hc : c.Safe cfg s) : c.Safe cfg s' := by
  obtain ⟨env, caller, uploadID, stage, pipe, saver, key⟩ := c
  cases stage with
  | selecting => exact hc
  | loadingSHA row => exact ⟨hc.1, hc.2.1, hc.2.2.1, (h.isOpen hc.2.2.2).1⟩
  | reading row expectedSHA i data | sending row expectedSHA i data =>
    exact ⟨h.fed hc.1, hc.2⟩
  | waiting row expectedSHA data => exact h.fed hc
  | loadingSignature row data | loadingKey row data sigB64 keyID | storing row verified
  | completing row => exact h.checked hc
  | deleting row r => exact ⟨hc.1, hc.2.1, (h.isOpen hc.2.2).1⟩
  | cleaning row | logging row | returning row => exact ⟨hc.1, h.isDone hc.2⟩
  | answered r =>
    obtain ⟨hs, hd⟩ | ⟨hr, hs | ⟨data, hsaving⟩⟩ := hc
    · exact .inl ⟨hs, h.isDone hd⟩
    · exact .inr ⟨hr, .inl hs⟩
    · exact .inr ⟨hr, .inr ⟨data, h.saving hsaving⟩⟩

end Keeps

lemma get?_addChunk {uploadID id : String} {i : ℤ} {expiresAt : Time} {s : Store β} :
    ∃ f : UploadRow → UploadRow, (∀ r, (f r).completedAt = r.completedAt ∧
      (f r).fileID = r.fileID) ∧
      (s.addChunk uploadID i expiresAt).uploads.get? id = (s.uploads.get? id).map f := by
  refine ⟨_, fun r => ?_, by rw [addChunk, Table.get?_update]⟩
  split <;> exact ⟨rfl, rfl⟩

lemma keeps_chunk {k : Tick} {s : Store β} {c : ChunkUpload β} :
    SameRows s (c.step cfg k s).1 ∧ ∀ uploadID, Keeps uploadID s (c.step cfg k s).1 := by
  suffices h : (∃ stage, (c.step cfg k s).1 = { s with stage }) ∨
      ∃ i expiresAt, (c.step cfg k s).1 = s.addChunk c.uploadID i expiresAt by
    rcases h with ⟨stage, hs⟩ | ⟨i, expiresAt, hs⟩ <;> rw [hs]
    · have hrows : SameRows s { s with stage } := ⟨fun _ => rfl, (SameRows.refl s).files⟩
      exact ⟨hrows, fun _ => hrows.keeps fun row h => ⟨row, h, rfl, rfl, .refl⟩⟩
    · have hrows : SameRows s (s.addChunk c.uploadID i expiresAt) := by
        refine ⟨fun id => ?_, (SameRows.refl s).files⟩
        obtain ⟨f, hf, hget⟩ := @get?_addChunk _ c.uploadID id i expiresAt s
        rw [hget, Option.map_map]
        exact congrArg (Option.map · _) (funext fun r => (hf r).2)
      refine ⟨hrows, fun id => hrows.keeps fun row h => ?_⟩
      obtain ⟨f, hf, hget⟩ := @get?_addChunk _ c.uploadID id i expiresAt s
      exact ⟨f row, by rw [hget, h]; rfl, (hf row).1, (hf row).2, .refl⟩
  unfold ChunkUpload.step
  split
  · split
    · exact .inl ⟨_, rfl⟩
    split
    · exact .inl ⟨_, rfl⟩
    split <;> exact .inl ⟨_, rfl⟩
  · split <;> exact .inl ⟨_, rfl⟩
  · split <;> exact .inl ⟨_, rfl⟩
  · split
    · exact .inl ⟨_, rfl⟩
    · exact .inr ⟨_, _, rfl⟩
  · exact .inl ⟨_, rfl⟩
  · exact .inl ⟨_, rfl⟩

namespace Completion

variable {k : Tick} {s : Store β} {c : Completion β}

lemma isOpen_of_session {tenantID uploadID : String} {row : UploadRow}
    (h : s.session tenantID uploadID = some row) :
    row.id = uploadID ∧ IsOpen uploadID row.fileID s := by
  obtain ⟨hget, -, hopen⟩ := session_eq_some.mp h
  exact ⟨Table.key_of_get? hget, row, hget, hopen, rfl⟩

lemma safe_selecting (hstage : c.stage = .selecting) (h : c.Safe cfg s) :
    (c.stepHandler cfg k s).2.Safe cfg (c.stepHandler cfg k s).1 := by
  simp only [Safe, hstage] at h
  have hsettled : c.saver.Settled := by rw [h.1]; trivial
  simp only [stepHandler, hstage]
  split
  · exact .inr ⟨⟨_, _, _, rfl⟩, .inl hsettled⟩
  rename_i row hrow
  split
  · rename_i r hr
    exact .inr ⟨isError_of_incomplete hr, .inl hsettled⟩
  · have hfound : s.session c.caller.tenantID c.uploadID = some row := by
      split at hrow
      · cases hrow
      · exact hrow
    exact ⟨h.1, h.2, isOpen_of_session hfound⟩

lemma safe_loadingSHA {row : UploadRow} (hstage : c.stage = .loadingSHA row)
    (h : c.Safe cfg s) : (c.stepHandler cfg k s).2.Safe cfg (c.stepHandler cfg k s).1 := by
  simp only [Safe, hstage] at h
  obtain ⟨hs, hp, hid, hopen⟩ := h
  simp only [stepHandler, hstage]
  refine ⟨⟨⟨hopen, s.objects, rfl, by simp [hp]⟩, hid, ?_, rfl⟩, by simp [hp], by simp [hp]⟩
  split
  · exact .inl rfl
  · unfold declaredSHA
    cases hf : s.db.files.get? row.fileID with
    | none => exact .inl rfl
    | some file => exact .inr ⟨file, rfl, rfl⟩

variable {expectedSHA fileID : String} {i : ℕ} {data : List β} {verified : Bool}

lemma safe_reading {row : UploadRow} (hstage : c.stage = .reading row expectedSHA i data)
    (h : c.Safe cfg s) : (c.stepHandler cfg k s).2.Safe cfg (c.stepHandler cfg k s).1 := by
  simp only [Safe, hstage] at h
  obtain ⟨⟨⟨hopen, v₀, hholds⟩, hid, hexpected, hkey⟩, hw, hp⟩ := h
  simp only [stepHandler, hstage]
  split
  · split
    · exact .inr ⟨⟨_, _, _, rfl⟩, .inr ⟨data, hopen, v₀, hholds.close hw .broken⟩⟩
    · rename_i chunk _
      exact ⟨⟨⟨hopen, v₀, hholds.send hw hp chunk⟩, hid, hexpected, hkey⟩, hw⟩
  · exact ⟨⟨hopen, v₀, hholds.close hw .eof⟩, hid, hexpected, hkey⟩

lemma safe_sending {row : UploadRow} (hstage : c.stage = .sending row expectedSHA i data)
    (h : c.Safe cfg s) : (c.stepHandler cfg k s).2.Safe cfg (c.stepHandler cfg k s).1 := by
  have hsafe := h
  simp only [Safe, hstage] at h
  obtain ⟨⟨⟨hopen, v₀, hholds⟩, hid, hexpected, hkey⟩, hw⟩ := h
  simp only [stepHandler, hstage]
  split
  · exact .inr ⟨⟨_, _, _, rfl⟩, .inr ⟨data, hopen, v₀, hholds.close hw .broken⟩⟩
  · split
    · exact hsafe
    · rename_i hp
      exact ⟨⟨⟨hopen, v₀, hholds⟩, hid, hexpected, hkey⟩, hw, hp⟩

lemma safe_waiting {row : UploadRow} (hstage : c.stage = .waiting row expectedSHA data)
    (h : c.Safe cfg s) : (c.stepHandler cfg k s).2.Safe cfg (c.stepHandler cfg k s).1 := by
  have hsafe := h
  simp only [Safe, hstage] at h
  simp only [stepHandler, hstage]
  obtain ⟨⟨hopen, v₀, hholds⟩, hid, hexpected, hkey⟩ := h
  rw [hkey] at hopen
  split
  · rename_i hs
    exact .inr ⟨⟨_, _, _, rfl⟩, .inl (by change c.saver.Settled; rw [hs]; trivial)⟩
  · rename_i hs
    split
    · exact ⟨⟨_, _, _, rfl⟩, hs, hopen⟩
    · rename_i hsha
      refine ⟨hid, hopen, ?_, hs⟩
      rw [hs] at hholds
      have hsha' : cfg.crypto.hex (cfg.crypto.sha256 data) = expectedSHA := not_not.mp hsha
      rcases hexpected with rfl | ⟨file, hfile, hf⟩
      · exact absurd hsha' (cfg.hash_ne data)
      · refine ⟨file, data, hfile, ?_, hsha'.trans hf.symm⟩
        rw [hholds.1, hkey]
        exact Volume.content_save _ _ _
  · exact hsafe

lemma Checked.goto {row : UploadRow} (h : c.Checked cfg s row) (stage : CompleteStage β) :
    (c.goto stage).Checked cfg s row := ⟨h.id, h.isOpen, h.object, h.saver⟩

lemma objectOk_setStored {fileID' storagePath : String} (h : ObjectOk cfg fileID s) :
    ObjectOk cfg fileID (s.setStored fileID' storagePath verified) := by
  obtain ⟨file, data, hfile, hdata, hsha⟩ := h
  refine ⟨if file.id = fileID' then { file with storagePath, signatureVerified := verified }
    else file, data, by simp [setStored, hfile], hdata, ?_⟩
  split <;> exact hsha

lemma safe_completing {row : UploadRow} (hstage : c.stage = .completing row)
    (hk : k.fault = false) (h : c.Safe cfg s) :
    (c.stepHandler cfg k s).2.Safe cfg (c.stepHandler cfg k s).1 := by
  simp only [Safe, hstage] at h
  simp only [stepHandler, hstage, hk, Bool.false_eq_true, if_false]
  refine ⟨h.saver, ?_⟩
  obtain ⟨r, hr, -, hfile⟩ := h.isOpen
  have hid : r.id = row.id := (Table.key_of_get? hr).trans h.id.symm
  have hobject : ObjectOk cfg r.fileID s := hfile ▸ h.object
  refine ⟨{ r with completedAt := some c.env.now }, ?_, by simp, hobject⟩
  have hr' : s.uploads.get? (c.goto (.cleaning row)).uploadID = some r := hr
  simp [setCompleted, hr', hid]

/-- What the handler may do to the store. -/
inductive Writes (cfg : Config β κ) (s : Store β) (c : Completion β) : Store β → Prop
  | nothing : Writes cfg s c s
  | removes {row : UploadRow} {r : Reply Files.File} (h : c.stage = .deleting row r) :
      Writes cfg s c (s.removeObject row.fileID)
  | stores {row : UploadRow} {verified : Bool} (h : c.stage = .storing row verified) :
      Writes cfg s c (s.setStored row.fileID (cfg.path row.fileID) verified)
  | completes {row : UploadRow} (h : c.stage = .completing row) :
      Writes cfg s c (s.setCompleted row.id c.env.now)
  | cleans {row : UploadRow} (h : c.stage = .cleaning row) : Writes cfg s c (s.removeStage row.id)
  | logs {row : UploadRow} (h : c.stage = .logging row) :
      Writes cfg s c (s.logUpload c.env c.caller row.fileID)

lemma writes_stepHandler : Writes cfg s c (c.stepHandler cfg k s).1 := by
  unfold stepHandler
  split
  all_goals
    rename_i hstage
    repeat' split
    all_goals first
      | exact .nothing
      | exact .removes hstage
      | exact .stores hstage
      | exact .completes hstage
      | exact .cleans hstage
      | exact .logs hstage

variable {id : String} {s' : Store β}

lemma get?_setCompleted {uploadID : String} {now : Time} :
    (s.setCompleted uploadID now).uploads.get? id = (s.uploads.get? id).map fun r =>
      if r.id = uploadID then { r with completedAt := some now } else r := by
  rw [setCompleted, Table.get?_update]

lemma Writes.sameRows (h : Writes cfg s c s') : SameRows s s' := by
  cases h with
  | nothing => exact .refl s
  | removes | cleans => exact ⟨fun _ => rfl, (SameRows.refl s).files⟩
  | logs => exact ⟨fun _ => rfl, fun id f h => ⟨f, by rw [files_logUpload]; exact h, rfl, rfl⟩⟩
  | completes =>
    refine ⟨fun id => ?_, (SameRows.refl s).files⟩
    rw [get?_setCompleted, Option.map_map]
    refine congrArg (Option.map · _) (funext fun r => ?_)
    dsimp only [Function.comp]
    split <;> rfl
  | stores =>
    refine ⟨fun _ => rfl, fun id f h => ⟨_, by simp [setStored, h]; rfl, ?_⟩⟩
    split <;> exact ⟨rfl, rfl⟩

/-- The session is not that of the completion, nor is the file, as long as that session is open. -/
def Foreign (s : Store β) (c : Completion β) (id : String) : Prop :=
  ∀ fileID, IsOpen c.uploadID fileID s → id ≠ c.uploadID ∧
    ∀ row, s.uploads.get? id = some row → row.fileID ≠ fileID

lemma Writes.keeps (h : Writes cfg s c s') (hsafe : c.Safe cfg s) (hid : Foreign s c id) :
    Keeps id s s' := by
  refine h.sameRows.keeps fun row hrow => ?_
  cases h with
  | nothing | stores | cleans | logs => exact ⟨row, hrow, rfl, rfl, .refl⟩
  | removes hstage =>
    simp only [Safe, hstage] at hsafe
    exact ⟨row, hrow, rfl, rfl, Volume.same_remove ((hid _ hsafe.2.2).2 row hrow)⟩
  | completes hstage =>
    simp only [Safe, hstage] at hsafe
    have hne := (hid _ hsafe.isOpen).1
    rw [← hsafe.id, ← Table.key_of_get? hrow] at hne
    exact ⟨row, by rw [get?_setCompleted, hrow, Option.map_some, if_neg hne], rfl, rfl, .refl⟩

lemma Safe.isDone_stepHandler (h : c.Safe cfg s) (hdone : IsDone cfg c.uploadID s) :
    IsDone cfg c.uploadID (c.stepHandler cfg k s).1 :=
  (writes_stepHandler.keeps h fun _ ho => absurd hdone ho.not_isDone).isDone hdone

lemma safe_stepHandler (hk : ∀ row, c.stage = .completing row → k.fault = false)
    (h : c.Safe cfg s) : (c.stepHandler cfg k s).2.Safe cfg (c.stepHandler cfg k s).1 := by
  have hsafe := h
  obtain ⟨env, caller, uploadID, stage, pipe, saver, key⟩ := c
  cases stage with
  | selecting => exact safe_selecting rfl h
  | loadingSHA row => exact safe_loadingSHA rfl h
  | reading row expectedSHA i data => exact safe_reading rfl h
  | sending row expectedSHA i data => exact safe_sending rfl h
  | waiting row expectedSHA data => exact safe_waiting rfl h
  | loadingSignature row data =>
    unfold stepHandler
    dsimp only
    split
    · exact ⟨⟨_, _, _, rfl⟩, h.saver, h.isOpen⟩
    split
    · exact h.goto _
    · exact h.goto _
  | loadingKey row data sigB64 keyID =>
    unfold stepHandler
    dsimp only
    split
    · rename_i r hr
      refine ⟨?_, h.saver, h.isOpen⟩
      split at hr
      · cases hr
        exact ⟨_, _, _, rfl⟩
      · exact isError_of_verifyWith hr
    · exact h.goto _
  | storing row verified =>
    unfold stepHandler
    dsimp only
    split
    · exact h.goto _
    · exact ⟨h.id, h.isOpen, objectOk_setStored h.object, h.saver⟩
  | completing row => exact safe_completing rfl (hk row rfl) h
  | deleting row r => exact .inr ⟨h.1, .inl (h.2.1 ▸ trivial)⟩
  | cleaning row | logging row => exact ⟨h.1, hsafe.isDone_stepHandler h.2⟩
  | returning row => exact .inl ⟨h.1 ▸ trivial, h.2⟩
  | answered r => exact h

/-! ### The background save -/

/-- Where the background save is at work, a step of it that is safe for the object is safe. -/
lemma Safe.saving (h : c.Safe cfg s) (hs : ¬ c.saver.Settled) :
    ∃ data, c.Saving s data ∧ ∀ v saver pending, (c.pipe.pending = none → pending = none) →
      Saving { s with objects := v } { c with saver, pipe := { c.pipe with pending } } data →
      Safe cfg { s with objects := v } { c with saver, pipe := { c.pipe with pending } } := by
  have hnot : ∀ {saver : Saver β}, saver.Settled → c.saver ≠ saver := by
    rintro saver hsettled rfl
    exact hs hsettled
  obtain ⟨env, caller, uploadID, stage, pipe, saver, key⟩ := c
  cases stage with
  | selecting | loadingSHA row | cleaning row | logging row | returning row =>
    exact absurd h.1 (hnot trivial)
  | reading row expectedSHA i data =>
    obtain ⟨⟨hsaving, hid, hsha, hkey⟩, hopened, hpending⟩ := h
    exact ⟨_, hsaving, fun _ _ _ hnone hsaving' =>
      ⟨⟨hsaving', hid, hsha, hkey⟩, hopened, hnone hpending⟩⟩
  | sending row expectedSHA i data =>
    obtain ⟨⟨hsaving, hid, hsha, hkey⟩, hopened⟩ := h
    exact ⟨_, hsaving, fun _ _ _ _ hsaving' => ⟨⟨hsaving', hid, hsha, hkey⟩, hopened⟩⟩
  | waiting row expectedSHA data =>
    obtain ⟨hsaving, hid, hsha, hkey⟩ := h
    exact ⟨_, hsaving, fun _ _ _ _ hsaving' => ⟨hsaving', hid, hsha, hkey⟩⟩
  | deleting row r => exact absurd h.2.1 (hnot trivial)
  | loadingSignature row data | loadingKey row data sigB64 keyID | storing row verified
  | completing row => exact absurd h.saver (hnot trivial)
  | answered r =>
    obtain ⟨hs', -⟩ | ⟨hr, hs' | ⟨data, hsaving⟩⟩ := h
    · exact absurd hs' hs
    · exact absurd hs' hs
    · exact ⟨data, hsaving, fun _ _ _ _ hsaving' => .inr ⟨hr, .inr ⟨data, hsaving'⟩⟩⟩

lemma saving_stepSaver (h : c.Saving s data) :
    (c.stepSaver cfg k s).2.Saving (c.stepSaver cfg k s).1 data := by
  obtain ⟨hopen, v₀, hh⟩ := h
  have hholds := @stepSaver_holds _ _ cfg k _ _ _ _ _ hh False.elim
  obtain ⟨v, saver, pending, hstep, -⟩ := stepSaver_frame cfg k s c
  rw [hstep] at hholds ⊢
  exact ⟨hopen, v₀, hholds⟩

lemma safe_stepSaver (h : c.Safe cfg s) :
    (c.stepSaver cfg k s).2.Safe cfg (c.stepSaver cfg k s).1 := by
  by_cases hs : c.saver.Settled
  · rw [stepSaver_of_settled hs]
    exact h
  obtain ⟨data, hsaving, hsafe⟩ := h.saving hs
  have hsaving' := @saving_stepSaver _ _ cfg k _ _ _ hsaving
  obtain ⟨v, saver, pending, hstep, hnone⟩ := stepSaver_frame cfg k s c
  rw [hstep] at hsaving' ⊢
  exact hsafe v saver pending hnone hsaving'

/-- The goroutine changes no object but the one it saves. -/
lemma Saving.same_stepSaver (h : c.Saving s data) {key : String} (hkey : key ≠ c.key) :
    Volume.Same key s.objects (c.stepSaver cfg k s).1.objects := by
  obtain ⟨-, v₀, hholds⟩ := h
  obtain ⟨env, caller, uploadID, stage, pipe, saver, key'⟩ := c
  unfold stepSaver
  cases saver with
  | idle | starting | done ok => exact .refl
  | creating =>
    dsimp only
    split
    · exact .refl
    · exact Volume.same_create hkey
  | copying n off =>
    dsimp only
    split
    · exact .refl
    · split <;> exact .refl
  | holding n off piece =>
    obtain ⟨data, hv, hn, -⟩ := hholds
    have hname : s.objects.names key' = some n := by
      rw [hv, hn]
      exact Volume.names_create v₀ key'
    dsimp only
    split <;> exact Volume.same_write hname hkey
  | removing =>
    dsimp only
    split
    · exact .refl
    · exact Volume.same_remove hkey

lemma sameRows_step (cfg : Config β κ) (k : Tick) (s : Store β) (c : Completion β) :
    SameRows s (c.step cfg k s).1 := by
  unfold step
  split
  · obtain ⟨v, saver, pending, hstep, -⟩ := stepSaver_frame cfg k s c
    rw [hstep]
    exact ⟨fun _ => rfl, (SameRows.refl s).files⟩
  · exact writes_stepHandler.sameRows

lemma Safe.keeps_step (h : c.Safe cfg s) (hid : Foreign s c id) :
    Keeps id s (c.step cfg k s).1 := by
  have hrows := sameRows_step cfg k s c
  unfold step at hrows ⊢
  split
  · rename_i hsaver
    rw [if_pos hsaver] at hrows
    by_cases hs : c.saver.Settled
    · rw [stepSaver_of_settled hs]
      exact .refl _ _
    obtain ⟨data, hsaving, -⟩ := h.saving hs
    refine hrows.keeps fun row hrow => ?_
    have hsame := @Saving.same_stepSaver _ _ cfg k _ _ _ hsaving _
      ((hid _ hsaving.isOpen).2 row hrow)
    obtain ⟨v, saver, pending, hstep, -⟩ := stepSaver_frame cfg k s c
    rw [hstep] at hsame ⊢
    exact ⟨row, hrow, rfl, rfl, hsame⟩
  · exact writes_stepHandler.keeps h hid

lemma step_of_not_active (h : c.Safe cfg s) (ha : ¬ c.Active) : (c.step cfg k s).1 = s := by
  obtain ⟨env, caller, uploadID, stage, pipe, saver, key⟩ := c
  unfold step
  cases stage with
  | selecting =>
    split
    · rw [stepSaver_of_settled (h.1 ▸ trivial)]
    · simp only [stepHandler]
      split
      · rfl
      · split <;> rfl
  | answered r =>
    split
    · rw [stepSaver_of_settled (not_not.mp ha)]
    · rfl
  | _ => exact absurd trivial ha

lemma safe_of_not_active {s' : Store β} (h : c.Safe cfg s) (ha : ¬ c.Active)
    (hopen : IsOpen c.uploadID fileID s) : c.Safe cfg s' := by
  obtain ⟨env, caller, uploadID, stage, pipe, saver, key⟩ := c
  cases stage with
  | selecting => exact h
  | answered r =>
    obtain ⟨-, hdone⟩ | ⟨hr, -⟩ := h
    · exact absurd hdone hopen.not_isDone
    · exact .inr ⟨hr, .inl (not_not.mp ha)⟩
  | _ => exact absurd trivial ha

lemma safe_step (hk : ¬ (Thread.complete c).FailsToMark k) (h : c.Safe cfg s) :
    (c.step cfg k s).2.Safe cfg (c.step cfg k s).1 := by
  unfold step
  split
  · exact safe_stepSaver h
  · rename_i hsaver
    refine safe_stepHandler (fun row hstage => ?_) h
    cases c
    subst hstage
    simpa [Thread.FailsToMark, hsaver] using hk

lemma step_uploadID (cfg : Config β κ) (k : Tick) (s : Store β) (c : Completion β) :
    (c.step cfg k s).2.uploadID = c.uploadID := by
  unfold step
  split
  · obtain ⟨v, saver, pending, hstep, -⟩ := stepSaver_frame cfg k s c
    rw [hstep]
  · unfold stepHandler
    repeat' split
    all_goals rfl

end Completion

/-! ### Runs -/

variable {d : Desk β} {ids : String → Prop} {s : Store β}

lemma Thread.sameRows_step (cfg : Config β κ) (k : Tick) (s : Store β) (t : Thread β) :
    SameRows s (t.step cfg k s).1 := by
  cases t with
  | chunk c => exact keeps_chunk.1
  | complete c => exact c.sameRows_step cfg k s

lemma Thread.step_uploadID (cfg : Config β κ) (k : Tick) (s : Store β) (t : Thread β) :
    (t.step cfg k s).2.uploadID = t.uploadID := by
  cases t with
  | complete c => exact c.step_uploadID cfg k s
  | chunk c =>
    change (c.step cfg k s).2.uploadID = c.uploadID
    unfold ChunkUpload.step
    repeat' split
    all_goals rfl

/-- Each of these sessions has a file of its own. -/
def Apart (ids : String → Prop) (s : Store β) : Prop :=
  ∀ a b row row', ids a → ids b → s.uploads.get? a = some row → s.uploads.get? b = some row' →
    row.fileID = row'.fileID → a = b

lemma Apart.of_sameRows {s' : Store β} (h : Apart ids s) (hrows : SameRows s s') :
    Apart ids s' := by
  have hget : ∀ {id row'}, s'.uploads.get? id = some row' →
      ∃ row, s.uploads.get? id = some row ∧ row.fileID = row'.fileID := by
    intro id row' hrow'
    have hsession := hrows.sessions id
    rw [hrow', Option.map_some] at hsession
    exact Option.map_eq_some_iff.mp hsession.symm
  intro a b ra rb ha hb hra hrb heq
  obtain ⟨ra', hra', hfa⟩ := hget hra
  obtain ⟨rb', hrb', hfb⟩ := hget hrb
  exact h a b ra' rb' ha hb hra' hrb' (hfa.trans (heq.trans hfb.symm))

structure Desk.Sound (cfg : Config β κ) (ids : String → Prop) (d : Desk β) : Prop where
  apart : Apart ids d.state
  guarded : Crew.Guarded (fun s t => ids t.uploadID ∧ t.Safe cfg s) Thread.Active Thread.uploadID d

lemma Thread.Safe.keeps {t : Thread β} {s' : Store β} (h : t.Safe cfg s)
    (hkeeps : Keeps t.uploadID s s') : t.Safe cfg s' := by
  cases t with
  | chunk c => trivial
  | complete c => exact Keeps.safe hkeeps h

/-- A step of one thread leaves alone what the others rely on. -/
lemma Thread.Safe.other {k : Tick} {t u : Thread β} (hapart : Apart ids s)
    (ht : ids t.uploadID ∧ t.Safe cfg s) (hu : ids u.uploadID ∧ u.Safe cfg s)
    (hactive : ¬ Crew.Rivals Thread.Active Thread.uploadID t u) :
    u.Safe cfg (t.step cfg k s).1 := by
  cases t with
  | chunk c => exact hu.2.keeps (keeps_chunk.2 _)
  | complete c =>
    -- a completion that is not at work changes nothing
    by_cases hc : c.Active
    swap
    · change u.Safe cfg (c.step cfg k s).1
      rw [step_of_not_active ht.2 hc]
      exact hu.2
    by_cases hsame : u.uploadID = c.uploadID
    · by_cases hopen : ∃ fileID, IsOpen c.uploadID fileID s
      · cases u with
        | chunk c' => trivial
        | complete c' =>
          obtain ⟨fileID, hopen⟩ := hopen
          have hsame : c'.uploadID = c.uploadID := hsame
          rw [← hsame] at hopen
          exact safe_of_not_active hu.2 (fun hc' => hactive ⟨hsame.symm, hc, hc'⟩) hopen
      · exact hu.2.keeps (Completion.Safe.keeps_step ht.2 fun fileID ho => absurd ⟨_, ho⟩ hopen)
    · refine hu.2.keeps (Completion.Safe.keeps_step ht.2 fun fileID ho =>
        ⟨hsame, fun row hrow hf => ?_⟩)
      obtain ⟨row', hrow', -, hfile⟩ := ho
      exact hsame (hapart _ _ row row' hu.1 ht.1 hrow hrow' (hf.trans hfile.symm))

lemma Desk.sameRows_after {a : Desk.Act β} : SameRows d.state (d.after cfg a).state := by
  cases a with
  | spawn r => exact .refl _
  | step i k =>
    rcases hi : d.threads[i]? with _ | t
    · simpa only [Desk.after, Crew.after, hi] using .refl _
    · simpa only [Desk.after, Crew.after, hi] using Thread.sameRows_step cfg k d.state t

/-- So does a change from outside that leaves the sessions alone. -/
lemma Desk.Sound.outside {s' : Store β} (h : d.Sound cfg ids) (hapart : Apart ids s')
    (hkeeps : ∀ id, Keeps id d.state s') : Desk.Sound cfg ids { d with state := s' } where
  apart := hapart
  guarded := ⟨fun hk => ⟨(h.guarded.each hk).1, (h.guarded.each hk).2.keeps (hkeeps _)⟩,
    h.guarded.alone⟩

lemma Desk.Sound.after {a : Desk.Act β} (h : d.Sound cfg ids) (hord : d.Orderly cfg a)
    (hmarked : d.Marked a) (hids : ∀ r, a = .spawn r → ids r.uploadID) :
    (d.after cfg a).Sound cfg ids := by
  cases a with
  | spawn r =>
    refine ⟨h.apart, h.guarded.after_spawn ?_ ?_⟩
    · have hid := hids r rfl
      cases r with
      | chunk env caller uploadID req => exact ⟨hid, trivial⟩
      | complete env caller uploadID => exact ⟨hid, rfl, rfl⟩
    · cases r <;> exact False.elim
  | step i k =>
    refine ⟨h.apart.of_sameRows Desk.sameRows_after,
      h.guarded.after_step (Thread.step_uploadID cfg k d.state) (fun t ht hsafe => ?_)
        (fun t u hsafe hsafe' hactive => ⟨hsafe'.1, .other h.apart hsafe hsafe' hactive⟩) hord⟩
    refine ⟨(Thread.step_uploadID cfg k d.state t).symm ▸ hsafe.1, ?_⟩
    cases t with
    | chunk c => trivial
    | complete c => exact safe_step (hmarked _ ht) hsafe.2

lemma Desk.Sound.isDone (h : d.Sound cfg ids) {t : Thread β} (ht : t ∈ d.threads)
    (hsucceeded : t.Succeeded) : ids t.uploadID ∧ IsDone cfg t.uploadID d.state := by
  obtain ⟨i, hi⟩ := List.mem_iff_getElem?.mp ht
  obtain ⟨hid, hsafe⟩ := h.guarded.each hi
  refine ⟨hid, ?_⟩
  cases t with
  | chunk c => exact hsucceeded.elim
  | complete c =>
    obtain ⟨f, hstage⟩ := hsucceeded
    simp only [Thread.Safe, Completion.Safe, hstage] at hsafe
    rcases hsafe with ⟨-, hdone⟩ | ⟨hr, -⟩
    · exact hdone
    · exact absurd rfl (hr.ne_ok 200 f)

lemma Desk.sound_start (hapart : Apart ids s) : Desk.Sound cfg ids { state := s } :=
  ⟨hapart, Crew.guarded_iff.mpr (Crew.paired_nil s)⟩

/-- As long as no completion finds its session open while another one is at work, and no mark on a
completed session fails, a completed file stays intact. -/
theorem completed_file_intact (cfg : Config β κ) (uploadID : String) (s : Store β)
    (acts : List (Desk.Act β))
    (h : Along (Desk.after cfg) (fun d a => d.Orderly cfg a ∧ d.Marks uploadID a) acts
      { state := s }) :
    Desk.Intact cfg uploadID (acts.foldl (Desk.after cfg) { state := s }) := by
  have hsound : (acts.foldl (Desk.after cfg) { state := s }).Sound cfg (· = uploadID) := by
    refine h.invariant (fun d a hcond hd => ?_) (Desk.sound_start ?_)
    · cases a with
      | spawn r => exact hd.after hcond.1 trivial fun r' hr => by cases hr; exact hcond.2
      | step i k => exact hd.after hcond.1 hcond.2 fun r hr => by cases hr
    · rintro a b row row' rfl rfl - - -
      rfl
  intro t ht hsucceeded
  obtain ⟨rfl, row, hrow, -, hobject⟩ := hsound.isDone ht hsucceeded
  exact ⟨row, hrow, hobject⟩

namespace Sample

def complete : Desk.Act ℕ := .spawn (.complete (env second "c") caller "upl")

def sendAgain : Desk.Act ℕ :=
  .spawn (.chunk (env second "d") caller "upl" { chunkIndex := some 0, body := [1, 2] })

def handlerStep (i : ℕ) : Desk.Act ℕ := .step i {}

def saverStep (i : ℕ) : Desk.Act ℕ := .step i { saver := true }

def storeFile (i : ℕ) : List (Desk.Act ℕ) :=
  [handlerStep i, handlerStep i, saverStep i, saverStep i, saverStep i, saverStep i, handlerStep i,
    handlerStep i, saverStep i, handlerStep i, handlerStep i, handlerStep i, handlerStep i,
    handlerStep i, handlerStep i, handlerStep i]

/-- The second completion finds no chunk any more, and its background save takes the object back. -/
def loseFile : List (Desk.Act ℕ) :=
  [handlerStep 1, saverStep 1, saverStep 1, handlerStep 1, saverStep 1, saverStep 1]

def race : List (Desk.Act ℕ) :=
  [complete, complete, handlerStep 0, handlerStep 1] ++ storeFile 0 ++ loseFile

end Sample

/-- The chunk is sent again while the first completion is at work, and the second completion comes
when it is over. -/
theorem sample_completed_file_intact :
    let d := ([Sample.complete, Sample.sendAgain, Sample.complete, Sample.handlerStep 0] ++
      List.replicate 5 (Sample.handlerStep 1) ++ Sample.storeFile 0 ++
        [Sample.handlerStep 2]).foldl (Desk.after Sample.cfg) { state := Sample.store }
    (∃ t ∈ d.threads, t.Succeeded) ∧ Desk.Intact Sample.cfg "upl" d :=
  ⟨⟨_, List.mem_cons_self, _, rfl⟩, completed_file_intact _ _ _ _ (by decide)⟩

/-- Two completions both find the session open; when the second one is over, the object the first
one has stored is gone. -/
theorem completed_file_lost :
    let d := Sample.race.foldl (Desk.after Sample.cfg) { state := Sample.store }
    ¬ Desk.Intact Sample.cfg "upl" d ∧ (∃ t ∈ d.threads, t.Succeeded) ∧
      d.state.objects.content "fil" = none := by
  have hrow : ((Sample.race.foldl (Desk.after Sample.cfg)
      { state := Sample.store }).state.uploads.get? "upl").map (·.fileID) = some "fil" := by decide
  have hnone : (Sample.race.foldl (Desk.after Sample.cfg)
      { state := Sample.store }).state.objects.content "fil" = none := by decide
  have hdone : ∃ t ∈ (Sample.race.foldl (Desk.after Sample.cfg)
      { state := Sample.store }).threads, t.Succeeded :=
    ⟨_, List.mem_cons_self, _, rfl⟩
  refine ⟨fun h => ?_, hdone, hnone⟩
  obtain ⟨t, ht, hsucceeded⟩ := hdone
  obtain ⟨row, hrow', file, data, -, hdata, -⟩ := h t ht hsucceeded
  rw [hrow'] at hrow
  have hfile : row.fileID = "fil" := Option.some.inj hrow
  rw [hfile, hnone] at hdata
  cases hdata

end Moebius.Upload
