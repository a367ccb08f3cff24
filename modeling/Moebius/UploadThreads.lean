import Moebius.Upload

/-!
The handlers of an upload as threads, step by step.

A step is one query, one operation on a file or one exchange over the pipe, and may fail. While
`CompleteUpload` reads and hashes the chunks, a goroutine it has started saves what comes through
the pipe; a write to the pipe waits until all its bytes have been read, and the goroutine may be
behind the handler by one piece, or still be at work when the handler has answered.
-/

namespace Moebius.Upload

open List

variable {β κ : Type}

/-! ### The pipe and the background save -/

inductive WriteEnd
  | opened
  | eof
  | broken
  deriving DecidableEq

structure Pipe (β : Type) where
  /-- What has not been read yet of the write that waits. -/
  pending : Option (List β) := none
  writeEnd : WriteEnd := .opened
  /-- Nobody closes the end that is read from. -/
  readClosed : Bool := false

/-- Where the goroutine stands in `LocalBackend.Save`. -/
inductive Saver (β : Type)
  | idle
  | starting
  | creating
  /-- About to read, with the inode it has open and its offset. -/
  | copying (n off : ℕ)
  /-- About to write a piece it has read. -/
  | holding (n off : ℕ) (piece : List β)
  | removing
  | done (ok : Bool)

/-- The buffer of `io.Copy`. -/
def bufferSize : ℕ := 32 * 1024

/-- A step: of the background save or of the handler, failing or not. A write that fails has
written `size` bytes. -/
structure Tick where
  saver : Bool := false
  fault : Bool := false
  size : ℕ := 0

/-! ### Threads -/

inductive CompleteStage (β : Type)
  | selecting
  | loadingSHA (row : UploadRow)
  /-- About to read chunk `i`; `data` is what has been hashed. -/
  | reading (row : UploadRow) (expectedSHA : String) (i : ℕ) (data : List β)
  | sending (row : UploadRow) (expectedSHA : String) (i : ℕ) (data : List β)
  /-- The pipe is closed; waits for the save. -/
  | waiting (row : UploadRow) (expectedSHA : String) (data : List β)
  | loadingSignature (row : UploadRow) (data : List β)
  | loadingKey (row : UploadRow) (data : List β) (sigB64 keyID : String)
  | deleting (row : UploadRow) (r : Reply Files.File)
  | storing (row : UploadRow) (verified : Bool)
  | completing (row : UploadRow)
  | cleaning (row : UploadRow)
  | logging (row : UploadRow)
  | returning (row : UploadRow)
  | answered (r : Reply Files.File)

structure Completion (β : Type) where
  env : Env
  caller : Caller
  uploadID : String
  stage : CompleteStage β := .selecting
  pipe : Pipe β := {}
  saver : Saver β := .idle
  /-- The key the object is saved under. -/
  key : String := ""

inductive ChunkStage
  | selecting
  | truncating (row : UploadRow) (i : ℤ)
  | writing (row : UploadRow) (i : ℤ)
  | updating (row : UploadRow) (i : ℤ)
  | rereading (row : UploadRow) (i : ℤ)
  | answered (r : Reply ChunkResponse)

structure ChunkUpload (β : Type) where
  env : Env
  caller : Caller
  uploadID : String
  req : ChunkRequest β
  stage : ChunkStage := .selecting

namespace ChunkUpload

variable (cfg : Config β κ) (k : Tick) (s : Store β) (c : ChunkUpload β)

def answer (r : Reply ChunkResponse) : ChunkUpload β := { c with stage := .answered r }

def step : Store β × ChunkUpload β :=
  match c.stage with
  | .selecting =>
    match c.req.chunkIndex with
    | none => (s, c.answer (.err 400 "invalid chunk_index"))
    | some i =>
      match if k.fault then none else s.session c.caller.tenantID c.uploadID with
      | none => (s, c.answer sessionNotFound)
      | some row =>
        match checkChunk cfg c.env.now i c.req row with
        | some r => (s, c.answer r)
        | none => (s, { c with stage := .truncating row i })
  | .truncating row i =>
    if k.fault ∨ (s.stage c.uploadID).isNone then (s, c.answer (.err 500 "failed to write chunk"))
    else (s.setChunk c.uploadID i fun _ => some [], { c with stage := .writing row i })
  | .writing row i =>
    -- a file that has been removed meanwhile takes the bytes with it
    if k.fault then
      (s.setChunk c.uploadID i (·.map (writeAt cfg.zero 0 (c.req.body.take k.size))),
        c.answer (.err 500 "failed to write chunk"))
    else
      (s.setChunk c.uploadID i (·.map (writeAt cfg.zero 0 c.req.body)),
        { c with stage := .updating row i })
  | .updating row i =>
    if k.fault then (s, c.answer (.err 500 "failed to update upload session"))
    else
      (s.addChunk c.uploadID i (c.env.clock 1 + uploadExpiry), { c with stage := .rereading row i })
  | .rereading row i =>
    (s, c.answer (chunkReply i row
      ((if k.fault then none else s.uploadedChunks c.uploadID).getD row.uploadedChunks)))
  | .answered _ => (s, c)

end ChunkUpload

namespace Completion

variable (cfg : Config β κ) (k : Tick) (s : Store β) (c : Completion β)

def goto (stage : CompleteStage β) : Completion β := { c with stage }

def answer (r : Reply Files.File) : Completion β := c.goto (.answered r)

def closePipe (e : WriteEnd) : Completion β := { c with pipe := { c.pipe with writeEnd := e } }

def send (data : List β) : Completion β :=
  { c with pipe := { c.pipe with pending := some data } }

def stepHandler : Store β × Completion β :=
  match c.stage with
  | .selecting =>
    match if k.fault then none else s.session c.caller.tenantID c.uploadID with
    | none => (s, c.answer sessionNotFound)
    | some row =>
      match incomplete row with
      | some r => (s, c.answer r)
      | none => (s, c.goto (.loadingSHA row))
  | .loadingSHA row =>
    (s, { c with
      stage := .reading row (if k.fault then "" else s.declaredSHA row.fileID) 0 []
      saver := .starting
      key := row.fileID })
  | .reading row expectedSHA i data =>
    if (i : ℤ) < row.totalChunks then
      match if k.fault then none else s.readChunk row.id i with
      | none => (s, (c.closePipe .broken).answer (.err 500 "failed to read chunk"))
      | some chunk => (s, (c.send chunk).goto (.sending row expectedSHA i (data ++ chunk)))
    else (s, (c.closePipe .eof).goto (.waiting row expectedSHA data))
  | .sending row expectedSHA i data =>
    if c.pipe.readClosed then
      (s, (c.closePipe .broken).answer (.err 500 "failed to assemble file"))
    else match c.pipe.pending with
      | some _ => (s, c)
      | none => (s, c.goto (.reading row expectedSHA (i + 1) data))
  | .waiting row expectedSHA data =>
    match c.saver with
    | .done false => (s, c.answer (.err 500 "failed to store file"))
    | .done true =>
      if cfg.crypto.hex (cfg.crypto.sha256 data) ≠ expectedSHA then
        (s, c.goto (.deleting row checksumMismatch))
      else (s, c.goto (.loadingSignature row data))
    | _ => (s, c)
  | .loadingSignature row data =>
    match if k.fault then none else Files.file? c.caller.tenantID row.fileID s.db with
    | none => (s, c.goto (.deleting row signatureFailure))
    | some f =>
      match signatureOf f with
      | none => (s, c.goto (.storing row false))
      | some (sigB64, keyID) => (s, c.goto (.loadingKey row data sigB64 keyID))
  | .loadingKey row data sigB64 keyID =>
    match if k.fault then .error signatureFailure
      else verifyWith cfg.crypto (cfg.crypto.sha256 data) sigB64
        (s.signingKey c.caller.tenantID keyID) with
    | .error r => (s, c.goto (.deleting row r))
    | .ok verified => (s, c.goto (.storing row verified))
  | .deleting row r => (if k.fault then s else s.removeObject row.fileID, c.answer r)
  | .storing row verified =>
    (if k.fault then s else s.setStored row.fileID (cfg.path row.fileID) verified,
      c.goto (.completing row))
  | .completing row =>
    (if k.fault then s else s.setCompleted row.id c.env.now, c.goto (.cleaning row))
  | .cleaning row => (if k.fault then s else s.removeStage row.id, c.goto (.logging row))
  | .logging row =>
    (if k.fault then s else s.logUpload c.env c.caller row.fileID, c.goto (.returning row))
  | .returning row =>
    (s, c.answer (completeReply (if k.fault then none else s.db.files.get? row.fileID)))
  | .answered _ => (s, c)

def setSaver (saver : Saver β) : Completion β := { c with saver }

/-- The goroutine reads a piece; a write whose last bytes have been read is over. -/
def receive (data : List β) : Completion β :=
  let rest := data.drop bufferSize
  { c with pipe := { c.pipe with pending := if rest.isEmpty then none else some rest } }

def stepSaver : Store β × Completion β :=
  match c.saver with
  | .idle => (s, c)
  | .starting => (s, c.setSaver (if k.fault then .done false else .creating))
  | .creating =>
    if k.fault then (s, c.setSaver (.done false))
    else
      let file := s.objects.create c.key
      ({ s with objects := file.2 }, c.setSaver (.copying file.1 0))
  | .copying n off =>
    match c.pipe.pending with
    | some data => (s, (c.receive data).setSaver (.holding n off (data.take bufferSize)))
    | none =>
      match c.pipe.writeEnd with
      | .opened => (s, c)
      | .eof => (s, c.setSaver (.done true))
      | .broken => (s, c.setSaver .removing)
  | .holding n off piece =>
    if k.fault then
      ({ s with objects := s.objects.write cfg.zero n off (piece.take k.size) },
        c.setSaver .removing)
    else
      ({ s with objects := s.objects.write cfg.zero n off piece },
        c.setSaver (.copying n (off + piece.length)))
  | .removing => (if k.fault then s else s.removeObject c.key, c.setSaver (.done false))
  | .done _ => (s, c)

def step : Store β × Completion β :=
  if k.saver then c.stepSaver cfg k s else c.stepHandler cfg k s

end Completion

inductive Thread (β : Type)
  | chunk (c : ChunkUpload β)
  | complete (c : Completion β)

inductive Request (β : Type)
  | chunk (env : Env) (caller : Caller) (uploadID : String) (req : ChunkRequest β)
  | complete (env : Env) (caller : Caller) (uploadID : String)

inductive Answer
  | chunk (r : Reply ChunkResponse)
  | complete (r : Reply Files.File)

namespace Thread

def start : Request β → Thread β
  | .chunk env caller uploadID req => .chunk { env, caller, uploadID, req }
  | .complete env caller uploadID => .complete { env, caller, uploadID }

def step (cfg : Config β κ) (k : Tick) (s : Store β) : Thread β → Store β × Thread β
  | .chunk c => ((c.step cfg k s).1, .chunk (c.step cfg k s).2)
  | .complete c => ((c.step cfg k s).1, .complete (c.step cfg k s).2)

def alone (cfg : Config β κ) (ticks : List Tick) (s : Store β) (t : Thread β) :
    Store β × Thread β :=
  ticks.foldl (fun x k => x.2.step cfg k x.1) (s, t)

end Thread

/-- The background save has not been started, or is over. -/
def Saver.Settled : Saver β → Prop
  | .idle => True
  | .done _ => True
  | _ => False

/-- The answer of a thread that has given one and has nothing left to do. -/
inductive Thread.Finished : Thread β → Answer → Prop
  | chunk {c : ChunkUpload β} {r : Reply ChunkResponse} (h : c.stage = .answered r) :
      Finished (.chunk c) (.chunk r)
  | complete {c : Completion β} {r : Reply Files.File} (h : c.stage = .answered r)
      (hs : c.saver.Settled) : Finished (.complete c) (.complete r)

def handle (cfg : Config β κ) (s : Store β) : Request β → Answer × Store β
  | .chunk env caller uploadID req =>
    (.chunk (uploadChunk cfg env caller uploadID req s).1,
      (uploadChunk cfg env caller uploadID req s).2)
  | .complete env caller uploadID =>
    (.complete (completeUpload cfg env caller uploadID s).1,
      (completeUpload cfg env caller uploadID s).2)

namespace Saver

/-- The object, from the volume `v₀` before the save on: what is stored, what the goroutine holds
and what waits in the pipe make up the bytes sent. A save that has failed has taken the object back
if that failed for no other reason than the handler's (`clean`). -/
def Holds (clean : Prop) (key : String) (v₀ v : Volume String β) (p : Pipe β) (sent : List β) :
    Saver β → Prop
  | idle => False
  | starting => v = v₀ ∧ sent = p.pending.getD []
  | creating => v = v₀ ∧ sent = p.pending.getD []
  | copying n off => ∃ data, v = v₀.save key data ∧ n = (v₀.create key).1 ∧ off = data.length ∧
      sent = data ++ p.pending.getD []
  | holding n off piece => ∃ data, v = v₀.save key data ∧ n = (v₀.create key).1 ∧
      off = data.length ∧ sent = data ++ piece ++ p.pending.getD []
  | removing => clean → v = v₀.save key sent ∧ p.writeEnd = .broken
  | done true => v = v₀.save key sent ∧ p.writeEnd = .eof
  | done false => clean → v = (v₀.save key sent).remove key ∧ p.writeEnd = .broken

variable {clean : Prop} {key : String} {v₀ v : Volume String β} {p : Pipe β} {sent : List β}
  {saver : Saver β}

lemma Holds.close (h : saver.Holds clean key v₀ v p sent) (ho : p.writeEnd = .opened)
    (e : WriteEnd) : saver.Holds clean key v₀ v { p with writeEnd := e } sent := by
  cases saver with
  | removing => exact fun hc => absurd ((h hc).2.symm.trans ho) (by simp)
  | done ok =>
    cases ok with
    | true => exact absurd (h.2.symm.trans ho) (by simp)
    | false => exact fun hc => absurd ((h hc).2.symm.trans ho) (by simp)
  | _ => exact h

lemma Holds.send (h : saver.Holds clean key v₀ v p sent) (ho : p.writeEnd = .opened)
    (hp : p.pending = none) (data : List β) :
    saver.Holds clean key v₀ v { p with pending := some data } (sent ++ data) := by
  cases saver with
  | idle => exact h
  | starting | creating =>
    obtain ⟨hv, hsent⟩ := h
    exact ⟨hv, by simp [hsent, hp]⟩
  | copying n off | holding n off piece =>
    obtain ⟨w, hv, hn, hoff, hsent⟩ := h
    exact ⟨w, hv, hn, hoff, by simp [hsent, hp]⟩
  | removing => exact fun hc => absurd ((h hc).2.symm.trans ho) (by simp)
  | done ok =>
    cases ok with
    | true => exact absurd (h.2.symm.trans ho) (by simp)
    | false => exact fun hc => absurd ((h hc).2.symm.trans ho) (by simp)

/-- Where the handler's part in a failure is left open, the object alone matters. -/
lemma Holds.frame {v' : Volume String β} (h : saver.Holds False key v₀ v p sent)
    (hv : Volume.Same key v v') : ∃ v₁, saver.Holds False key v₁ v' p sent := by
  have hsave : ∀ {data}, v = v₀.save key data → (v'.create key).1 = (v₀.create key).1 ∧
      v' = v'.save key data := by
    rintro data rfl
    have hname : v'.names key = some (v₀.create key).1 :=
      hv.1.trans (Volume.names_create v₀ key)
    have hinode : v'.inodes (v₀.create key).1 = data :=
      (hv.2 _ (Volume.names_create v₀ key)).trans Volume.inodes_setInode
    obtain ⟨hn, hself⟩ := Volume.save_self hname
    exact ⟨hn, by rw [← hinode, hself]⟩
  refine ⟨v', ?_⟩
  cases saver with
  | idle => exact h
  | starting | creating => exact ⟨rfl, h.2⟩
  | copying n off | holding n off piece =>
    obtain ⟨data, hdata, hn, hrest⟩ := h
    exact ⟨data, (hsave hdata).2, hn.trans (hsave hdata).1.symm, hrest⟩
  | removing => exact False.elim
  | done ok =>
    cases ok with
    | true => exact ⟨(hsave h.1).2, h.2⟩
    | false => exact False.elim

end Saver

variable {cfg : Config β κ} {s₀ : Store β} {k : Tick}

namespace Completion

variable {s : Store β} {c : Completion β}

lemma stepSaver_of_settled (h : c.saver.Settled) : c.stepSaver cfg k s = (s, c) := by
  unfold stepSaver
  cases hs : c.saver <;> simp [hs, Saver.Settled] at h ⊢

lemma stepSaver_frame (cfg : Config β κ) (k : Tick) (s : Store β) (c : Completion β) :
    ∃ v saver pending, c.stepSaver cfg k s =
      ({ s with objects := v }, { c with saver, pipe := { c.pipe with pending } }) ∧
      (c.pipe.pending = none → pending = none) := by
  unfold stepSaver
  split
  · exact ⟨_, _, _, rfl, id⟩
  · exact ⟨_, _, _, rfl, id⟩
  · split <;> exact ⟨_, _, _, rfl, id⟩
  · split
    · rename_i data hdata
      refine ⟨_, _, _, rfl, fun hnone => ?_⟩
      cases hdata.symm.trans hnone
    · split <;> exact ⟨_, _, _, rfl, id⟩
  · split <;> exact ⟨_, _, _, rfl, id⟩
  · split <;> exact ⟨_, _, _, rfl, id⟩
  · exact ⟨_, _, _, rfl, id⟩

lemma receive_pending {data : List β} : (c.receive data).pipe.pending.getD [] =
    data.drop bufferSize := by
  simp only [receive]
  split
  · rename_i h
    simpa using (isEmpty_iff.mp h).symm
  · rfl

lemma stepSaver_holds {clean : Prop} {v₀ : Volume String β} {sent : List β}
    (h : c.saver.Holds clean c.key v₀ s.objects c.pipe sent) (hk : clean → k.fault = false) :
    (c.stepSaver cfg k s).2.saver.Holds clean c.key v₀ (c.stepSaver cfg k s).1.objects
      (c.stepSaver cfg k s).2.pipe sent := by
  obtain ⟨env, caller, uploadID, stage, pipe, saver, key⟩ := c
  unfold stepSaver
  cases saver with
  | idle => exact h.elim
  | starting =>
    cases hf : k.fault with
    | true => exact fun hc => absurd (hk hc) (by simp [hf])
    | false => exact h
  | creating =>
    obtain ⟨hv, hsent⟩ := h
    cases hf : k.fault with
    | true => exact fun hc => absurd (hk hc) (by simp [hf])
    | false =>
      refine ⟨[], ?_, ?_, rfl, hsent⟩
      · rw [← hv]
        exact Volume.create_eq_save _ _
      · rw [← hv]
  | copying n off =>
    obtain ⟨data, hv, hn, hoff, hsent⟩ := h
    cases hp : pipe.pending with
    | some rest =>
      refine ⟨data, hv, hn, hoff, ?_⟩
      simp only [setSaver, receive_pending]
      rw [hsent, hp, append_assoc, take_append_drop]
      rfl
    | none =>
      rw [hp, Option.getD_none, append_nil] at hsent
      subst hsent
      cases hw : pipe.writeEnd with
      | opened => exact ⟨sent, hv, hn, hoff, by simp [hp]⟩
      | eof => exact ⟨hv, hw⟩
      | broken => exact fun _ => ⟨hv, hw⟩
  | holding n off piece =>
    obtain ⟨data, hv, hn, hoff, hsent⟩ := h
    cases hf : k.fault with
    | true => exact fun hc => absurd (hk hc) (by simp [hf])
    | false =>
      refine ⟨data ++ piece, ?_, hn, by simp [hoff], hsent⟩
      simp only [Bool.false_eq_true, if_false]
      rw [hv, hn, hoff, Volume.write_save]
  | removing =>
    intro hc
    obtain ⟨hv, hw⟩ := h hc
    simp only [hk hc, Bool.false_eq_true, if_false]
    exact ⟨congrArg (fun v => Volume.remove v key) hv, hw⟩
  | done ok => exact h

/-! ### Completions that run alone -/

def returned (row : UploadRow) (s : Store β) : Reply Files.File × Store β :=
  (completeReply (s.db.files.get? row.fileID), s)

/-- The chunks below `i` have been hashed and sent, and nothing else has changed since `s₀`. -/
structure Filling (cfg : Config β κ) (s₀ : Store β) (out : Reply Files.File × Store β)
    (s : Store β) (c : Completion β) (row : UploadRow) (expectedSHA : String) (i : ℕ)
    (data : List β) : Prop where
  out : out = assembleUpload cfg c.env c.caller row s₀
  expected : expectedSHA = s₀.declaredSHA row.fileID
  rest : assemble (s₀.readChunk row.id) row.totalChunks =
    assembleFrom (s₀.readChunk row.id) (row.totalChunks.toNat - i) i data
  frame : s = { s₀ with objects := s.objects }
  key : c.key = row.fileID
  holds : c.saver.Holds True c.key s₀.objects s.objects c.pipe data
  opened : c.pipe.writeEnd = .opened
  reader : c.pipe.readClosed = false

/-- How far a completion that began in `s₀` has come, as an equation for what it comes to. -/
def Lone (cfg : Config β κ) (s₀ : Store β) (out : Reply Files.File × Store β) (s : Store β)
    (c : Completion β) : Prop :=
  match c.stage with
  | .selecting => s = s₀ ∧ c.saver = .idle ∧ c.pipe = {} ∧
      out = completeUpload cfg c.env c.caller c.uploadID s₀
  | .loadingSHA row => s = s₀ ∧ c.saver = .idle ∧ c.pipe = {} ∧
      out = assembleUpload cfg c.env c.caller row s₀
  | .reading row expectedSHA i data =>
      Filling cfg s₀ out s c row expectedSHA i data ∧ c.pipe.pending = none
  | .sending row expectedSHA i data => Filling cfg s₀ out s c row expectedSHA (i + 1) data
  | .waiting row expectedSHA data => s = { s₀ with objects := s.objects } ∧
      c.key = row.fileID ∧ c.saver.Holds True c.key s₀.objects s.objects c.pipe data ∧
      c.pipe.writeEnd = .eof ∧ out =
        judgeUpload cfg c.env c.caller row expectedSHA data (s₀.saveObject row.fileID data)
  | .loadingSignature row data => c.saver = .done true ∧ out =
      match verifyFileSignature cfg c.caller.tenantID row.fileID (cfg.crypto.sha256 data) s with
      | .error r => (r, s.removeObject row.fileID)
      | .ok verified => finishUpload cfg c.env c.caller row verified s
  | .loadingKey row data sigB64 keyID => c.saver = .done true ∧ out =
      match verifyWith cfg.crypto (cfg.crypto.sha256 data) sigB64
        (s.signingKey c.caller.tenantID keyID) with
      | .error r => (r, s.removeObject row.fileID)
      | .ok verified => finishUpload cfg c.env c.caller row verified s
  | .deleting row r => c.saver = .done true ∧ out = (r, s.removeObject row.fileID)
  | .storing row verified => c.saver = .done true ∧
      out = finishUpload cfg c.env c.caller row verified s
  | .completing row => c.saver = .done true ∧ out = returned row
      (((s.setCompleted row.id c.env.now).removeStage row.id).logUpload c.env c.caller row.fileID)
  | .cleaning row => c.saver = .done true ∧ out = returned row
      ((s.removeStage row.id).logUpload c.env c.caller row.fileID)
  | .logging row => c.saver = .done true ∧ out = returned row
      (s.logUpload c.env c.caller row.fileID)
  | .returning row => c.saver = .done true ∧ out = returned row s
  | .answered r => c.saver.Settled ∧ out = (r, s) ∨
      ∃ data, s = { s₀ with objects := s.objects } ∧
        c.saver.Holds True c.key s₀.objects s.objects c.pipe data ∧
        c.pipe.writeEnd = .broken ∧
        out = (r, (s₀.saveObject c.key data).removeObject c.key)

variable {out : Reply Files.File × Store β} {expectedSHA : String} {i : ℕ} {data : List β}

lemma lone_reading {row : UploadRow} (hstage : c.stage = .reading row expectedSHA i data)
    (hk : k.fault = false) (h : Filling cfg s₀ out s c row expectedSHA i data)
    (hp : c.pipe.pending = none) :
    Lone cfg s₀ out (c.stepHandler cfg k s).1 (c.stepHandler cfg k s).2 := by
  have hread : s.readChunk row.id i = s₀.readChunk row.id i := by
    rw [h.frame]
    rfl
  have hrest := h.rest
  simp only [stepHandler, hstage, hk, Bool.false_eq_true, if_false, hread]
  split
  · have hleft : row.totalChunks.toNat - i = row.totalChunks.toNat - (i + 1) + 1 := by omega
    rw [hleft, assembleFrom] at hrest
    cases hchunk : s₀.readChunk row.id i with
    | none =>
      rw [hchunk] at hrest
      refine .inr ⟨data, h.frame, h.holds.close h.opened .broken, rfl, ?_⟩
      change out = (_, (s₀.saveObject c.key data).removeObject c.key)
      rw [h.out, assembleUpload, hrest, h.key]
    | some chunk =>
      rw [hchunk] at hrest
      exact ⟨h.out, h.expected, hrest, h.frame, h.key, h.holds.send h.opened hp chunk, h.opened,
        h.reader⟩
  · have hleft : row.totalChunks.toNat - i = 0 := by omega
    rw [hleft, assembleFrom] at hrest
    refine ⟨h.frame, h.key, h.holds.close h.opened .eof, rfl, ?_⟩
    rw [h.out, assembleUpload, hrest, h.expected]
    rfl

lemma lone_waiting {row : UploadRow} (hstage : c.stage = .waiting row expectedSHA data)
    (h : Lone cfg s₀ out s c) :
    Lone cfg s₀ out (c.stepHandler cfg k s).1 (c.stepHandler cfg k s).2 := by
  have hlone := h
  simp only [Lone, hstage] at h
  obtain ⟨hframe, hkey, hholds, heof, hout⟩ := h
  cases hs : c.saver with
  | done ok =>
    rw [hs] at hholds
    cases ok with
    | false => exact absurd ((hholds trivial).2.symm.trans heof) (by simp)
    | true =>
      have hs' : s = s₀.saveObject row.fileID data := by
        rw [hframe, hholds.1, hkey]
        rfl
      rw [← hs', judgeUpload] at hout
      simp only [stepHandler, hstage, hs]
      split
      · rename_i hsha
        exact ⟨hs, hout.trans (if_pos hsha)⟩
      · rename_i hsha
        exact ⟨hs, hout.trans (if_neg hsha)⟩
  | _ =>
    simp only [stepHandler, hstage, hs]
    exact hlone

lemma lone_stepHandler (hk : k.fault = false) (h : Lone cfg s₀ out s c) :
    Lone cfg s₀ out (c.stepHandler cfg k s).1 (c.stepHandler cfg k s).2 := by
  obtain ⟨env, caller, uploadID, stage, pipe, saver, key⟩ := c
  cases stage with
  | selecting =>
    obtain ⟨rfl, rfl, rfl, hout⟩ := h
    unfold completeUpload at hout
    simp only [stepHandler, hk, Bool.false_eq_true, if_false]
    revert hout
    cases s.session caller.tenantID uploadID with
    | none => exact fun hout => .inl ⟨trivial, hout⟩
    | some row =>
      dsimp only
      cases (incomplete row : Option (Reply Files.File)) with
      | some r => exact fun hout => .inl ⟨trivial, hout⟩
      | none => exact fun hout => ⟨rfl, rfl, rfl, hout⟩
  | loadingSHA row =>
    obtain ⟨rfl, rfl, rfl, hout⟩ := h
    simp only [stepHandler, hk]
    exact ⟨⟨hout, rfl, rfl, rfl, rfl, ⟨rfl, rfl⟩, rfl, rfl⟩, rfl⟩
  | reading row expectedSHA i data => exact lone_reading rfl hk h.1 h.2
  | sending row expectedSHA i data =>
    have hreader : pipe.readClosed = false := h.reader
    simp only [stepHandler, hreader, Bool.false_eq_true, if_false]
    cases hp : pipe.pending with
    | some rest => exact h
    | none => exact ⟨⟨h.out, h.expected, h.rest, h.frame, h.key, h.holds, h.opened, h.reader⟩, hp⟩
  | waiting row expectedSHA data => exact lone_waiting rfl h
  | loadingSignature row data =>
    obtain ⟨hs, hout⟩ := h
    unfold verifyFileSignature at hout
    simp only [stepHandler, hk, Bool.false_eq_true, if_false]
    revert hout
    cases Files.file? caller.tenantID row.fileID s.db with
    | none => exact fun hout => ⟨hs, hout⟩
    | some f =>
      dsimp only
      cases signatureOf f with
      | none => exact fun hout => ⟨hs, hout⟩
      | some sig => exact fun hout => ⟨hs, hout⟩
  | loadingKey row data sigB64 keyID =>
    obtain ⟨hs, hout⟩ := h
    simp only [stepHandler, hk, Bool.false_eq_true, if_false]
    revert hout
    cases verifyWith cfg.crypto (cfg.crypto.sha256 data) sigB64
        (s.signingKey caller.tenantID keyID) with
    | error r => exact fun hout => ⟨hs, hout⟩
    | ok verified => exact fun hout => ⟨hs, hout⟩
  | deleting row r | returning row =>
    obtain ⟨rfl, hout⟩ := h
    simp only [stepHandler, hk]
    exact .inl ⟨trivial, hout⟩
  | _ =>
    simp only [stepHandler, hk]
    exact h

lemma filling_stepSaver {row : UploadRow} (hk : k.fault = false)
    (h : Filling cfg s₀ out s c row expectedSHA i data) :
    Filling cfg s₀ out (c.stepSaver cfg k s).1 (c.stepSaver cfg k s).2 row expectedSHA i data := by
  have hholds := @stepSaver_holds _ _ cfg _ _ _ _ _ _ h.holds fun _ => hk
  obtain ⟨v, saver, pending, hstep, -⟩ := stepSaver_frame cfg k s c
  rw [hstep] at hholds ⊢
  refine ⟨h.out, h.expected, h.rest, ?_, h.key, hholds, h.opened, h.reader⟩
  rw [h.frame]

lemma lone_stepSaver (hk : k.fault = false) (h : Lone cfg s₀ out s c) :
    Lone cfg s₀ out (c.stepSaver cfg k s).1 (c.stepSaver cfg k s).2 := by
  by_cases hs : c.saver.Settled
  · rw [stepSaver_of_settled hs]
    exact h
  have hholds : ∀ {data}, c.saver.Holds True c.key s₀.objects s.objects c.pipe data → _ :=
    fun hh => @stepSaver_holds _ _ cfg k _ _ _ _ _ hh fun _ => hk
  obtain ⟨v, saver', pending, hstep, hnone⟩ := stepSaver_frame cfg k s c
  obtain ⟨env, caller, uploadID, stage, pipe, saver, key⟩ := c
  cases stage with
  | selecting | loadingSHA row => exact absurd (h.2.1 ▸ trivial) hs
  | reading row expectedSHA i data =>
    have hfill := filling_stepSaver hk h.1
    rw [hstep] at hfill ⊢
    exact ⟨hfill, hnone h.2⟩
  | sending row expectedSHA i data =>
    have hfill := filling_stepSaver hk h
    rw [hstep] at hfill ⊢
    exact hfill
  | waiting row expectedSHA data =>
    obtain ⟨hframe, hkey, hh, heof, hout⟩ := h
    have hh := hholds hh
    rw [hstep] at hh ⊢
    exact ⟨by rw [hframe], hkey, hh, heof, hout⟩
  | answered r =>
    obtain ⟨hs', -⟩ | ⟨data, hframe, hh, hbroken, hout⟩ := h
    · exact absurd hs' hs
    · have hh := hholds hh
      rw [hstep] at hh ⊢
      exact .inr ⟨data, by rw [hframe], hh, hbroken, hout⟩
  | _ => exact absurd (h.1 ▸ trivial) hs

lemma lone_step (hk : k.fault = false) (h : Lone cfg s₀ out s c) :
    Lone cfg s₀ out (c.step cfg k s).1 (c.step cfg k s).2 := by
  unfold step
  split
  · exact lone_stepSaver hk h
  · exact lone_stepHandler hk h

lemma out_of_lone {r : Reply Files.File} (hr : c.stage = .answered r)
    (hs : c.saver.Settled) (h : Lone cfg s₀ out s c) : out = (r, s) := by
  simp only [Lone, hr] at h
  rcases h with ⟨-, hout⟩ | ⟨data, hframe, hholds, hbroken, hout⟩
  · exact hout
  obtain ⟨env, caller, uploadID, stage, pipe, saver, key⟩ := c
  cases saver with
  | idle => exact hholds.elim
  | done ok =>
    cases ok with
    | true => exact absurd (hholds.2.symm.trans hbroken) (by simp)
    | false =>
      rw [hout, hframe, (hholds trivial).1]
      rfl
  | _ => exact hs.elim

end Completion

namespace ChunkUpload

variable {s : Store β} {c : ChunkUpload β} {out : Reply ChunkResponse × Store β}

lemma setChunk_setChunk {uploadID : String} {i : ℤ} {f g : Option (List β) → Option (List β)} :
    (s.setChunk uploadID i f).setChunk uploadID i g = s.setChunk uploadID i (g ∘ f) := by
  simp [Store.setChunk, Function.comp_def]

def written (c : ChunkUpload β) (row : UploadRow) (i : ℤ) (s : Store β) :
    Reply ChunkResponse × Store β :=
  let s := s.addChunk c.uploadID i (c.env.clock 1 + uploadExpiry)
  (chunkReply i row ((s.uploadedChunks c.uploadID).getD row.uploadedChunks), s)

def Lone (cfg : Config β κ) (s₀ : Store β) (out : Reply ChunkResponse × Store β) (s : Store β)
    (c : ChunkUpload β) : Prop :=
  match c.stage with
  | .selecting => s = s₀ ∧ out = uploadChunk cfg c.env c.caller c.uploadID c.req s₀
  | .truncating row i => s = s₀ ∧ out =
      if (s₀.stage c.uploadID).isNone then (.err 500 "failed to write chunk", s₀)
      else c.written row i (s₀.setChunk c.uploadID i fun _ => some c.req.body)
  | .writing row i => s = s₀.setChunk c.uploadID i (fun _ => some []) ∧
      out = c.written row i (s₀.setChunk c.uploadID i fun _ => some c.req.body)
  | .updating row i => out = c.written row i s
  | .rereading row i =>
      out = (chunkReply i row ((s.uploadedChunks c.uploadID).getD row.uploadedChunks), s)
  | .answered r => out = (r, s)

lemma lone_step (hk : k.fault = false) (h : Lone cfg s₀ out s c) :
    Lone cfg s₀ out (c.step cfg k s).1 (c.step cfg k s).2 := by
  obtain ⟨env, caller, uploadID, req, stage⟩ := c
  cases stage with
  | selecting =>
    obtain ⟨rfl, hout⟩ := h
    unfold uploadChunk at hout
    simp only [step, hk, Bool.false_eq_true, if_false]
    revert hout
    cases req.chunkIndex with
    | none => exact id
    | some i =>
      dsimp only
      cases s.session caller.tenantID uploadID with
      | none => exact id
      | some row =>
        dsimp only
        cases checkChunk cfg env.now i req row with
        | some r => exact id
        | none => exact fun hout => ⟨rfl, hout⟩
  | truncating row i =>
    obtain ⟨rfl, hout⟩ := h
    simp only [step, hk, Bool.false_eq_true, false_or]
    split
    · rename_i hnone
      rwa [if_pos hnone] at hout
    · rename_i hsome
      rw [if_neg hsome] at hout
      exact ⟨rfl, hout⟩
  | writing row i =>
    obtain ⟨rfl, hout⟩ := h
    simp only [step, hk, Bool.false_eq_true, if_false]
    change out = written _ row i _
    rw [hout, setChunk_setChunk]
    simp [written, writeAt, Function.comp_def]
  | updating row i | rereading row i =>
    simp only [step, hk, Bool.false_eq_true, if_false]
    exact h
  | answered r => exact h

end ChunkUpload

namespace Thread

/-- How far the thread of a request that began in `s₀` has come. -/
def Lone (cfg : Config β κ) (s₀ : Store β) (out : Answer × Store β) (s : Store β) : Thread β → Prop
  | .chunk c => ∃ r s', out = (.chunk r, s') ∧ c.Lone cfg s₀ (r, s') s
  | .complete c => ∃ r s', out = (.complete r, s') ∧ c.Lone cfg s₀ (r, s') s

lemma lone_start (cfg : Config β κ) (s : Store β) (req : Request β) :
    (start req).Lone cfg s (handle cfg s req) s := by
  cases req with
  | chunk env caller uploadID req => exact ⟨_, _, rfl, rfl, rfl⟩
  | complete env caller uploadID => exact ⟨_, _, rfl, rfl, rfl, rfl, rfl⟩

variable {ticks : List Tick} {s : Store β}

lemma lone_alone {out : Answer × Store β} (hticks : ∀ k ∈ ticks, k.fault = false) {t : Thread β}
    (h : t.Lone cfg s₀ out s) :
    (t.alone cfg ticks s).2.Lone cfg s₀ out (t.alone cfg ticks s).1 := by
  induction ticks generalizing s t with
  | nil => exact h
  | cons k ticks ih =>
    have hk : k.fault = false := hticks k mem_cons_self
    refine ih (fun k' hk' => hticks k' (mem_cons_of_mem k hk')) ?_
    cases t with
    | chunk c =>
      obtain ⟨r, s', hout, hlone⟩ := h
      exact ⟨r, s', hout, ChunkUpload.lone_step hk hlone⟩
    | complete c =>
      obtain ⟨r, s', hout, hlone⟩ := h
      exact ⟨r, s', hout, Completion.lone_step hk hlone⟩

/-- A request that runs alone and meets no failure ends as `handle` says, in whatever order the
handler and the background save take their steps. -/
theorem alone_eq_handle {req : Request β} (hticks : ∀ k ∈ ticks, k.fault = false) {a : Answer}
    (h : ((start req).alone cfg ticks s).2.Finished a) :
    handle cfg s req = (a, ((start req).alone cfg ticks s).1) := by
  have hlone := lone_alone hticks (lone_start cfg s req)
  generalize (start req).alone cfg ticks s = x at h hlone
  obtain ⟨s', t⟩ := x
  cases h with
  | chunk h =>
    obtain ⟨r, s'', hout, hc⟩ := hlone
    simp only [ChunkUpload.Lone, h] at hc
    cases hc
    exact hout
  | complete h hs =>
    obtain ⟨r, s'', hout, hc⟩ := hlone
    cases Completion.out_of_lone h hs hc
    exact hout

end Thread

end Moebius.Upload
