import Moebius.Runs
import Moebius.UpdateSafety

/-!
The previous binary over a run of updates and rollbacks.

The run keeps a list of the binaries that have been installed.
-/

namespace Moebius.Update

variable {β κ : Type}

inductive Event (β : Type)
  | update (A : Agent) (io : Io β) (jobID : String) (payload : Except String AgentUpdatePayload)
  | rollback (A : Agent) (look : Option String) (io : RollbackIo)
      (payload : Except String AgentRollbackPayload)
  | restart (version : String) (platform : Platform) (io : RestartIo)

def Event.run (C : Crypto β κ) (J : Codec PendingUpdate β) (d : Disk β) : Event β → Disk β
  | update A io jobID payload => (executeAgentUpdate C J A io jobID payload d).2
  | rollback A look io payload => (executeAgentRollback A look io payload d).2
  | restart version platform io => (postRestart J version platform io d).2

def Event.CutsBackup : Event β → Prop
  | update _ io _ _ => io.backup.write.Cut
  | _ => False

/-- The disk, and the binaries that were the installed one at some earlier time. -/
structure History (β : Type) where
  disk : Disk β
  installed : List (List β) := []

def History.step (C : Crypto β κ) (J : Codec PendingUpdate β) (s : History β) (e : Event β) :
    History β where
  disk := e.run C J s.disk
  installed := s.installed ++ s.disk.binary.toList

/-- The event is an update that has downloaded these bytes and found them genuine. -/
def Event.Verifies (C : Crypto β κ) (b : List β) : Event β → Prop
  | update A io _ payload => ∃ p, payload = .ok p ∧ (io.client p.downloadURL).Delivers b ∧
      Genuine C A io p b
  | _ => False

/-- The previous binary is one that was installed earlier. -/
def History.PreviousKnown (s : History β) : Prop := ∀ b ∈ s.disk.previous, b ∈ s.installed

structure Intact (C : Crypto β κ) (J : Codec PendingUpdate β) (s : History β) (e : Event β) :
    Prop where
  previous : (s.step C J e).PreviousKnown
  binary : ∀ b ∈ (s.step C J e).disk.binary, b ∈ (s.step C J e).installed ∨ e.Verifies C b

/-! ### One event -/

/-- A disk both of whose binaries were there before. -/
def Disk.Shuffled (d d' : Disk β) : Prop :=
  (d'.previous = d.previous ∨ d'.previous = d.binary ∨ d'.previous = none) ∧
    (d'.binary = d.binary ∨ d'.binary = d.previous)

lemma Disk.Shuffled.refl (d : Disk β) : d.Shuffled d := ⟨.inl rfl, .inl rfl⟩

lemma shuffled_rollback (path : String) (io : RollbackIo) (d : Disk β) :
    d.Shuffled (rollback path io d).2 := by
  rcases rollback_cases path io d with ⟨b, hb, -, -, h⟩ | ⟨-, err, h⟩
  · rw [h]
    exact ⟨.inr (.inr rfl), .inr hb.symm⟩
  · rw [h]
    exact .refl d

lemma shuffled_executeAgentRollback (A : Agent) (look : Option String) (io : RollbackIo)
    (payload : Except String AgentRollbackPayload) (d : Disk β) :
    d.Shuffled (executeAgentRollback A look io payload d).2 := by
  unfold executeAgentRollback
  split
  · exact .refl d
  split
  · exact .refl d
  rename_i platform _
  split
  · exact .refl d
  have h := shuffled_rollback platform.binaryPreviousPath io d
  split <;> (rename_i hr; rw [hr] at h; exact h)

lemma shuffled_postRestart {J : Codec PendingUpdate β} {version : String} {platform : Platform}
    {io : RestartIo} {d : Disk β} : d.Shuffled (postRestart J version platform io d).2 := by
  unfold postRestart
  split
  · exact .refl d
  split
  · exact .refl d
  split
  · have h := shuffled_rollback platform.binaryPreviousPath io.rollback d
    split <;> (rename_i hr; rw [hr] at h; exact h)
  · exact .refl d

variable {C : Crypto β κ} {J : Codec PendingUpdate β} {s : History β} {e : Event β}

lemma intact_of_shuffled (hs : s.PreviousKnown) (h : s.disk.Shuffled (e.run C J s.disk)) :
    Intact C J s e := by
  have hprev : ∀ b ∈ s.disk.previous, b ∈ (s.step C J e).installed :=
    fun b hb => List.mem_append_left _ (hs b hb)
  have hbin : ∀ b ∈ s.disk.binary, b ∈ (s.step C J e).installed :=
    fun b hb => List.mem_append_right _ (Option.mem_toList.mpr hb)
  obtain ⟨hp, hb⟩ := h
  constructor
  · intro b hmem
    change b ∈ (e.run C J s.disk).previous at hmem
    rcases hp with hp | hp | hp <;> rw [hp] at hmem
    · exact hprev b hmem
    · exact hbin b hmem
    · cases hmem
  · intro b hmem
    change b ∈ (e.run C J s.disk).binary at hmem
    rcases hb with hb | hb <;> rw [hb] at hmem
    · exact .inl (hbin b hmem)
    · exact .inl (hprev b hmem)

lemma intact_update {A : Agent} {io : Io β} {jobID : String}
    {payload : Except String AgentUpdatePayload} (hs : s.PreviousKnown)
    (hcut : ¬ io.backup.write.Cut) : Intact C J s (.update A io jobID payload) := by
  have ho := executeAgentUpdate_outcome C J A io jobID payload s.disk
  generalize hr : executeAgentUpdate C J A io jobID payload s.disk = r at ho
  have hrun : Event.run C J s.disk (.update A io jobID payload) = r.2 := congrArg Prod.snd hr
  cases ho with
  | refused msg h => exact intact_of_shuffled hs (hrun ▸ .refl s.disk)
  | dropped msg staging => exact intact_of_shuffled hs (hrun ▸ ⟨.inl rfl, .inl rfl⟩)
  | stuck msg staging =>
    refine intact_of_shuffled hs (hrun ▸ ⟨?_, .inl rfl⟩)
    exact (Copy.run_file_of_not_cut hcut _ _ _).imp_right .inl
  | @installed p old new msg hp h =>
    constructor
    · intro b hb
      change b ∈ (Event.run C J s.disk (.update A io jobID payload)).previous at hb
      rw [hrun] at hb
      cases hb
      exact List.mem_append_right _ (Option.mem_toList.mpr h.current)
    · intro b hb
      change b ∈ (Event.run C J s.disk (.update A io jobID payload)).binary at hb
      rw [hrun] at hb
      cases hb
      exact .inr ⟨p, hp, h.download, h.genuine⟩

lemma intact_step (he : ¬ e.CutsBackup) (hs : s.PreviousKnown) : Intact C J s e := by
  cases e with
  | update A io jobID payload => exact intact_update hs he
  | rollback A look io payload =>
    exact intact_of_shuffled hs (shuffled_executeAgentRollback A look io payload s.disk)
  | restart version platform io =>
    exact intact_of_shuffled hs shuffled_postRestart

/-- As long as no backup stops half-way, every event leaves a previous binary that was installed
earlier, and an installed binary that was, or that it has just verified. -/
theorem rollback_target_intact (C : Crypto β κ) (J : Codec PendingUpdate β) (s : History β)
    (events : List (Event β)) (hs : s.PreviousKnown) (h : ∀ e ∈ events, ¬ e.CutsBackup) :
    Along (History.step C J) (Intact C J) events s := by
  have hcut : Along (History.step C J) (fun _ e => ¬ e.CutsBackup) events s :=
    .of_forall (fun e he _ => h e he) s
  exact hcut.imp_of_invariant (fun _ _ he hs => (intact_step he hs).previous)
    (fun _ _ he hs => intact_step he hs) hs

namespace Sample

def history : History Token := { disk := disk }

def tornUpdate : Event Token :=
  .update agent { io with backup := { write := .stopped 1 "no space left" } } "job_j"
    (.ok payload)

def rollbackJob : Event Token := .rollback agent none rollbackIo (.ok {})

end Sample

open Sample in
theorem sample_update_and_rollback_intact : Along (History.step crypto codec) (Intact crypto codec)
      [.update agent io "job_j" (.ok payload), rollbackJob]
      history :=
  rollback_target_intact crypto codec history _
    (fun _ hb => absurd hb (by simp [history, disk]))
    (by simp [Event.CutsBackup, io, rollbackJob, Write.Cut])

open Sample in
/-- The update fails, the rollback after it installs the first byte of the old binary. -/
theorem torn_backup_installed : ¬ Along (History.step crypto codec) (Intact crypto codec)
        [tornUpdate, rollbackJob] history ∧
      ([tornUpdate, rollbackJob].foldl
        (History.step crypto codec) history).disk.binary = some [.byte 1] := by
  constructor
  · rintro ⟨⟨hprevious, -⟩, -⟩
    have hmem := hprevious [.byte 1] rfl
    revert hmem
    decide
  · decide

end Moebius.Update
