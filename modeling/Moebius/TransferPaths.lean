import Mathlib.Data.Set.Finite.Basic
import Moebius.FileTransfer

/-!
Where a transfer writes.

The temporary file is named after the file id and the final one after its last element, both below
the drop directory. The id is whatever the job says: with enough `..` in it the temporary file is
any file of the device. A name stays below every directory if walking along it never climbs
above the start and ends below it.
-/

namespace Moebius.FileTransfer

open Update (downloadFile failed)

/-- One element of a path that is being cleaned. -/
def visit (acc : List String) (c : String) : List String :=
  if c = "" ∨ c = "." then acc else if c = ".." then acc.dropLast else acc ++ [c]

lemma clean_append {xs ys : List String} :
    Files.clean (xs ++ ys) = ys.foldl visit (Files.clean xs) :=
  List.foldl_append

/-- How far below its start a walk ends, unless it climbs above it. -/
def depth : ℕ → List String → Option ℕ
  | n, [] => some n
  | n, c :: cs =>
    if c = "" ∨ c = "." then depth n cs
    else if c = ".." then
      match n with
      | 0 => none
      | n + 1 => depth n cs
    else depth (n + 1) cs

variable {cs below : List String}

/-- A walk that does not climb above its start goes the same way below every directory. -/
lemma foldl_visit_of_depth {n m : ℕ} (h : depth n cs = some m) (hn : below.length = n) :
    ∃ below' : List String, below'.length = m ∧
      ∀ dir, cs.foldl visit (dir ++ below) = dir ++ below' := by
  induction cs generalizing n below with
  | nil =>
    cases h
    exact ⟨below, hn, fun dir => rfl⟩
  | cons c cs ih =>
    simp only [depth] at h
    simp only [List.foldl_cons, visit]
    split at h
    · rename_i hstay
      simp only [if_pos hstay]
      exact ih h hn
    rename_i hstay
    simp only [if_neg hstay]
    split at h
    · rename_i hup
      simp only [if_pos hup]
      cases n with
      | zero => cases h
      | succ n =>
        have hne : below ≠ [] := by
          rintro rfl
          cases hn
        simp only [List.dropLast_append_of_ne_nil hne]
        exact ih h (by rw [List.length_dropLast, hn, Nat.add_sub_cancel])
    · rename_i hup
      simp only [if_neg hup, List.append_assoc]
      exact ih h (by rw [List.length_append, hn, List.length_singleton])

def directory (dir : String) : List String := Files.clean (components dir)

def Inside (dir path : List String) : Prop := ∃ c rest, path = dir ++ c :: rest

/-- A name that never climbs above where it starts and ends below it. -/
def Contained (name : String) : Prop := ∃ n, depth 0 (components name) = some (n + 1)

lemma inside_join {name dir : String} (h : Contained name) :
    Inside (directory dir) (join dir name) := by
  obtain ⟨n, hdepth⟩ := h
  obtain ⟨below, hlength, hwalk⟩ := foldl_visit_of_depth hdepth List.length_nil
  have hjoin := hwalk (directory dir)
  rw [List.append_nil, directory, ← clean_append] at hjoin
  cases below with
  | nil => cases hlength
  | cons c rest => exact ⟨c, rest, hjoin⟩

lemma notMem_foldl_visit {f : String} {acc : List String} (hacc : f ∉ acc) (hcs : f ∉ cs) :
    f ∉ cs.foldl visit acc := by
  induction cs generalizing acc with
  | nil => exact hacc
  | cons c cs ih =>
    rw [List.mem_cons, not_or] at hcs
    refine ih ?_ hcs.2
    unfold visit
    split_ifs
    · exact hacc
    · exact fun h => hacc (List.dropLast_subset _ h)
    · simpa using ⟨hacc, hcs.1⟩

/-- A walk that climbs above its start leaves a directory of another name for good. -/
lemma notMem_of_climbs {f : String} {n : ℕ} (h : depth n cs = none) (hn : below.length = n)
    (hcs : f ∉ cs) : f ∉ cs.foldl visit ([f] ++ below) ∨ f ∈ below := by
  induction cs generalizing n below with
  | nil => cases h
  | cons c cs ih =>
    rw [List.mem_cons, not_or] at hcs
    simp only [depth] at h
    simp only [List.foldl_cons, visit]
    split_ifs at h ⊢
    · exact ih h hn hcs.2
    · rcases n with _ | n
      · rw [List.length_eq_zero_iff.mp hn]
        exact .inl (notMem_foldl_visit List.not_mem_nil hcs.2)
      · have hne : below ≠ [] := by
          rintro rfl
          cases hn
        rw [List.dropLast_append_of_ne_nil hne]
        refine (ih h (by rw [List.length_dropLast, hn, Nat.add_sub_cancel]) hcs.2).imp_right ?_
        exact fun h => List.dropLast_subset _ h
    · rw [List.append_assoc]
      refine (ih h (by rw [List.length_append, hn, List.length_singleton]) hcs.2).imp_right ?_
      simp [hcs.1]

lemma exists_directory (cs : List String) : ∃ f, f ∉ cs ∧ directory ("/" ++ f) = [f] := by
  have hinj : Function.Injective fun k => String.ofList (List.replicate (k + 1) 'x') :=
    fun k l h => by simpa using congrArg List.length (String.ofList_injective h)
  obtain ⟨-, ⟨k, rfl⟩, hf⟩ :=
    (Set.infinite_range_of_injective hinj).exists_notMem_finset cs.toFinset
  refine ⟨_, fun h => hf (List.mem_toFinset.mpr h), ?_⟩
  have hsplit : ('/' :: List.replicate (k + 1) 'x').splitOn '/' =
      [[], List.replicate (k + 1) 'x'] := by
    refine (@List.splitOnP_append_cons_of_forall_mem _ _ [] (by simp) '/' (by simp) _).trans ?_
    rw [List.splitOnP_eq_singleton (by simp)]
  have hname : components ("/" ++ String.ofList (List.replicate (k + 1) 'x')) =
      ["", String.ofList (List.replicate (k + 1) 'x')] := by
    simp [components, hsplit]
  rw [directory, hname]
  have hne : ∀ s : String, s.toList.head? ≠ some 'x' →
      String.ofList (List.replicate (k + 1) 'x') ≠ s := by
    rintro s hs rfl
    simp [List.replicate_succ] at hs
  simp [Files.clean, hne "" (by decide), hne "." (by decide), hne ".." (by decide)]

/-- A name that is not contained leads out of some directory. -/
lemma exists_not_inside {name : String} (h : ¬ Contained name) :
    ∃ dir, dir ≠ "" ∧ ¬ Inside (directory dir) (join dir name) := by
  obtain ⟨f, hf, hdir⟩ := exists_directory (components name)
  have hjoin : join ("/" ++ f) name = (components name).foldl visit ([f] ++ []) := by
    rw [join, clean_append, ← directory, hdir]
    rfl
  refine ⟨"/" ++ f, by simp, ?_⟩
  rintro ⟨c, rest, hpath⟩
  rw [hdir, hjoin] at hpath
  rcases hdepth : depth 0 (components name) with _ | _ | n
  · have hclimbs := (notMem_of_climbs hdepth List.length_nil hf).resolve_right List.not_mem_nil
    rw [hpath] at hclimbs
    simp at hclimbs
  · obtain ⟨below, hlength, hwalk⟩ := foldl_visit_of_depth hdepth List.length_nil
    rw [hwalk, List.length_eq_zero_iff.mp hlength] at hpath
    simp at hpath
  · exact h ⟨n, hdepth⟩

/-! ### The files a transfer touches -/

variable {β κ : Type} {C : Update.Crypto β κ} {A : Agent} {p : FileTransferPayload}
  {q : List String} {d : Disk β}

lemma removeTemp_of_ne {io : Io β} (htemp : q ≠ tempFile A p) : removeTemp A io p d q = d q :=
  Function.update_of_ne htemp _ _

lemma place_of_ne {io : Io β} {info : Files.DownloadResponse} (htemp : q ≠ tempFile A p)
    (hfinal : q ≠ finalPath A p) : (place C A io p info d).2 q = d q := by
  unfold place
  split
  · exact removeTemp_of_ne htemp
  split
  · exact removeTemp_of_ne htemp
  · dsimp only
    rw [Function.update_of_ne hfinal, Function.update_of_ne htemp]

lemma executeFileTransfer_of_ne {io : Io β} (htemp : q ≠ tempFile A p)
    (hfinal : q ≠ finalPath A p) :
    (executeFileTransfer C A io (.ok p) d).2 q = d q := by
  simp only [executeFileTransfer]
  split
  · rfl
  split
  · rfl
  split
  · rfl
  unfold fetch
  split
  · rfl
  split
  · rfl
  split
  · exact (removeTemp_of_ne htemp).trans (Function.update_of_ne htemp _ _)
  · exact (place_of_ne htemp hfinal).trans (Function.update_of_ne htemp _ _)

lemma stays_of_contained (h : Contained (".downloading-" ++ p.fileID) ∧ Contained (base p.fileID))
    {io : Io β} (hout : ¬ Inside (directory A.dropDir) q) :
    (executeFileTransfer C A io (.ok p) d).2 q = d q := by
  refine executeFileTransfer_of_ne ?_ ?_
  · rintro rfl
    exact hout (inside_join h.1)
  · rintro rfl
    exact hout (inside_join h.2)

/-- A server that hands out an empty file, and a disk with room for it. -/
def handsOut (β : Type) (p : FileTransferPayload) (save : Write) : Io β where
  notExist := ""
  client := fun _ => .response 200 []
  decodeInfo := fun _ =>
    .ok ⟨"", ((p.storage.bind (·.spaceCheckThreshold)).getD ⟨id, ""⟩).scale 0, 0, 0, "", "", "", 0⟩
  statfs := some (.ok 0)
  half := ⟨id, ""⟩
  save

lemma run_handsOut (hid : p.fileID ≠ "") (hdir : A.dropDir ≠ "") {save : Write} :
    (executeFileTransfer C A (handsOut β p save) (.ok p) d).2 =
      match save.result "" "" with
      | .error _ => Function.update d (tempFile A p) none
      | .ok () => Function.update (Function.update d (tempFile A p) none) (finalPath A p)
          (some []) := by
  have hspace : checkSpace (handsOut β p save) p.storage
      (((p.storage.bind (·.spaceCheckThreshold)).getD ⟨id, ""⟩).scale 0) = .ok () := by
    unfold checkSpace
    split
    · exact if_neg (lt_irrefl _)
    · rfl
  have hinfo : getDownloadInfo C A (handsOut β p save) p.fileID = .ok _ := rfl
  simp only [executeFileTransfer, if_neg hid, if_neg hdir, hinfo, fetch, hspace]
  cases save with
  | all =>
    simp [handsOut, downloadFile, Write.result, Write.file, place, checkHash, File.access]
  | refused | stopped =>
    simp [handsOut, downloadFile, Write.result, Write.file, removeTemp, File.remove]

variable (C) in
/-- **Transfers stay inside the drop directory**, whatever the directory, the answers of the server
and the disk, exactly when there is no file id or neither the name of the temporary file nor the
last element of the id leads out of a directory. -/
theorem transfer_stays_inside (p : FileTransferPayload) :
    (∀ (A : Agent) (io : Io β) (d : Disk β) (q : List String),
      ¬ Inside (directory A.dropDir) q → (executeFileTransfer C A io (.ok p) d).2 q = d q) ↔
      p.fileID = "" ∨ Contained (".downloading-" ++ p.fileID) ∧ Contained (base p.fileID) := by
  constructor
  · intro hstays
    by_contra! hcond
    obtain ⟨hid, hcond⟩ := hcond
    by_cases htemp : Contained (".downloading-" ++ p.fileID)
    · -- the file is renamed to a place outside
      obtain ⟨dropDir, hdir, hout⟩ := exists_not_inside (hcond htemp)
      have hsame := hstays ⟨"", dropDir⟩ (handsOut β p .all) (fun _ => none) _ hout
      rw [run_handsOut hid hdir] at hsame
      simp [Write.result, finalPath] at hsame
    · -- a temporary file outside is removed
      obtain ⟨dropDir, hdir, hout⟩ := exists_not_inside htemp
      have hsame := hstays ⟨"", dropDir⟩ (handsOut β p (.refused "")) (fun _ => some []) _ hout
      rw [run_handsOut hid hdir] at hsame
      simp [Write.result, tempFile] at hsame
  · rintro (hid | h) A io d q hout
    · simp only [executeFileTransfer, if_pos hid]
    · exact stays_of_contained h hout

namespace Escape

def agent : Agent := { serverURL := "https://moebius", dropDir := "/opt/moebius-agent/drop" }

def io : Io Update.Sample.Token where
  notExist := "file does not exist"
  client := fun _ => .response 200 []
  decodeInfo := fun _ => .ok ⟨"", 1, 1, 1, "", "", "", 0⟩
  statfs := some (.ok 4)
  half := ⟨id, ""⟩
  save := .refused "disk full"

/-- What is in the list of users after a transfer, if there was something. -/
def passwd (fileID : String) : Option (List Update.Sample.Token) :=
  (executeFileTransfer Update.Sample.crypto agent io (.ok { fileID }) fun _ => some []).2
    ["etc", "passwd"]

lemma not_inside : ¬ Inside (directory agent.dropDir) ["etc", "passwd"] := by
  have hdirectory : directory agent.dropDir = ["opt", "moebius-agent", "drop"] := by decide
  rintro ⟨c, rest, hpath⟩
  rw [hdirectory] at hpath
  simp at hpath

end Escape

open Escape in
theorem transfer_keeps_passwd : passwd "file_9f2c" = some [] :=
  (transfer_stays_inside _ _).mpr (.inr ⟨⟨0, by decide⟩, ⟨0, by decide⟩⟩) agent io _ _ not_inside

open Escape in
/-- The temporary file of this id is the list of users. When the data cannot be saved it is
removed. -/
theorem transfer_removes_passwd : ¬ Inside (directory agent.dropDir) ["etc", "passwd"] ∧
    passwd "x/../../../../etc/passwd" = none :=
  ⟨not_inside, by decide⟩

end Moebius.FileTransfer
