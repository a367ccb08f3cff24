import Mathlib.Data.Nat.Notation

/-!
Operations on files that may fail.

A file is its content, or `none` when it is not there. Every operation is given the way it ends,
with the text of its error. A failing operation has no effect, except that data on its way into a
file may stop anywhere: the file has been emptied by then and holds a first part of the data.
-/

namespace Moebius

abbrev File (β : Type) := Option (List β)

variable {β : Type}

inductive Write
  | all
  /-- The file could not be opened for writing. -/
  | refused (err : String)
  /-- Writing stopped after `n` bytes. -/
  | stopped (n : ℕ) (err : String)
  deriving DecidableEq

namespace Write

def file (w : Write) (data : List β) (old : File β) : File β :=
  match w with
  | all => some data
  | refused _ => old
  | stopped n _ => some (data.take n)

def result (w : Write) (opening writing : String) : Except String Unit :=
  match w with
  | all => .ok ()
  | refused err => .error (opening ++ err)
  | stopped _ err => .error (writing ++ err)

@[simp] lemma result_eq_ok {w : Write} {opening writing : String} :
    w.result opening writing = .ok () ↔ w = all := by
  cases w <;> simp [result]

/-- The file has been left with a part of the data. -/
def Cut : Write → Prop
  | stopped _ _ => True
  | _ => False

lemma file_of_not_cut {w : Write} (h : ¬ w.Cut) {data : List β} {old : File β} :
    w.file data old = old ∨ w.file data old = some data := by
  cases w with
  | all => exact .inr rfl
  | refused => exact .inl rfl
  | stopped => exact absurd trivial h

end Write

structure Copy where
  openErr : Option String := none
  write : Write := .all
  statErr : Option String := none
  chmodErr : Option String := none
  deriving DecidableEq

namespace Copy

/-- The copy, and the file it goes to; `missing` is the error for a source that is not there. -/
def run (c : Copy) (missing : String) (src dst : File β) : Except String Unit × File β :=
  match c.openErr, src with
  | some err, _ => (.error err, dst)
  | none, none => (.error missing, dst)
  | none, some data =>
    match c.write.result "" "" with
    | .error err => (.error err, c.write.file data dst)
    | .ok () =>
      match c.statErr, c.chmodErr with
      | some err, _ => (.error err, c.write.file data dst)
      | none, some err => (.error err, c.write.file data dst)
      | none, none => (.ok (), c.write.file data dst)

lemma run_eq_ok {c : Copy} {missing : String} {src dst : File β} :
    (c.run missing src dst).1 = .ok () ↔ src ≠ none ∧ c = {} := by
  obtain ⟨openErr, write, statErr, chmodErr⟩ := c
  cases openErr with
  | some err => simp [run]
  | none =>
    cases src with
    | none => simp [run]
    | some data =>
      cases write <;> cases statErr <;> cases chmodErr <;> simp [run, Write.result]

@[simp] lemma run_default (missing : String) (data : List β) (dst : File β) :
    ({} : Copy).run missing (some data) dst = (.ok (), some data) := rfl

lemma run_file (c : Copy) (missing : String) (src dst : File β) : (c.run missing src dst).2 = dst ∨
      ∃ data, src = some data ∧ (c.run missing src dst).2 = c.write.file data dst := by
  unfold run
  split
  · exact .inl rfl
  · exact .inl rfl
  · rename_i data _
    right
    refine ⟨data, rfl, ?_⟩
    split
    · rfl
    · split <;> rfl

lemma run_file_of_not_cut {c : Copy} (h : ¬ c.write.Cut) (missing : String) (src dst : File β) :
    (c.run missing src dst).2 = dst ∨ (c.run missing src dst).2 = src := by
  rcases c.run_file missing src dst with hd | ⟨data, rfl, hd⟩
  · exact .inl hd
  · rw [hd]
    exact Write.file_of_not_cut h

end Copy

/-- The content of a file that is looked at, read or renamed, or the error. -/
def File.access (missing : String) (err : Option String) (f : File β) : Except String (List β) :=
  match err, f with
  | some err, _ => .error err
  | none, none => .error missing
  | none, some data => .ok data

@[simp] lemma File.access_eq_ok {missing : String} {err : Option String} {f : File β}
    {data : List β} : f.access missing err = .ok data ↔ err = none ∧ f = some data := by
  cases err <;> cases f <;> simp [access]

def File.remove (fails : Bool) (f : File β) : File β := if fails then f else none

end Moebius
