import Mathlib.Data.Nat.Notation
import Mathlib.Logic.Function.Basic

/-!
Files by name.

A name leads to an inode, which holds the content. Creating a file empties the inode its name
leads to, or takes a new one; removing or renaming it only changes names, and whoever has the inode
open goes on writing into it.
-/

namespace Moebius

open Function

/-- Writes into a content from an offset on; a gap before it is filled up. -/
def writeAt {β : Type} (fill : β) (off : ℕ) (data content : List β) : List β :=
  (content ++ List.replicate (off - content.length) fill).take off ++ data ++
    content.drop (off + data.length)

@[simp] lemma writeAt_end {β : Type} {fill : β} {data content : List β} :
    writeAt fill content.length data content = content ++ data := by
  simp [writeAt, List.drop_eq_nil_of_le]

/-- No two names lead to one inode, and the inodes from `next` on are free. -/
@[ext] structure Volume (ν β : Type) where
  names : ν → Option ℕ
  inodes : ℕ → List β
  next : ℕ
  used : ∀ {k n}, names k = some n → n < next
  distinct : ∀ {k l n}, names k = some n → names l = some n → k = l

namespace Volume

variable {ν β : Type}

def empty : Volume ν β where
  names := fun _ => none
  inodes := fun _ => []
  next := 0
  used := by
    intro k n h
    cases h
  distinct := by
    intro k l n h
    cases h

variable (v : Volume ν β)

def content (k : ν) : Option (List β) := (v.names k).map v.inodes

/-- The name leads to the same inode, with the same content. -/
def Same (k : ν) (v v' : Volume ν β) : Prop :=
  v'.names k = v.names k ∧ ∀ n, v.names k = some n → v'.inodes n = v.inodes n

def setInode (n : ℕ) (data : List β) : Volume ν β :=
  { v with inodes := update v.inodes n data }

def write (fill : β) (n off : ℕ) (data : List β) : Volume ν β :=
  v.setInode n (writeAt fill off data (v.inodes n))

section

variable [DecidableEq ν] (v : Volume ν β) (k : ν)

/-- A name for the first free inode. -/
def link : Volume ν β where
  names := update v.names k (some v.next)
  inodes := v.inodes
  next := v.next + 1
  used := by
    intro l n h
    rw [update_apply] at h
    split at h
    · cases h
      exact Nat.lt_succ_self _
    · exact Nat.lt_succ_of_lt (v.used h)
  distinct := by
    intro l m n h h'
    rw [update_apply] at h h'
    split at h <;> split at h'
    · rename_i hl hm
      rw [hl, hm]
    · cases h
      exact absurd (v.used h') (Nat.lt_irrefl _)
    · cases h'
      exact absurd (v.used h) (Nat.lt_irrefl _)
    · exact v.distinct h h'

/-- Creates or empties the file, and opens it. -/
def create : ℕ × Volume ν β :=
  match v.names k with
  | some n => (n, v.setInode n [])
  | none => (v.next, (v.link k).setInode v.next [])

def remove : Volume ν β where
  names := update v.names k none
  inodes := v.inodes
  next := v.next
  used := by
    intro l n h
    rw [update_apply] at h
    split at h
    · cases h
    · exact v.used h
  distinct := by
    intro l m n h h'
    rw [update_apply] at h h'
    split at h
    · cases h
    split at h'
    · cases h'
    · exact v.distinct h h'

/-- Moves the file to another name; a file that had this name before loses it. -/
def rename (l : ν) : Volume ν β where
  names := update (update v.names k none) l (v.names k)
  inodes := v.inodes
  next := v.next
  used := by
    intro q n h
    rw [update_apply, update_apply] at h
    split at h
    · exact v.used h
    split at h
    · cases h
    · exact v.used h
  distinct := by
    intro q r n h h'
    rw [update_apply, update_apply] at h h'
    split at h <;> split at h'
    · rename_i hq hr
      rw [hq, hr]
    · split at h'
      · cases h'
      · rename_i hr
        exact absurd (v.distinct h' h) hr
    · split at h
      · cases h
      · rename_i hq
        exact absurd (v.distinct h h') hq
    · split at h
      · cases h
      split at h'
      · cases h'
      · exact v.distinct h h'

def save (data : List β) : Volume ν β :=
  (v.create k).2.setInode (v.create k).1 data

end

/-! ### Inodes -/

variable {v : Volume ν β} {k : ν} {n : ℕ}

@[simp] lemma setInode_setInode {data data' : List β} :
    (v.setInode n data).setInode n data' = v.setInode n data' := by
  simp [setInode]

@[simp] lemma inodes_setInode {data : List β} : (v.setInode n data).inodes n = data := by
  simp [setInode]

lemma Same.refl : Same k v v := ⟨rfl, fun _ _ => rfl⟩

lemma Same.content {v' : Volume ν β} (h : Same k v v') : v'.content k = v.content k := by
  unfold Volume.content
  rw [h.1]
  rcases hn : v.names k with _ | n
  · rfl
  · simp [h.2 n hn]

lemma same_write {fill : β} {off : ℕ} {data : List β} (hn : v.names k = some n) {l : ν}
    (h : l ≠ k) : Same l v (v.write fill n off data) :=
  ⟨rfl, fun _ hm => update_of_ne (fun hmn => h (v.distinct (hmn ▸ hm) hn)) _ _⟩

section

variable [DecidableEq ν] (v : Volume ν β) (k : ν)

lemma names_create : (v.create k).2.names k = some (v.create k).1 := by
  unfold create
  cases h : v.names k with
  | some n => exact h
  | none => simp [setInode, link]

lemma create_eq_save : (v.create k).2 = v.save k [] := by
  unfold save create
  cases v.names k <;> simp

lemma write_save (fill : β) (data piece : List β) :
    (v.save k data).write fill (v.create k).1 data.length piece = v.save k (data ++ piece) := by
  simp [save, write]

@[simp] lemma content_save (data : List β) : (v.save k data).content k = some data := by
  have hname : (v.save k data).names k = some (v.create k).1 := names_create v k
  rw [content, hname, Option.map_some, save, inodes_setInode]

@[simp] lemma content_remove : (v.remove k).content k = none := by
  simp [content, remove]

variable {v k} {l : ν}

lemma names_create_of_ne (h : l ≠ k) : (v.create k).2.names l = v.names l := by
  unfold create
  cases v.names k with
  | some n => rfl
  | none => simp [setInode, link, h]

lemma next_le_create : v.next ≤ (v.create k).2.next := by
  unfold create
  cases v.names k with
  | some n => exact Nat.le_refl _
  | none => exact Nat.le_succ _

variable {q : ν}

lemma ne_create (hn : n < v.next) (hk : v.names k ≠ some n) : n ≠ (v.create k).1 := by
  unfold create
  cases h : v.names k with
  | some m =>
    rintro rfl
    exact hk h
  | none => exact Nat.ne_of_lt hn

lemma inodes_create_of_ne (hn : n < v.next) (hk : v.names k ≠ some n) :
    (v.create k).2.inodes n = v.inodes n := by
  have hne := ne_create hn hk
  unfold create at hne ⊢
  cases hk : v.names k with
  | some m =>
    rw [hk] at hne
    simp [setInode, hne]
  | none =>
    rw [hk] at hne
    simp [setInode, link, hne]

lemma content_save_of_ne (h : l ≠ k) (data : List β) : (v.save k data).content l = v.content l := by
  have hname : (v.save k data).names l = v.names l := names_create_of_ne h
  unfold content
  rw [hname]
  cases hn : v.names l with
  | none => rfl
  | some n =>
    -- the inode is not the one written to
    have hk : v.names k ≠ some n := fun hk => h (v.distinct hn hk)
    simp [save, setInode, ne_create (v.used hn) hk, inodes_create_of_ne (v.used hn) hk]

lemma names_remove_of_ne (h : l ≠ k) : (v.remove k).names l = v.names l := by
  simp [remove, h]

lemma content_remove_of_ne (h : l ≠ k) : (v.remove k).content l = v.content l := by
  simp [content, remove, h]

lemma same_create (h : l ≠ k) : Same l v (v.create k).2 :=
  ⟨names_create_of_ne h, fun _ hn =>
    inodes_create_of_ne (v.used hn) fun hk => h (v.distinct hn hk)⟩

lemma same_remove (h : l ≠ k) : Same l v (v.remove k) := ⟨names_remove_of_ne h, fun _ _ => rfl⟩

/-- Saving a file as it is. -/
lemma save_self (hn : v.names k = some n) : (v.create k).1 = n ∧ v.save k (v.inodes n) = v := by
  have hcreate : v.create k = (n, v.setInode n []) := by
    rw [create, hn]
  refine ⟨by rw [hcreate], ?_⟩
  rw [save, hcreate, setInode_setInode]
  simp [setInode]

lemma names_rename_of_ne (hk : q ≠ k) (hl : q ≠ l) : (v.rename k l).names q = v.names q := by
  simp [rename, hk, hl]

lemma names_of_rename (h : (v.rename k l).names q = some n) :
    q = l ∧ v.names k = some n ∨ q ≠ k ∧ v.names q = some n := by
  simp only [rename, update_apply] at h
  split at h
  · exact .inl ⟨by assumption, h⟩
  split at h
  · cases h
  · exact .inr ⟨by assumption, h⟩

end

end Volume

end Moebius
