import Mathlib.Data.List.Sort

/-!
Draining a queue in batches.

`Takes r m q b q'` says that `b` comes off the queue `q`, at most `m` elements and those first that
are least by `r`, and that `q'` stays behind. One batch after the other is again such a batch, of
the size of both, so a drained queue is a matter of adding up sizes.
-/

namespace Moebius

open List

variable {α β : Type} {r : α → α → Prop} {m n : ℕ} {p p' q q' q'' b b' : List α}

structure Takes (r : α → α → Prop) (m : ℕ) (q b q' : List α) : Prop where
  perm : (b ++ q').Perm q
  length : b.length = min m q.length
  sorted : b.Pairwise r
  first : ∀ x ∈ b, ∀ y ∈ q', r x y

namespace Takes

lemma zero (h : q.Perm q') : Takes r 0 q [] q' where
  perm := h.symm
  length := by simp
  sorted := .nil
  first x hx := by cases hx

lemma of_insertionSort [DecidableRel r] [Std.Total r] [IsTrans α r] (h : p.Perm q) :
    Takes r m q ((p.insertionSort r).take m) ((p.insertionSort r).drop m) := by
  have hsort : (p.insertionSort r).Pairwise r := pairwise_insertionSort r p
  have hperm : (p.insertionSort r).Perm q := (perm_insertionSort r p).trans h
  have hsplit := take_append_drop m (p.insertionSort r)
  rw [← hsplit, pairwise_append] at hsort
  obtain ⟨hsorted, -, hfirst⟩ := hsort
  refine ⟨?_, ?_, hsorted, hfirst⟩
  · rw [hsplit]
    exact hperm
  · rw [length_take, hperm.length_eq]

lemma mem_left (h : Takes r m q b q') {x : α} (hx : x ∈ b) : x ∈ q :=
  h.perm.mem_iff.mp (mem_append_left _ hx)

lemma length_add (h : Takes r m q b q') : b.length + q'.length = q.length := by
  rw [← length_append]
  exact h.perm.length_eq

lemma congr (h : Takes r m q b q') (hq : q.Perm p) (hq' : q'.Perm p') : Takes r m p b p' where
  perm := ((hq'.symm.append_left b).trans h.perm).trans hq
  length := by rw [h.length, hq.length_eq]
  sorted := h.sorted
  first x hx y hy := h.first x hx y (hq'.mem_iff.mpr hy)

lemma trans (h : Takes r m q b q') (h' : Takes r n q' b' q'') :
    Takes r (m + n) q (b ++ b') q'' where
  perm := by
    rw [append_assoc]
    exact (h'.perm.append_left b).trans h.perm
  length := by
    have hlen := h.length
    have hlen' := h'.length
    have hsum := h.length_add
    rw [length_append]
    omega
  sorted := by
    rw [pairwise_append]
    exact ⟨h.sorted, h'.sorted, fun x hx y hy => h.first x hx y (h'.mem_left hy)⟩
  first x hx y hy := by
    rcases mem_append.mp hx with hx | hx
    · exact h.first x hx y (h'.perm.mem_iff.mp (mem_append_right _ hy))
    · exact h'.first x hx y hy

lemma map {s : β → β → Prop} (f : α → β) (hf : ∀ x y, r x y → s (f x) (f y))
    (h : Takes r m q b q') : Takes s m (q.map f) (b.map f) (q'.map f) where
  perm := by
    rw [← map_append]
    exact h.perm.map f
  length := by rw [length_map, length_map, h.length]
  sorted := pairwise_map.mpr (h.sorted.imp (hf _ _))
  first x hx y hy := by
    obtain ⟨a, ha, rfl⟩ := mem_map.mp hx
    obtain ⟨c, hc, rfl⟩ := mem_map.mp hy
    exact hf a c (h.first a ha c hc)

lemma perm_of_length_le (h : Takes r m q b q') (hm : q.length ≤ m) : b.Perm q := by
  have hlen := h.length
  have hsum := h.length_add
  have hnil : q' = [] := length_eq_zero_iff.mp (by omega)
  have hperm := h.perm
  rw [hnil, append_nil] at hperm
  exact hperm

lemma perm_filter (h : Takes r m q b q') {keep : α → Bool} (hb : ∀ x ∈ b, keep x = false)
    (hq' : ∀ x ∈ q', keep x = true) : q'.Perm (q.filter keep) := by
  have hperm := h.perm.filter keep
  have hnone : b.filter keep = [] := by
    rw [filter_eq_nil_iff]
    intro x hx
    simp [hb x hx]
  have hall : q'.filter keep = q' := filter_eq_self.mpr hq'
  rwa [filter_append, hnone, hall, nil_append] at hperm

end Takes

end Moebius
