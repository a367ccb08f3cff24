import Mathlib.Data.List.Nodup

/-!
Relational tables with a primary key.

A table is a list of rows no two of which have the same key. `UPDATE` maps a function over
the rows, `DELETE` filters them and `INSERT` appends a row unless its key is taken; all
three keep the key unique, so a table that breaks its primary key cannot be built.
-/

namespace Moebius

open List

/-- A statement that is guarded by a constraint. -/
lemma eq_some_of_guard {α β : Type} {c : Prop} [Decidable c] {o : Option α} {f : α → β} {b : β}
    (h : (if c then o.map f else none) = some b) : c ∧ ∃ a, o = some a ∧ f a = b := by
  obtain ⟨hc, h⟩ := Option.ite_none_right_eq_some.mp h
  exact ⟨hc, Option.map_eq_some_iff.mp h⟩

structure Table {ρ κ : Type} (key : ρ → κ) where
  rows : List ρ
  nodup : (rows.map key).Nodup

variable {ρ : Type}

namespace Table

variable {κ : Type} {key : ρ → κ}

def empty : Table key := ⟨[], nodup_nil⟩

variable {t : Table key}

lemma eq_of_rows {t' : Table key} (h : t.rows = t'.rows) : t = t' := by
  cases t
  cases t'
  cases h
  rfl

def select (t : Table key) (p : ρ → Bool) : List ρ := t.rows.filter p

/-- `UPDATE`: the condition and the assignments are both inside `f`. -/
def update (t : Table key) (f : ρ → ρ) (hf : ∀ r, key (f r) = key r) : Table key where
  rows := t.rows.map f
  nodup := by
    have h : (t.rows.map f).map key = t.rows.map key := by
      rw [map_map]
      exact map_congr_left fun r _ => hf r
    rw [h]; exact t.nodup

lemma update_eq_self {f : ρ → ρ} {hf : ∀ r, key (f r) = key r} (h : ∀ r ∈ t.rows, f r = r) :
    t.update f hf = t := by
  obtain ⟨rows, nodup⟩ := t
  have hrows : rows.map f = rows := by
    rw [map_congr_left h, map_id']
  simp only [update, hrows]

def delete (t : Table key) (p : ρ → Bool) : Table key where
  rows := t.rows.filter fun r => !p r
  nodup := t.nodup.sublist (filter_sublist.map key)

lemma eq_of_key_eq {r r' : ρ} (h : r ∈ t.rows) (h' : r' ∈ t.rows) (hk : key r = key r') : r = r' :=
  inj_on_of_nodup_map t.nodup h h' hk

variable [DecidableEq κ]

def get? (t : Table key) (k : κ) : Option ρ := t.rows.find? fun r => decide (key r = k)

/-- `INSERT`: refused when the key is taken. -/
def insert (t : Table key) (r : ρ) : Option (Table key) :=
  if h : key r ∈ t.rows.map key then none
  else some ⟨t.rows ++ [r], by
    rw [map_append, map_singleton]
    exact nodup_append.mpr ⟨t.nodup, nodup_singleton _, fun a ha b hb hab => by
      rw [mem_singleton] at hb
      exact h (hb ▸ hab ▸ ha)⟩⟩

variable {t' : Table key} {k : κ} {r : ρ}

lemma key_of_get? (h : t.get? k = some r) : key r = k := by
  simpa using find?_some h

lemma mem_of_get? (h : t.get? k = some r) : r ∈ t.rows := mem_of_find?_eq_some h

lemma get?_of_mem (h : r ∈ t.rows) : t.get? (key r) = some r := by
  rcases hf : t.get? (key r) with _ | r'
  · have := find?_eq_none.mp hf r h
    simp at this
  · rw [eq_of_key_eq (mem_of_get? hf) h (key_of_get? hf)]

lemma get?_ne_none_of_mem (h : r ∈ t.rows) : t.get? (key r) ≠ none := by
  rw [get?_of_mem h]
  exact Option.some_ne_none r

@[simp] lemma get?_update (t : Table key) (f : ρ → ρ) (hf : ∀ r, key (f r) = key r) (k : κ) :
    (t.update f hf).get? k = (t.get? k).map f := by
  have h : (fun r => decide (key r = k)) ∘ f = fun r => decide (key r = k) := by
    funext r; simp [hf]
  simp only [get?, update, find?_map, h]

lemma insert_eq_none : t.insert r = none ↔ (t.get? (key r)).isSome := by
  unfold insert
  constructor
  · intro h
    split at h
    · rename_i hm
      obtain ⟨r', hr', hk⟩ := mem_map.mp hm
      rw [← hk, get?_of_mem hr']; rfl
    · cases h
  · intro h
    obtain ⟨r', hr'⟩ := Option.isSome_iff_exists.mp h
    rw [dif_pos (mem_map.mpr ⟨r', mem_of_get? hr', key_of_get? hr'⟩)]

lemma rows_of_insert (h : t.insert r = some t') : t'.rows = t.rows ++ [r] := by
  unfold insert at h
  split at h
  · cases h
  · cases h; rfl

lemma mem_insert (h : t.insert r = some t') {x : ρ} : x ∈ t'.rows ↔ x ∈ t.rows ∨ x = r := by
  rw [rows_of_insert h, mem_append, mem_singleton]

lemma fresh_of_insert (h : t.insert r = some t') : t.get? (key r) = none := by
  rcases hg : t.get? (key r) with _ | r'
  · rfl
  · rw [insert_eq_none.mpr (by rw [hg]; rfl)] at h; cases h

lemma exists_insert (h : t.get? (key r) = none) : ∃ t', t.insert r = some t' := by
  refine Option.ne_none_iff_exists'.mp fun hnone => ?_
  have hsome := insert_eq_none.mp hnone
  rw [h] at hsome
  cases hsome

lemma get?_insert (h : t.insert r = some t') (k : κ) :
    t'.get? k = if key r = k then some r else t.get? k := by
  have hfresh := fresh_of_insert h
  unfold get? at hfresh ⊢
  rw [rows_of_insert h, find?_append]
  by_cases hk : key r = k
  · subst hk
    rw [hfresh]; simp
  · rw [if_neg hk]
    simp [hk]

lemma get?_insert_of_some {r' : ρ} (h : t.insert r = some t') (hk : t.get? k = some r') :
    t'.get? k = some r' := by
  rw [get?_insert h, if_neg, hk]
  rintro rfl
  rw [fresh_of_insert h] at hk
  cases hk

@[simp] lemma get?_delete (t : Table key) (p : ρ → Bool) (k : κ) :
    (t.delete p).get? k = (t.get? k).filter fun r => !p r := by
  rcases hg : t.get? k with _ | r
  · have hnone := find?_eq_none.mp hg
    exact find?_eq_none.mpr fun r hr => hnone r (mem_filter.mp hr).1
  · have hmem := mem_of_get? hg
    have hkey := key_of_get? hg
    rcases hp : p r with _ | _
    · have hr : r ∈ (t.delete p).rows := mem_filter.mpr ⟨hmem, by simp [hp]⟩
      rw [← hkey, get?_of_mem hr]
      simp [Option.filter, hp]
    · rw [Option.filter, if_neg (by simp [hp])]
      refine find?_eq_none.mpr fun r' hr' hk => ?_
      obtain ⟨hmem', hp'⟩ := mem_filter.mp hr'
      have he : r' = r := eq_of_key_eq hmem' hmem ((of_decide_eq_true hk).trans hkey.symm)
      rw [he, hp] at hp'
      cases hp'

def put (t : Table key) (r : ρ) : Table key where
  rows := t.rows.filter (fun r' => key r' ≠ key r) ++ [r]
  nodup := by
    rw [map_append, map_singleton]
    refine nodup_append.mpr ⟨t.nodup.sublist (filter_sublist.map key), nodup_singleton _, ?_⟩
    intro a ha b hb hab
    obtain ⟨r', hr', rfl⟩ := mem_map.mp ha
    rw [mem_singleton] at hb
    exact of_decide_eq_true (mem_filter.mp hr').2 (hab.trans hb)

/-! ### Frames -/

omit [DecidableEq κ]

/-- The rows with property `p` are the same, in the same order, before and after. -/
def SameOn (p : ρ → Bool) (t t' : Table key) : Prop := t'.rows.filter p = t.rows.filter p

variable {p : ρ → Bool}

lemma SameOn.refl (t : Table key) : SameOn p t t := rfl

lemma SameOn.trans {t'' : Table key} (h : SameOn p t t') (h' : SameOn p t' t'') : SameOn p t t'' :=
  Eq.trans h' h

lemma SameOn.mem_iff (h : SameOn p t t') (hr : p r = true) : r ∈ t'.rows ↔ r ∈ t.rows := by
  have h1 : r ∈ t'.rows.filter p ↔ r ∈ t.rows.filter p := by rw [h]
  simpa [hr] using h1

lemma sameOn_of_map {f : ρ → ρ} (ht : t'.rows = t.rows.map f) (hp : ∀ r ∈ t.rows, p (f r) = p r)
    (h : ∀ r ∈ t.rows, p r = true → f r = r) : SameOn p t t' := by
  unfold SameOn
  rw [ht, filter_map]
  have h1 : t.rows.filter (p ∘ f) = t.rows.filter p := filter_congr fun r hr => hp r hr
  rw [h1]
  conv_rhs => rw [← map_id (t.rows.filter p)]
  refine map_congr_left fun r hr => ?_
  obtain ⟨hm, hpr⟩ := mem_filter.mp hr
  exact h r hm hpr

lemma sameOn_delete {q : ρ → Bool} (h : ∀ r ∈ t.rows, p r = true → q r = false) :
    SameOn p t (t.delete q) := by
  unfold SameOn delete
  simp only [filter_filter]
  refine filter_congr fun r hr => ?_
  rcases hpr : p r with _ | _
  · rfl
  · simp [h r hr hpr]

lemma sameOn_insert [DecidableEq κ] (h : t.insert r = some t') (hr : p r = false) :
    SameOn p t t' := by
  unfold SameOn
  rw [rows_of_insert h, filter_append]
  simp [hr]

end Table

/-- The order in which a scan returns the rows of a table: any permutation of them. -/
structure Scan (ρ : Type) where
  order : List ρ → List ρ
  perm : ∀ l, (order l).Perm l

/-- Rows in the order they were inserted. -/
def Scan.heap : Scan ρ := ⟨id, fun _ => Perm.refl _⟩

@[simp] lemma Scan.mem_order (s : Scan ρ) (l : List ρ) (r : ρ) : r ∈ s.order l ↔ r ∈ l :=
  (s.perm l).mem_iff

end Moebius
