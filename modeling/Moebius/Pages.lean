import Mathlib.Data.List.Sort
import Moebius.Table

/-!
Listings in pages.

A page holds the first rows, in the order of the listing, among those behind a cursor, and says
whether there are more. The pages together are the listing just when, at the end of every page, what
is behind the cursor of the last row is what comes after it.
-/

namespace Moebius

open List

structure Listing (α : Type) where
  data : List α
  nextCursor : String
  hasMore : Bool

namespace Listing

variable {α : Type}

/-- The first page of some rows; to tell whether there are more, one more is needed. -/
def cut (limit : ℕ) (cursor : α → String) (rows : List α) : Listing α where
  data := rows.take limit
  nextCursor :=
    if limit < rows.length then ((rows.take limit).getLast?.map cursor).getD "" else ""
  hasMore := limit < rows.length

lemma cut_take (limit : ℕ) (cursor : α → String) (rows : List α) :
    cut limit cursor (rows.take (limit + 1)) = cut limit cursor rows := by
  have hlength : limit < (rows.take (limit + 1)).length ↔ limit < rows.length := by
    rw [length_take]
    omega
  have htake : (rows.take (limit + 1)).take limit = rows.take limit := by
    rw [take_take, Nat.min_eq_left (Nat.le_succ limit)]
  simp only [cut, hlength, htake]

/-- What a client gets that starts with a cursor and goes on as long as there is more. -/
inductive Visits (list : String → Option (Listing α)) : String → List α → Prop
  | last {c : String} {page : Listing α} (h : list c = some page) (hmore : page.hasMore = false) :
    Visits list c page.data
  | more {c : String} {page : Listing α} {rest : List α} (h : list c = some page)
      (hmore : page.hasMore = true) (hrest : Visits list page.nextCursor rest) :
    Visits list c (page.data ++ rest)

section

variable {list : String → Option (Listing α)} {key cursor : α → String} {limit : ℕ}
  {before : String → String → Bool} {rows : List α} {c : String}

lemma cut_of_le (h : rows.length ≤ limit) : cut limit cursor rows = ⟨rows, "", false⟩ := by
  simp [cut, take_of_length_le h, Nat.not_lt_of_le h]

lemma exists_cut (cursor : α → String) (hlimit : 0 < limit) (hmore : limit < rows.length) :
    ∃ pre x post, rows = pre ++ x :: post ∧ pre.length + 1 = limit ∧ post ≠ [] ∧
      cut limit cursor rows = ⟨pre ++ [x], cursor x, true⟩ := by
  obtain ⟨k, rfl⟩ : ∃ k, limit = k + 1 := ⟨limit - 1, by omega⟩
  have hk : k < rows.length := by omega
  refine ⟨rows.take k, rows[k], rows.drop (k + 1), ?_, ?_, ?_, ?_⟩
  · rw [← drop_eq_getElem_cons hk, take_append_drop]
  · rw [length_take, Nat.min_eq_left hk.le]
  · exact fun h => by simp at h; omega
  · simp [cut, hmore, getLast?_take, getElem?_eq_getElem hk]

/-- The first page of a visit, and the rest of it. -/
lemma Visits.inv {page : Listing α} {xs : List α} (h : Visits list c xs)
    (hpage : list c = some page) : (page.hasMore = false ∧ xs = page.data) ∨
      (page.hasMore = true ∧ ∃ rest, xs = page.data ++ rest ∧
        Visits list page.nextCursor rest) := by
  cases h with
  | last h hmore =>
    cases h.symm.trans hpage
    exact .inl ⟨hmore, rfl⟩
  | more h hmore hrest =>
    cases h.symm.trans hpage
    exact .inr ⟨hmore, _, rfl, hrest⟩

/-- The page at a cursor is cut from the rows with smaller keys; an empty key is no cursor. -/
structure Serves (list : String → Option (Listing α)) (key cursor : α → String)
    (before : String → String → Bool) (limit : ℕ) (rows : List α) : Prop where
  first : list "" = some (cut limit cursor rows)
  next : ∀ x ∈ rows, list (cursor x) = some (cut limit cursor
    (if key x = "" then rows else rows.filter fun a => before (key a) (key x)))

/-- What holds of the last row of every page but the last, and of the rows that come after it. -/
def Ends (limit : ℕ) (rows : List α) (P : α → List α → Prop) : Prop :=
  ∀ pre x post, rows = pre ++ x :: post → limit ∣ pre.length + 1 → post ≠ [] → P x post

/-- The row has a key, and the rows with smaller keys are those that come after it. -/
def Behind (key : α → String) (before : String → String → Bool) (rows : List α) (x : α)
    (post : List α) : Prop :=
  key x ≠ "" ∧ rows.filter (fun a => before (key a) (key x)) = post

def Turns (key : α → String) (before : String → String → Bool) (limit : ℕ) (rows : List α) : Prop :=
  Ends limit rows (Behind key before rows)

lemma ends_of_le {P : α → List α → Prop} (h : rows.length ≤ limit) : Ends limit rows P := by
  rintro pre x post rfl hdvd hpost
  have hle := Nat.le_of_dvd (Nat.succ_pos _) hdvd
  have hpos := length_pos_iff.mpr hpost
  simp only [length_append, length_cons] at h
  omega

lemma ends_append_cons {P : α → List α → Prop} {pre post : List α} {x : α}
    (hpre : pre.length + 1 = limit) (hpost : post ≠ []) :
    Ends limit (pre ++ x :: post) P ↔ P x post ∧ Ends limit post P := by
  refine ⟨fun h => ⟨h pre x post rfl (hpre ▸ Nat.dvd_refl _) hpost,
    fun pre' x' post' hsplit hdvd => ?_⟩, fun ⟨hx, h⟩ pre' x' post' hsplit hdvd => ?_⟩
  · refine h (pre ++ x :: pre') x' post' (by rw [hsplit, append_assoc, cons_append]) ?_
    have hlength : (pre ++ x :: pre').length + 1 = limit + (pre'.length + 1) := by
      rw [length_append, length_cons]
      omega
    rw [hlength]
    exact Nat.dvd_add (Nat.dvd_refl _) hdvd
  · -- the page is over at the row, or the next one has begun
    have hle : pre.length ≤ pre'.length := by
      have := Nat.le_of_dvd (Nat.succ_pos _) hdvd
      omega
    obtain ⟨mid, rfl⟩ : pre <+: pre' := prefix_of_prefix_length_le ⟨_, rfl⟩ ⟨_, hsplit.symm⟩ hle
    rw [append_assoc] at hsplit
    rcases mid with _ | ⟨y, mid⟩
    · cases append_cancel_left hsplit
      exact fun _ => hx
    · cases append_cancel_left hsplit
      refine h mid x' post' rfl ?_
      rw [length_append, length_cons, ← hpre] at hdvd
      have hsum : pre.length + (mid.length + 1) + 1 = pre.length + 1 + (mid.length + 1) := by omega
      rw [hsum, Nat.dvd_add_right (Nat.dvd_refl _)] at hdvd
      exact hpre ▸ hdvd

/-- A page without the first row is behind a cursor. -/
lemma Serves.page_eq (h : Serves list key cursor before limit rows) (hlimit : 0 < limit) {r : α}
    (hr : r ∈ rows.head?) {x : α} (hx : x ∈ rows) {page : Listing α}
    (hpage : list (cursor x) = some page) (hfirst : r ∉ page.data) :
    key x ≠ "" ∧ page = cut limit cursor (rows.filter fun a => before (key a) (key x)) := by
  have hnext := h.next x hx
  rw [hpage, Option.some.injEq] at hnext
  by_cases hkey : key x = ""
  · rw [if_pos hkey] at hnext
    refine absurd ?_ hfirst
    rw [hnext]
    exact mem_of_mem_head? (by rw [cut, head?_take, if_neg hlimit.ne']; exact hr)
  · rw [if_neg hkey] at hnext
    exact ⟨hkey, hnext⟩

/-- A visit that does not come back to the first row only finds smaller and smaller keys. -/
lemma Serves.before_of_visits (h : Serves list key cursor before limit rows) (hlimit : 0 < limit)
    (htrans : ∀ a b c, before a b → before b c → before a c) {r : α} (hr : r ∈ rows.head?)
    {ys : List α} (hvisits : Visits list c ys) (hys : r ∉ ys) {x : α} (hx : x ∈ rows)
    (hc : c = cursor x) : key x ≠ "" ∧ ∀ y ∈ ys, before (key y) (key x) := by
  induction hvisits generalizing x with
  | last hlist hmore =>
    subst hc
    obtain ⟨hkey, rfl⟩ := h.page_eq hlimit hr hx hlist hys
    exact ⟨hkey, fun y hy => (mem_filter.mp (mem_of_mem_take hy)).2⟩
  | more hlist hmore hrest ih =>
    subst hc
    rw [mem_append, not_or] at hys
    obtain ⟨hkey, rfl⟩ := h.page_eq hlimit hr hx hlist hys.1
    obtain ⟨pre, z, post, hsplit, -, -, hcut⟩ := exists_cut cursor hlimit
      (of_decide_eq_true hmore)
    have hz : z ∈ rows.filter fun a => before (key a) (key x) := by
      rw [hsplit]
      exact mem_append_right _ mem_cons_self
    obtain ⟨-, hbehind⟩ := ih hys.2 (mem_of_mem_filter hz) (by rw [hcut])
    refine ⟨hkey, fun y hy => ?_⟩
    rcases mem_append.mp hy with hy | hy
    · exact (mem_filter.mp (mem_of_mem_take hy)).2
    · exact htrans _ _ _ (hbehind y hy) (mem_filter.mp hz).2

/-- If the rows after a row are visited from its cursor, they are what is behind it. -/
lemma Serves.behind_of_visits (h : Serves list key cursor before limit rows) (hlimit : 0 < limit)
    (htrans : ∀ a b c, before a b → before b c → before a c) (hnodup : rows.Nodup)
    {pre post : List α} {x : α} (hrows : rows = pre ++ x :: post)
    (hvisits : Visits list (cursor x) post) : Behind key before rows x post := by
  have hx : x ∈ rows := hrows ▸ mem_append_right _ mem_cons_self
  rw [append_cons] at hrows
  obtain ⟨r, hr⟩ : ∃ r, r ∈ (pre ++ [x]).head? := by cases pre <;> simp
  have hdisjoint : ∀ a ∈ pre ++ [x], a ∉ post := fun a ha hpost =>
    (nodup_append.mp (hrows ▸ hnodup)).2.2 a ha a hpost rfl
  have hhead : r ∈ rows.head? := by
    rw [hrows, head?_append, Option.mem_def.mp hr]
    rfl
  obtain ⟨hkey, hbefore⟩ := h.before_of_visits hlimit htrans hhead hvisits
    (hdisjoint r (mem_of_mem_head? hr)) hx rfl
  have hfilter : rows.filter (fun a => before (key a) (key x)) =
      (pre ++ [x]).filter (fun a => before (key a) (key x)) ++ post := by
    rw [hrows, filter_append, filter_eq_self.mpr hbefore]
  refine ⟨hkey, ?_⟩
  -- a row before the cursor would be the first of its page
  rcases hbad : (pre ++ [x]).filter fun a => before (key a) (key x) with _ | ⟨z, zs⟩
  · rw [hfilter, hbad, nil_append]
  have hz : z ∈ pre ++ [x] := mem_of_mem_filter (hbad ▸ mem_cons_self)
  have hpage := h.next x hx
  rw [if_neg hkey, hfilter, hbad] at hpage
  have hdata : z ∈ (cut limit cursor (z :: zs ++ post)).data :=
    mem_of_mem_head? (by rw [cut, head?_take, if_neg hlimit.ne']; rfl)
  refine absurd ?_ (hdisjoint z hz)
  rcases hvisits.inv hpage with ⟨-, hpost⟩ | ⟨-, rest, hpost, -⟩ <;> rw [hpost]
  · exact hdata
  · exact mem_append_left _ hdata

/-- The rows are visited, each once and in order, just if every page ends with a row whose smaller
keys are those of the rows after it. -/
theorem Serves.visits_iff (h : Serves list key cursor before limit rows) (hlimit : 0 < limit)
    (htrans : ∀ a b c, before a b → before b c → before a c) (hnodup : rows.Nodup) :
    Visits list "" rows ↔ Turns key before limit rows := by
  -- induction on the rows still to come, behind any cursor whose page is cut from them
  suffices hall : ∀ n pre post c, post.length = n → rows = pre ++ post →
      list c = some (cut limit cursor post) →
        (Visits list c post ↔ Ends limit post (Behind key before rows)) from
    hall _ [] rows "" rfl rfl h.first
  intro n
  induction n using Nat.strong_induction_on with
  | _ n ih =>
    intro pre post c hn hrows hlist
    rcases Nat.lt_or_ge limit post.length with hmore | hle
    · obtain ⟨page, x, rest, rfl, hpage, hne, hcut⟩ := exists_cut cursor hlimit hmore
      rw [← append_assoc] at hrows
      have hrest := ih rest.length (by simp only [length_append, length_cons] at hn; omega)
        (pre ++ page ++ [x]) rest (cursor x) rfl
          (by rw [hrows, append_assoc _ [x], singleton_append])
      have hx : x ∈ rows := hrows ▸ mem_append_right _ mem_cons_self
      rw [ends_append_cons hpage hne]
      constructor
      · intro hvisits
        rcases hvisits.inv hlist with ⟨hlast, -⟩ | ⟨-, rest', hpost, hnext⟩
        · rw [hcut] at hlast
          cases hlast
        · rw [hcut] at hpost hnext
          obtain rfl : rest = rest' := by simpa using hpost
          have hbehind := h.behind_of_visits hlimit htrans hnodup hrows hnext
          refine ⟨hbehind, (hrest ?_).mp hnext⟩
          rw [h.next x hx, if_neg hbehind.1, hbehind.2]
      · rintro ⟨⟨hkey, hbehind⟩, hends⟩
        have hvisits := (hrest (by rw [h.next x hx, if_neg hkey, hbehind])).mpr hends
        have hmore := Visits.more hlist (by rw [hcut]) (by rw [hcut]; exact hvisits)
        rwa [hcut, append_assoc, singleton_append] at hmore
    · refine ⟨fun _ => ends_of_le hle, fun _ => ?_⟩
      have hvisits := Visits.last hlist (by rw [cut_of_le hle])
      rwa [cut_of_le hle] at hvisits

end

end Listing

section

variable {ρ : Type} {r : ρ → ρ → Prop} [DecidableRel r] [Std.Total r] [IsTrans ρ r] {l : List ρ}

/-- Rows in a strict order are the same whether they are filtered before or after they are
listed. -/
lemma insertionSort_filter (hanti : ∀ a ∈ l, ∀ b ∈ l, r a b → r b a → a = b) (scan : Scan ρ)
    (p : ρ → Bool) : (scan.order (l.filter p)).insertionSort r =
      ((scan.order l).insertionSort r).filter p := by
  have hmem : ∀ a ∈ (scan.order (l.filter p)).insertionSort r, a ∈ l := fun a ha => by
    rw [mem_insertionSort, scan.mem_order] at ha
    exact mem_of_mem_filter ha
  have hsorted : (((scan.order l).insertionSort r).filter p).Pairwise r :=
    (pairwise_insertionSort r _).filter p
  have hperm : ((scan.order (l.filter p)).insertionSort r).Perm
      (((scan.order l).insertionSort r).filter p) :=
    ((perm_insertionSort r _).trans (scan.perm _)).trans
      (((perm_insertionSort r _).trans (scan.perm l)).filter p).symm
  exact hperm.eq_of_pairwise
    (fun a b ha hb => hanti a (hmem a ha) b (hmem b (hperm.mem_iff.mpr hb)))
    (pairwise_insertionSort r _) hsorted

end

end Moebius
