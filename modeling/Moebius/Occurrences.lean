import Mathlib.Order.Interval.Finset.Basic

/-!
Doing something once for each time it falls due.

A timer is set to a time, or not at all. Passes look at it at times that never go back. A pass that
finds it due may act, at most once, and then sets it to a later occurrence. However often one looks,
there is then at most one act for each occurrence, and one more for the time the timer was set to at
the start.
-/

namespace Moebius.Occurrences

open Finset

variable {T : Type} [LinearOrder T] [LocallyFiniteOrder T] {M : Set T} {a b m t : T}

open Classical in
/-- How many occurrences there are after `a` and until `b`. -/
noncomputable def count (M : Set T) (a b : T) : ℕ := ((Ioc a b).filter (· ∈ M)).card

lemma count_mono (h : a ≤ t) : count M t b ≤ count M a b := by
  classical
  exact card_le_card (filter_subset_filter _ (Ioc_subset_Ioc_left h))

lemma count_lt (hm : m ∈ M) (ham : a < m) (hmt : m ≤ t) (htb : t ≤ b) :
    count M t b < count M a b := by
  classical
  refine card_lt_card (ssubset_iff_of_subset ?_ |>.mpr ⟨m, ?_, ?_⟩)
  · exact filter_subset_filter _ (Ioc_subset_Ioc_left (ham.le.trans hmt))
  · exact mem_filter.mpr ⟨mem_Ioc.mpr ⟨ham, hmt.trans htb⟩, hm⟩
  · intro h
    have hlt := (mem_Ioc.mp (mem_filter.mp h).1).1
    exact absurd hlt (not_lt.mpr hmt)

/-- One pass at the time `t`: how the timer stood, how often it acted, how the timer stands. -/
inductive Pass (M : Set T) (t : T) : Option T → ℕ → Option T → Prop
  /-- Nothing happens. -/
  | idle (n : Option T) : Pass M t n 0 n
  /-- The timer is due and is set anew, to whatever time, without acting. -/
  | skip {n : T} {n' : Option T} (h : n ≤ t) : Pass M t (some n) 0 n'
  | act {n n' : T} {c : ℕ} (h : n ≤ t) (hc : c ≤ 1) (hn : n' ∈ M) (hlt : t < n') :
      Pass M t (some n) c (some n')

/-- Passes between `start` and `stop`, at times that never go back, and how often they act. -/
inductive Passes (M : Set T) (stop : T) : T → Option T → ℕ → Prop
  | nil {start : T} {n : Option T} : Passes M stop start n 0
  | cons {start t : T} {n n' : Option T} {c total : ℕ} (hstart : start ≤ t) (hstop : t ≤ stop)
      (hpass : Pass M t n c n') (hrest : Passes M stop t n' total) :
      Passes M stop start n (c + total)

namespace Passes

variable {start stop : T} {n : Option T} {total : ℕ}

/-- The bound, and the better one for a timer that is set to an occurrence to come. -/
lemma bounds (h : Passes M stop start n total) : total ≤ count M start stop + 1 ∧
      ∀ m, n = some m → m ∈ M → start < m → total ≤ count M start stop := by
  induction h with
  | nil => exact ⟨Nat.zero_le _, fun _ _ _ _ => Nat.zero_le _⟩
  | @cons start t n n' c total hstart hstop hpass hrest ih =>
    obtain ⟨hbound, hbetter⟩ := ih
    have hmono : count M t stop ≤ count M start stop := count_mono hstart
    cases hpass with
    | idle =>
      refine ⟨by omega, fun m hm hM hlt => ?_⟩
      rcases lt_or_ge t m with htm | hmt
      · have := hbetter m hm hM htm
        omega
      · have := count_lt hM hlt hmt hstop
        omega
    | skip h =>
      refine ⟨by omega, fun m hm hM hlt => ?_⟩
      cases hm
      have := count_lt hM hlt h hstop
      omega
    | act h hc hn hlt' =>
      have hrest := hbetter _ rfl hn hlt'
      refine ⟨by omega, fun m hm hM hlt => ?_⟩
      cases hm
      have := count_lt hM hlt h hstop
      omega

end Passes

end Moebius.Occurrences
