import Mathlib.Algebra.Order.Field.Basic
import Mathlib.Tactic.Linarith

/-!
Token buckets.

A bucket holds at most `burst` tokens and gains `rate` tokens per unit of time until it is full.
-/

namespace Moebius.TokenBucket

variable {K : Type} [Field K] [LinearOrder K] [IsStrictOrderedRing K]

/-- What a bucket with `tokens` tokens holds after some time. -/
def refill (burst rate tokens elapsed : K) : K := min burst (tokens + elapsed * rate)

variable {burst rate tokens elapsed lifetime : K}

lemma refill_nonneg (hburst : 0 ≤ burst) (hrate : 0 ≤ rate) (htokens : 0 ≤ tokens)
    (helapsed : 0 ≤ elapsed) : 0 ≤ refill burst rate tokens elapsed :=
  le_min hburst (add_nonneg htokens (mul_nonneg helapsed hrate))

omit [IsStrictOrderedRing K] in
lemma refill_full (burst rate : K) : refill burst rate burst 0 = burst := by
  simp [refill]

omit [IsStrictOrderedRing K] in
lemma refill_le_burst (burst rate tokens elapsed : K) : refill burst rate tokens elapsed ≤ burst :=
  min_le_left _ _

/-- In a further `d` a bucket gains no more than `d * rate`. -/
lemma refill_add_le {d : K} (hrate : 0 ≤ rate) (hd : 0 ≤ d) :
    refill burst rate tokens (elapsed + d) ≤ refill burst rate tokens elapsed + d * rate := by
  have hgain : 0 ≤ d * rate := mul_nonneg hd hrate
  rcases min_choice burst (tokens + elapsed * rate) with h | h
  · calc refill burst rate tokens (elapsed + d) ≤ burst := refill_le_burst _ _ _ _
      _ ≤ burst + d * rate := le_add_of_nonneg_right hgain
      _ = refill burst rate tokens elapsed + d * rate := by rw [refill, h]
  · calc refill burst rate tokens (elapsed + d) ≤ tokens + (elapsed + d) * rate := min_le_right _ _
      _ = tokens + elapsed * rate + d * rate := by rw [add_mul, add_assoc]
      _ = refill burst rate tokens elapsed + d * rate := by rw [refill, h]

/-- A bucket that was left alone long enough is full, whatever it held. -/
lemma refill_of_idle (hrate : 0 ≤ rate) (htokens : 0 ≤ tokens) (hidle : lifetime ≤ elapsed)
    (hcovers : burst ≤ rate * lifetime) : refill burst rate tokens elapsed = burst := by
  have hgain : burst ≤ tokens + elapsed * rate := by
    calc burst ≤ rate * lifetime := hcovers
      _ ≤ rate * elapsed := mul_le_mul_of_nonneg_left hidle hrate
      _ = elapsed * rate := mul_comm rate elapsed
      _ ≤ tokens + elapsed * rate := le_add_of_nonneg_left htokens
  exact min_eq_left hgain

end Moebius.TokenBucket
