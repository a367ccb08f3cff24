import Mathlib.Algebra.Order.Ring.Int
import Mathlib.Data.Nat.Log
import Mathlib.Tactic.Ring

/-!
The ceiling of a quotient of integers that is computed in binary64.

A number is rounded to 53 binary digits, to the even one of two that are equally near.
-/

namespace Moebius.Float64

def roundHalfEven (p q : ℕ) : ℕ :=
  if q < 2 * (p % q) ∨ q = 2 * (p % q) ∧ p / q % 2 = 1 then p / q + 1 else p / q

/-- An integer as a binary64 number. -/
def ofNat (n : ℕ) : ℕ :=
  if n < 2 ^ 53 then n else roundHalfEven n (2 ^ (n.log2 - 52)) * 2 ^ (n.log2 - 52)

/-- The binary digits to shift `p / q` by, to the left and to the right, so that the integer part
has 53 digits. -/
def shifts (p q : ℕ) : ℕ × ℕ :=
  let left := 52 + q.log2 - p.log2
  let right := p.log2 - (52 + q.log2)
  (if p * 2 ^ left < q * 2 ^ right * 2 ^ 52 then left + 1 else left, right)

/-- The binary64 number next to `p / q`, as a fraction; both are positive. -/
def quotient (p q : ℕ) : ℕ × ℕ :=
  let (left, right) := shifts p q
  (roundHalfEven (p * 2 ^ left) (q * 2 ^ right) * 2 ^ right, 2 ^ left)

/-- `int(math.Ceil(float64(a) / float64(b)))`, where `b` is not zero and nothing overflows. -/
def ceilQuotient (a b : ℤ) : ℤ :=
  let (m, d) := quotient (ofNat a.natAbs) (ofNat b.natAbs)
  if a * b < 0 then -(m / d : ℕ) else ((m + d - 1) / d : ℕ)

variable {p q n : ℕ}

lemma roundHalfEven_pos (hq : 0 < q) (h : q ≤ p) : 0 < roundHalfEven p q := by
  have hdiv := Nat.div_pos h hq
  unfold roundHalfEven
  split <;> omega

lemma ofNat_pos (h : 0 < n) : 0 < ofNat n := by
  unfold ofNat
  split
  · exact h
  · refine Nat.mul_pos (roundHalfEven_pos (Nat.two_pow_pos _) ?_) (Nat.two_pow_pos _)
    exact (Nat.pow_le_pow_right two_pos (Nat.sub_le _ _)).trans (Nat.log2_self_le h.ne')

/-- After the shifts there are 53 digits at least. -/
lemma mul_le_of_shifts (hp : 0 < p) :
    q * 2 ^ (shifts p q).2 * 2 ^ 52 ≤ p * 2 ^ (shifts p q).1 := by
  simp only [shifts]
  split
  · have hdigits : 52 + q.log2 - p.log2 + p.log2 = p.log2 - (52 + q.log2) + (52 + q.log2) := by
      omega
    calc q * 2 ^ (p.log2 - (52 + q.log2)) * 2 ^ 52
        ≤ 2 ^ (q.log2 + 1) * 2 ^ (p.log2 - (52 + q.log2)) * 2 ^ 52 := by
          gcongr
          exact Nat.lt_log2_self.le
      _ = 2 ^ (p.log2 - (52 + q.log2) + (52 + q.log2)) * 2 := by ring
      _ = 2 ^ p.log2 * 2 ^ (52 + q.log2 - p.log2 + 1) := by
          rw [← hdigits]
          ring
      _ ≤ p * 2 ^ (52 + q.log2 - p.log2 + 1) := by
          gcongr
          exact Nat.log2_self_le hp.ne'
  · rename_i h
    exact not_lt.mp h

lemma quotient_pos (hp : 0 < p) (hq : 0 < q) : 0 < (quotient p q).1 := by
  have hshifts := mul_le_of_shifts (q := q) hp
  refine Nat.mul_pos (roundHalfEven_pos (Nat.mul_pos hq (Nat.two_pow_pos _)) ?_) (Nat.two_pow_pos _)
  exact (Nat.le_mul_of_pos_right _ (Nat.two_pow_pos _)).trans hshifts

lemma ceilQuotient_pos {a b : ℤ} (ha : 0 < a) (hb : 0 < b) : 0 < ceilQuotient a b := by
  have hpos := quotient_pos (ofNat_pos (Int.natAbs_pos.mpr ha.ne'))
    (ofNat_pos (Int.natAbs_pos.mpr hb.ne'))
  have heq : ceilQuotient a b = (((quotient (ofNat a.natAbs) (ofNat b.natAbs)).1 +
      (quotient (ofNat a.natAbs) (ofNat b.natAbs)).2 - 1) /
        (quotient (ofNat a.natAbs) (ofNat b.natAbs)).2 : ℕ) :=
    if_neg (not_lt.mpr (Int.mul_pos ha hb).le)
  rw [heq]
  exact Int.natCast_pos.mpr (Nat.div_pos (by omega) (Nat.two_pow_pos _))

/-- A byte may be rounded away. -/
example : ceilQuotient 5242881 5242880 = 2 ∧
    ceilQuotient (1717986919 * 5242880 + 1) 5242880 = 1717986919 := by
  decide

end Moebius.Float64
