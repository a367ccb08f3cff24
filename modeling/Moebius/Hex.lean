import Mathlib.Data.Nat.Digits.Lemmas

/-!
Numbers as bytes and bytes as hexadecimal digits, two for each byte.
-/

namespace Moebius

open List Nat

namespace Hex

/-- The bytes of a number, the most significant first and without leading zeros. -/
def bytes (n : ℕ) : List ℕ := (digits 256 n).reverse

def encodeByte (b : ℕ) : List Char := [digitChar (b / 16), digitChar (b % 16)]

def encode (bs : List ℕ) : String := String.ofList (bs.flatMap encodeByte)

lemma bytes_injective : Function.Injective bytes := by
  intro n m h
  exact digits_inj_iff.mp (reverse_injective h)

variable {b a : ℕ} {bs cs : List ℕ}

lemma lt_of_mem_bytes {n : ℕ} (h : b ∈ bytes n) : b < 256 :=
  digits_lt_base (by omega) (mem_reverse.mp h)

lemma digitChar_inj (ha : a < 16) (hb : b < 16) (h : digitChar a = digitChar b) :
    a = b := by
  have hall : ∀ a < 16, ∀ b < 16, digitChar a = digitChar b → a = b := by decide
  exact hall a ha b hb h

lemma encodeByte_inj (ha : a < 256) (hb : b < 256) (h : encodeByte a = encodeByte b) : a = b := by
  simp only [encodeByte, cons.injEq, and_true] at h
  have hhigh := digitChar_inj (by omega) (by omega) h.1
  have hlow := digitChar_inj (by omega) (by omega) h.2
  omega

lemma flatMap_encodeByte_inj (hb : ∀ b ∈ bs, b < 256) (hc : ∀ c ∈ cs, c < 256)
    (h : bs.flatMap encodeByte = cs.flatMap encodeByte) : bs = cs := by
  induction bs generalizing cs with
  | nil =>
    cases cs with
    | nil => rfl
    | cons c cs => simp [encodeByte] at h
  | cons b bs ih =>
    cases cs with
    | nil => simp [encodeByte] at h
    | cons c cs =>
      -- both sides start with the two digits of one byte
      obtain ⟨hhead, htail⟩ := append_inj h rfl
      have hbyte : b = c := encodeByte_inj (hb b mem_cons_self) (hc c mem_cons_self) hhead
      have hrest : bs = cs :=
        ih (fun x hx => hb x (mem_cons_of_mem _ hx))
          (fun x hx => hc x (mem_cons_of_mem _ hx)) htail
      rw [hbyte, hrest]

lemma encode_bytes_injective : Function.Injective fun n => encode (bytes n) := by
  intro n m h
  exact bytes_injective (flatMap_encodeByte_inj (fun _ => lt_of_mem_bytes)
    (fun _ => lt_of_mem_bytes) (String.ofList_injective h))

example : encode (bytes 66000) = "0101d0" := by decide

end Hex

end Moebius
