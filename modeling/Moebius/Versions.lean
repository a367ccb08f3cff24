import Mathlib.Data.Nat.Digits.Defs
import Moebius.Migrate
import Moebius.Update

/-!
Versions as texts.

An agent refuses an update whose version is not greater than its own, and compares the two as
strings. The decimal point sorts before every digit, so what decides is the first number that
differs, and it is compared digit by digit from the left: the shorter number with the first digits
of the longer one.
-/

namespace Moebius.Update

open List String Migrate Except

variable {β : Type}

lemma digitChar_val : ∀ d : Fin 10, d.val.digitChar = digitChar d := by decide

lemma exists_digits (n : ℕ) : ∃ ds : List (Fin 10), Nat.toDigits 10 n = ds.map digitChar ∧
      number ds = n := by
  induction n using Nat.strong_induction_on with
  | _ n ih =>
    rcases Nat.lt_or_ge n 10 with hlt | hge
    · refine ⟨[⟨n, hlt⟩], ?_, by simp [number]⟩
      rw [Nat.toDigits_of_lt_base hlt, map_singleton, ← digitChar_val]
    · obtain ⟨ds, hds, hn⟩ := ih (n / 10) (by omega)
      refine ⟨ds ++ [⟨n % 10, by omega⟩], ?_, ?_⟩
      · rw [Nat.toDigits_of_base_le (by decide) hge, hds, map_append, map_singleton,
          ← digitChar_val]
      · unfold number at hn ⊢
        rw [foldl_append, hn]
        simp only [foldl_cons, foldl_nil]
        omega

def width (n : ℕ) : ℕ := (Nat.toDigits 10 n).length

/-- The first `k` digits of a number. -/
def lead (n k : ℕ) : ℕ := n / 10 ^ (width n - k)

lemma width_mono {m n : ℕ} (h : m ≤ n) : width m ≤ width n := by
  obtain ⟨ds, hds, rfl⟩ := exists_digits n
  have hwidth : width (number ds) = ds.length := by rw [width, hds, List.length_map]
  rw [hwidth]
  refine Nat.toDigits_length 10 m ds.length ?_ (h.trans_lt (number_lt ds))
  rw [← hwidth]
  exact Nat.length_toDigits_pos

/-- The last `k` digits, taken off. -/
lemma exists_last {n k : ℕ} (hk : k < width n) : ∃ ds : List (Fin 10), ds.length = k ∧
      Nat.toDigits 10 n = Nat.toDigits 10 (n / 10 ^ k) ++ ds.map digitChar := by
  induction k with
  | zero => exact ⟨[], rfl, by simp⟩
  | succ k ih =>
    obtain ⟨ds, hlength, hds⟩ := ih (by omega)
    have hge : 10 ≤ n / 10 ^ k := by
      by_contra! hlt
      rw [width, hds, Nat.toDigits_of_lt_base hlt] at hk
      simp [hlength] at hk
    refine ⟨⟨n / 10 ^ k % 10, by omega⟩ :: ds, by simp [hlength], ?_⟩
    rw [hds, Nat.toDigits_of_base_le (by decide) hge, Nat.div_div_eq_div_mul, ← pow_succ,
      List.append_assoc, map_cons, ← digitChar_val]
    rfl

lemma toDigits_lt {m n : ℕ} (hwidth : width m = width n) (h : m < n) {r r' : List Char} :
    Nat.toDigits 10 m ++ r < Nat.toDigits 10 n ++ r' := by
  obtain ⟨ds, hds, rfl⟩ := exists_digits m
  obtain ⟨es, hes, rfl⟩ := exists_digits n
  unfold width at hwidth
  rw [hds, hes] at hwidth ⊢
  exact text_lt (by simpa using hwidth) h r r'

structure Version where
  major : ℕ
  minor : ℕ
  patch : ℕ

namespace Version

def text (v : Version) : String :=
  toString v.major ++ "." ++ toString v.minor ++ "." ++ toString v.patch

/-- The numbers; versions are ordered as these lists are. -/
def parts (v : Version) : List ℕ := [v.major, v.minor, v.patch]

/-- The numbers with a point before each. -/
def dotted : List ℕ → List Char
  | [] => []
  | n :: ns => '.' :: (Nat.toDigits 10 n ++ dotted ns)

lemma toList_text {v : Version} : '.' :: v.text.toList = dotted v.parts := by
  simp [text, dotted, parts, toList_append]

lemma dotted_lt_digit (ns : List ℕ) (d : Fin 10) (r : List Char) :
    dotted ns < digitChar d :: r := by
  cases ns with
  | nil => exact nil_lt_cons _ _
  | cons n ns =>
    have hdot : ∀ d, '.' < digitChar d := by decide
    exact cons_lt_cons_iff.mpr (.inl (hdot d))

/-- A smaller number comes first as a text, unless it exceeds what the greater one begins with. -/
lemma toDigits_order {m n : ℕ} (h : m < n) (ms : List ℕ) (r : List Char) :
    (m ≤ lead n (width m) → Nat.toDigits 10 m ++ dotted ms < Nat.toDigits 10 n ++ r) ∧
      (lead n (width m) < m → Nat.toDigits 10 n ++ r < Nat.toDigits 10 m ++ dotted ms) := by
  have hle : width m ≤ width n := width_mono h.le
  have hpos : 0 < width m := Nat.length_toDigits_pos
  obtain ⟨ds, hlength, hds⟩ := exists_last (show width n - width m < width n by omega)
  have hwidth : width (lead n (width m)) = width m := by
    have hn := congrArg List.length hds
    rw [List.length_append, List.length_map] at hn
    unfold lead width at *
    omega
  change Nat.toDigits 10 n = Nat.toDigits 10 (lead n (width m)) ++ _ at hds
  rw [hds, List.append_assoc]
  refine ⟨fun hm => ?_, fun hm => toDigits_lt hwidth hm⟩
  rcases hm.lt_or_eq with hlt | heq
  · exact toDigits_lt hwidth.symm hlt
  · rw [← heq]
    refine append_left_lt ?_
    rcases ds with _ | ⟨d, ds⟩
    · -- no digit is left, so the numbers would be equal
      rw [lead, ← hlength, List.length_nil, pow_zero, Nat.div_one] at heq
      exact absurd heq h.ne
    · exact dotted_lt_digit ms d _

/-- The first numbers that differ are ordered as their texts are: the smaller one is at most what
the other begins with. -/
def Alike : List ℕ → List ℕ → Prop
  | m :: ms, n :: ns =>
    if m = n then Alike ms ns else min m n ≤ lead (max m n) (width (min m n))
  | _, _ => True

instance decidableAlike : (ms ns : List ℕ) → Decidable (Alike ms ns)
  | m :: ms, n :: ns =>
    have := decidableAlike ms ns
    inferInstanceAs (Decidable (if m = n then Alike ms ns else _ ≤ _))
  | [], _ => .isTrue trivial
  | _ :: _, [] => .isTrue trivial

lemma dotted_lt_iff {ms ns : List ℕ} : (dotted ms < dotted ns ↔ ms < ns) ↔ Alike ms ns := by
  induction ms generalizing ns with
  | nil => cases ns <;> simp [dotted, Alike]
  | cons m ms ih =>
    rcases ns with _ | ⟨n, ns⟩
    · simp [dotted, Alike]
    rw [dotted, dotted, cons_lt_cons_iff, cons_lt_cons_iff, Alike]
    simp only [lt_irrefl, true_and, false_or]
    rcases lt_trichotomy m n with hlt | rfl | hgt
    · obtain ⟨hless, hmore⟩ := toDigits_order hlt ms (dotted ns)
      rw [if_neg hlt.ne, min_eq_left hlt.le, max_eq_right hlt.le]
      simp only [hlt, true_or, iff_true]
      exact ⟨fun h => not_lt.mp fun hlead => (hmore hlead).not_gt h, hless⟩
    · have hmono : StrictMono (Nat.toDigits 10 m ++ ·) := fun _ _ => append_left_lt
      rw [if_pos rfl, ← ih, hmono.lt_iff_lt]
      simp
    · obtain ⟨hless, hmore⟩ := toDigits_order hgt ns (dotted ms)
      rw [if_neg hgt.ne', min_eq_right hgt.le, max_eq_left hgt.le]
      simp only [hgt.not_gt, hgt.ne', false_and, or_false, iff_false]
      exact ⟨fun h => not_lt.mp fun hlead => h (hmore hlead), fun h => (hless h).not_gt⟩

lemma text_lt_iff {v w : Version} : (v.text < w.text ↔ v.parts < w.parts) ↔
      Alike v.parts w.parts := by
  have hdotted : v.text < w.text ↔ dotted v.parts < dotted w.parts := by
    rw [lt_iff_toList_lt, ← toList_text, ← toList_text, cons_lt_cons_iff]
    simp
  rw [hdotted, dotted_lt_iff]

lemma text_ne (v : Version) : v.text ≠ "" ∧ v.text ≠ "dev" := by
  constructor
  · intro h
    have htext := congrArg toList h
    simp [text, toList_append] at htext
  · intro h
    have htext : '.' ∈ v.text.toList := by simp [text, toList_append]
    rw [h] at htext
    exact absurd htext (by decide)

end Version

/-! ### The check -/

def notNewer (A : Agent) (p : AgentUpdatePayload) : String :=
  "target version " ++ p.version ++ " is not newer than current " ++ A.version ++
    " (use force to downgrade)"

variable {s : String} {c : Char} {A : Agent} {p : AgentUpdatePayload}

lemma head?_append (h : s.toList.head? = some c) (t : String) : (s ++ t).toList.head? = some c := by
  rw [toList_append, List.head?_append, h]
  rfl

lemma ne_notNewer (h : s.toList.head? = some c) (hc : c ≠ 't') : s ≠ notNewer A p := by
  rintro rfl
  have ht : (notNewer A p).toList.head? = some 't' := by
    unfold notNewer
    rw [String.append_assoc, String.append_assoc, String.append_assoc]
    exact head?_append (s := "target version ") (by decide) _
  rw [ht, Option.some.injEq] at h
  exact hc h.symm

lemma checkDiskSpace_ne (statfs : Option (Except String ℤ)) (threshold : Threshold)
    (fileSize : ℤ) : checkDiskSpace statfs threshold fileSize ≠ .error (notNewer A p) := by
  unfold checkDiskSpace
  split
  · rw [ne_eq, error.injEq]
    exact ne_notNewer (c := 'd') (by decide) (by decide)
  · rw [ne_eq, error.injEq]
    exact ne_notNewer (head?_append (c := 's') (by decide) _) (by decide)
  · split
    · rw [ne_eq, error.injEq]
      simp only [String.append_assoc]
      exact ne_notNewer (c := 'i') (head?_append (s := "insufficient_disk_space: file ")
        (by decide) _) (by decide)
    · rintro ⟨⟩

lemma preflight_eq_notNewer {io : Io β} {d : Disk β} (hversion : p.version ≠ "") :
    preflight A io (.ok p) d = .error (notNewer A p) ↔
      p.force = false ∧ A.version ≠ "dev" ∧ p.version ≤ A.version := by
  unfold preflight
  dsimp only
  rw [if_neg hversion]
  split
  · rename_i h
    exact ⟨fun _ => h, fun _ => rfl⟩
  rename_i h
  refine ⟨fun he => absurd he ?_, fun h' => absurd h' h⟩
  split
  · rw [error.injEq]
    exact ne_notNewer (c := 'p') (by decide) (by decide)
  cases d.binary.access io.notExist io.stat with
  | error err =>
    rw [error.injEq]
    exact ne_notNewer (head?_append (c := 'c') (by decide) _) (by decide)
  | ok _ =>
    have hspace := checkDiskSpace_ne (A := A) (p := p) io.statfs io.half p.sizeBytes
    cases hcheck : if 0 < p.sizeBytes then checkDiskSpace io.statfs io.half p.sizeBytes
        else .ok () with
    | error err =>
      split at hcheck
      · intro he
        obtain rfl : err = notNewer A p := error.inj he
        exact hspace hcheck
      · cases hcheck
    | ok _ =>
      dsimp only
      split
      · rw [error.injEq]
        exact ne_notNewer (c := 'd') (by decide) (by decide)
      · rintro ⟨⟩

/-- **Updates are accepted exactly when newer**, without force, if and only if the first numbers
that differ are ordered as their texts are. -/
theorem refused_iff_not_newer (A : Agent) (io : Io β) (p : AgentUpdatePayload) (d : Disk β)
    (v w : Version) (hforce : p.force = false) (hoffered : p.version = v.text)
    (hrunning : A.version = w.text) :
    (preflight A io (.ok p) d = .error (notNewer A p) ↔ ¬ w.parts < v.parts) ↔
      Version.Alike w.parts v.parts := by
  obtain ⟨hnonempty, -⟩ := v.text_ne
  obtain ⟨-, hdev⟩ := w.text_ne
  have hrefused : preflight A io (.ok p) d = .error (notNewer A p) ↔ ¬ w.text < v.text := by
    rw [preflight_eq_notNewer (hoffered ▸ hnonempty), hoffered, hrunning, not_lt]
    exact ⟨fun h => h.2.2, fun h => ⟨hforce, hdev, h⟩⟩
  rw [hrefused, not_iff_not, Version.text_lt_iff]

open Update.Sample in
theorem patch_not_refused : preflight { agent with version := (⟨1, 1, 0⟩ : Version).text } io
        (.ok { payload with version := (⟨1, 10, 0⟩ : Version).text }) disk ≠
      .error (notNewer { agent with version := (⟨1, 1, 0⟩ : Version).text }
        { payload with version := (⟨1, 10, 0⟩ : Version).text }) := fun h =>
  ((refused_iff_not_newer _ io _ disk ⟨1, 10, 0⟩ ⟨1, 1, 0⟩ rfl rfl rfl).mpr
    (by decide)).mp h (by decide)

open Update.Sample in
/-- An agent of version 1.9.0 refuses 1.10.0, and one of version 1.10.0 takes 1.9.0. -/
theorem tenth_minor_refused : preflight { agent with version := (⟨1, 9, 0⟩ : Version).text } io
        (.ok { payload with version := (⟨1, 10, 0⟩ : Version).text }) disk =
      .error "target version 1.10.0 is not newer than current 1.9.0 (use force to downgrade)" ∧
    (preflight { agent with version := (⟨1, 10, 0⟩ : Version).text } io
        (.ok { payload with version := (⟨1, 9, 0⟩ : Version).text }) disk).isOk ∧
    (⟨1, 9, 0⟩ : Version).parts < (⟨1, 10, 0⟩ : Version).parts := by
  refine ⟨?_, ?_, by decide⟩
  · rfl
  · rfl

end Moebius.Update
