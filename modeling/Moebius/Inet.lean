import Mathlib.Tactic.Common

/-!
Internet addresses and ranges of them, as texts and as bits.

An address is read from its text, a range from the text `address/bits`. As Go has it, a range is
kept as a masked network number and its mask, and IPv4 addresses written as IPv6 addresses are
IPv4 addresses. That an address is in the network then says that it agrees with the range in the
leading bits.
-/

namespace Moebius.Inet

open BitVec

inductive Addr
  | v4 (n : BitVec 32)
  | v6 (n : BitVec 128)
  deriving DecidableEq

namespace Addr

def bitLen : Addr → ℕ
  | v4 _ => 32
  | v6 _ => 128

def mapped (n : BitVec 32) : BitVec 128 := (0xffff#128 <<< 32) ||| n.setWidth 128

/-- The address is in the block of the IPv6 forms of IPv4 addresses. -/
def is4In6 (n : BitVec 128) : Bool := n >>> 32 = 0xffff#128

/-- `IP.To4`, where it applies. -/
def to4 : Addr → Addr
  | v4 n => v4 n
  | v6 n => if is4In6 n then v4 (n.setWidth 32) else v6 n

end Addr

inductive IPNet
  | v4 (ip mask : BitVec 32)
  | v6 (ip mask : BitVec 128)
  deriving DecidableEq

/-- `CIDRMask`: `k` ones, then zeros. -/
def cidrMask (w k : ℕ) : BitVec w := allOnes w <<< (w - k)

def IPNet.networkNumberAndMask : IPNet → IPNet
  | v4 ip mask => v4 ip mask
  | v6 ip mask =>
    if Addr.is4In6 ip then v4 (ip.setWidth 32) (mask.setWidth 32) else v6 ip mask

def IPNet.contains (net : IPNet) (a : Addr) : Bool :=
  match net.networkNumberAndMask, a.to4 with
  | v4 ip mask, .v4 n => ip &&& mask = n &&& mask
  | v6 ip mask, .v6 n => ip &&& mask = n &&& mask
  | _, _ => false

/-- A range of addresses: those that share their leading bits with `addr`. -/
structure Cidr where
  addr : Addr
  bits : ℕ
  le : bits ≤ addr.bitLen
  deriving DecidableEq

def Agree {w : ℕ} (k : ℕ) (x y : BitVec w) : Prop :=
  ∀ i, w - k ≤ i → i < w → x.getLsbD i = y.getLsbD i

def Cidr.network (c : Cidr) : IPNet :=
  match c.addr with
  | .v4 n => .v4 (n &&& cidrMask 32 c.bits) (cidrMask 32 c.bits)
  | .v6 n => .v6 (n &&& cidrMask 128 c.bits) (cidrMask 128 c.bits)

/-- What lies in the range. An IPv4 address lies in a range of IPv6 addresses only if the whole
range is of IPv4 addresses. -/
def Cidr.Includes (c : Cidr) (a : Addr) : Prop :=
  match c.addr, a.to4 with
  | .v4 n, .v4 m => Agree c.bits n m
  | .v6 n, .v6 m => Agree c.bits n m
  | .v6 n, .v4 m => 96 ≤ c.bits ∧ Agree c.bits n (Addr.mapped m)
  | .v4 _, .v6 _ => False

section

variable {w k : ℕ} {x y : BitVec w}

lemma getLsbD_cidrMask {i : ℕ} : (cidrMask w k).getLsbD i = decide (w - k ≤ i ∧ i < w) := by
  simp only [cidrMask, getLsbD_shiftLeft, getLsbD_allOnes]
  by_cases hi : i < w
  · have hsub : i - (w - k) < w := by omega
    by_cases hk : i < w - k
    · have hnot : ¬ w - k ≤ i := by omega
      simp only [hi, hk, hnot, decide_true, decide_false, Bool.not_true, Bool.and_false,
        Bool.false_and, false_and]
    · have hle : w - k ≤ i := by omega
      simp only [hi, hk, hle, hsub, decide_true, decide_false, Bool.not_false, Bool.and_true,
        and_true]
  · simp only [hi, decide_false, Bool.false_and, and_false]

lemma and_cidrMask_eq_iff : x &&& cidrMask w k = y &&& cidrMask w k ↔ Agree k x y := by
  constructor
  · intro h i hi hw
    have hbit := congrArg (fun z => getLsbD z i) h
    simpa only [getLsbD_and, getLsbD_cidrMask, hi, hw, and_true, decide_true,
      Bool.and_true] using hbit
  · intro h
    refine eq_of_getLsbD_eq fun i hw => ?_
    simp only [getLsbD_and, getLsbD_cidrMask]
    by_cases hi : w - k ≤ i
    · rw [h i hi hw]
    · simp only [hi, false_and, decide_false, Bool.and_false]

lemma and_and_cidrMask : x &&& cidrMask w k &&& cidrMask w k = x &&& cidrMask w k := by
  rw [BitVec.and_assoc, BitVec.and_self]

end

lemma getLsbD_ffff {i : ℕ} : (0xffff#128).getLsbD i = decide (i < 16) := by
  have hval : (0xffff : ℕ) = 2 ^ 16 - 1 := by decide
  rw [getLsbD_ofNat, hval, Nat.testBit_two_pow_sub_one]
  by_cases hi : i < 16
  · have hw : i < 128 := by omega
    simp only [hi, hw, decide_true, Bool.and_true]
  · simp only [hi, decide_false, Bool.and_false]

variable {n m : BitVec 128} {k : ℕ}

lemma is4In6_iff :
    Addr.is4In6 n = true ↔ ∀ i, 32 ≤ i → i < 128 → n.getLsbD i = decide (i < 48) := by
  rw [Addr.is4In6, decide_eq_true_eq]
  constructor
  · intro h i hlow hhigh
    have hbit := congrArg (fun z => getLsbD z (i - 32)) h
    simp only [getLsbD_ushiftRight, getLsbD_ffff] at hbit
    rw [show 32 + (i - 32) = i by omega] at hbit
    rw [hbit]
    exact decide_eq_decide.mpr (by omega)
  · intro h
    refine eq_of_getLsbD_eq fun i hi => ?_
    rw [getLsbD_ushiftRight, getLsbD_ffff]
    by_cases hw : 32 + i < 128
    · rw [h (32 + i) (by omega) hw]
      exact decide_eq_decide.mpr (by omega)
    · rw [getLsbD_of_ge _ _ (by omega)]
      exact (decide_eq_false (by omega)).symm

lemma getLsbD_mapped {m : BitVec 32} {i : ℕ} (hi : i < 128) :
    (Addr.mapped m).getLsbD i = if i < 32 then m.getLsbD i else decide (i < 48) := by
  simp only [Addr.mapped, getLsbD_or, getLsbD_shiftLeft, getLsbD_ffff,
    getLsbD_setWidth, hi, decide_true, Bool.true_and]
  by_cases hlow : i < 32
  · simp only [hlow, decide_true, Bool.not_true, Bool.false_and, Bool.false_or, if_true]
  · rw [getLsbD_of_ge _ _ (by omega)]
    simp only [hlow, decide_false, Bool.not_false, Bool.true_and, Bool.or_false, if_false]
    exact decide_eq_decide.mpr (by omega)

lemma is4In6_and_cidrMask (hk : k ≤ 128) :
    Addr.is4In6 (n &&& cidrMask 128 k) = true ↔ 96 ≤ k ∧ Addr.is4In6 n = true := by
  simp only [is4In6_iff, getLsbD_and, getLsbD_cidrMask]
  constructor
  · intro h
    have hbit := h 32 (by omega) (by omega)
    have hk' : 96 ≤ k := by
      by_contra hlt
      have hnot : ¬ 128 - k ≤ 32 := by omega
      simp [hnot] at hbit
    refine ⟨hk', fun i hlow hhigh => ?_⟩
    have hle : 128 - k ≤ i := by omega
    simpa [hle, hhigh] using h i hlow hhigh
  · rintro ⟨hk', h⟩ i hlow hhigh
    have hle : 128 - k ≤ i := by omega
    simpa [hle, hhigh] using h i hlow hhigh

/-- In the IPv4 block the last 32 bits decide. -/
lemma and_setWidth_eq_iff {m : BitVec 32} (hn : Addr.is4In6 n = true) :
    (n &&& cidrMask 128 k).setWidth 32 &&& (cidrMask 128 k).setWidth 32 =
        m &&& (cidrMask 128 k).setWidth 32 ↔ Agree k n (Addr.mapped m) := by
  rw [is4In6_iff] at hn
  constructor
  · intro h i hi hw
    rw [getLsbD_mapped hw]
    by_cases hlow : i < 32
    · have hbit := congrArg (fun z => getLsbD z i) h
      rw [if_pos hlow]
      simpa only [getLsbD_and, getLsbD_setWidth, getLsbD_cidrMask, hlow, hi, hw,
        and_true, decide_true, Bool.true_and, Bool.and_true] using hbit
    · rw [if_neg hlow]
      exact hn i (by omega) hw
  · intro h
    refine eq_of_getLsbD_eq fun i hlow => ?_
    simp only [getLsbD_and, getLsbD_setWidth, getLsbD_cidrMask]
    by_cases hi : 128 - k ≤ i
    · have hbit := h i hi (by omega)
      rw [getLsbD_mapped (by omega), if_pos hlow] at hbit
      rw [hbit]
      simp [hi, hlow]
    · simp [hi]

lemma is4In6_of_agree (hk : 96 ≤ k) (h : Agree k n m) (hn : Addr.is4In6 n = true) :
    Addr.is4In6 m = true := by
  rw [is4In6_iff] at hn ⊢
  intro i hlow hhigh
  rw [← h i (by omega) hhigh]
  exact hn i hlow hhigh

lemma is4In6_mapped {m : BitVec 32} : Addr.is4In6 (Addr.mapped m) = true := by
  rw [is4In6_iff]
  intro i hlow hhigh
  rw [getLsbD_mapped hhigh, if_neg (by omega)]

lemma not_is4In6_of_to4 {a : Addr} (h : a.to4 = .v6 m) : Addr.is4In6 m = false := by
  unfold Addr.to4 at h
  split at h
  · cases h
  · split at h
    · cases h
    · rename_i hn
      cases h
      exact Bool.not_eq_true _ ▸ hn

/-- An address is in the network of a range exactly when it lies in the range. -/
theorem contains_network (c : Cidr) (a : Addr) : c.network.contains a = true ↔ c.Includes a := by
  obtain ⟨addr, k, hk⟩ := c
  cases addr with
  | v4 n =>
    simp only [Cidr.network, Cidr.Includes, IPNet.contains, IPNet.networkNumberAndMask]
    rcases a.to4 with m | m
    · rw [decide_eq_true_eq, and_and_cidrMask, and_cidrMask_eq_iff]
    · simp
  | v6 n =>
    simp only [Cidr.network, Cidr.Includes, IPNet.contains, IPNet.networkNumberAndMask]
    by_cases hmapped : Addr.is4In6 (n &&& cidrMask 128 k) = true
    · obtain ⟨hk', hn⟩ := (is4In6_and_cidrMask hk).mp hmapped
      rw [if_pos hmapped]
      rcases hto : a.to4 with m | m
      · simp only [decide_eq_true_eq]
        rw [and_setWidth_eq_iff hn]
        exact ⟨fun h => ⟨hk', h⟩, fun h => h.2⟩
      · -- no address outside the block agrees with one of its own
        have hnot := not_is4In6_of_to4 hto
        simp only [Bool.false_eq_true, false_iff]
        intro hagree
        rw [is4In6_of_agree hk' hagree hn] at hnot
        cases hnot
    · rw [if_neg hmapped]
      rcases a.to4 with m | m
      · simp only [Bool.false_eq_true, false_iff]
        rintro ⟨hk', hagree⟩
        refine hmapped ((is4In6_and_cidrMask hk).mpr ⟨hk', ?_⟩)
        refine is4In6_of_agree hk' (fun i hi hw => (hagree i hi hw).symm) is4In6_mapped
      · rw [decide_eq_true_eq, and_and_cidrMask, and_cidrMask_eq_iff]

/-! ### Texts -/

/-- The value of the digits of a number, most significant first. -/
def ofDigits (base : ℕ) (ds : List ℕ) : ℕ := ds.foldl (fun n d => n * base + d) 0

variable (f : List Char) (c : Char) (s : List Char)

def decDigit : Option ℕ := if c.isDigit then some (c.toNat - 48) else none

def hexDigit : Option ℕ :=
  if c.isDigit then some (c.toNat - 48)
  else if 'a' ≤ c ∧ c ≤ 'f' then some (c.toNat - 97 + 10)
  else if 'A' ≤ c ∧ c ≤ 'F' then some (c.toNat - 65 + 10)
  else none

/-- One field of an IPv4 address: no leading zeros, at most 255. -/
def parseOctet : Option ℕ := do
  let ds ← f.mapM decDigit
  if ds = [] ∨ 1 < ds.length ∧ ds.head? = some 0 ∨ 255 < ofDigits 10 ds then none
  else some (ofDigits 10 ds)

def parseIPv4 : Option (BitVec 32) :=
  match s.splitOn '.' with
  | [a, b, c, d] => do
    let fields ← [a, b, c, d].mapM parseOctet
    return BitVec.ofNat 32 (ofDigits 256 fields)
  | _ => none

/-- One field of an IPv6 address: one to four hexadecimal digits. -/
def parseGroup : Option ℕ := do
  let ds ← f.mapM hexDigit
  if ds = [] ∨ 4 < ds.length then none else some (ofDigits 16 ds)

/-- Fields of an IPv6 address. Where the address ends, an IPv4 address may stand for the last
two. -/
def parseGroups (atEnd : Bool) : List (List Char) → Option (List ℕ)
  | [] => some []
  | [f] =>
    if atEnd ∧ '.' ∈ f then
      (parseIPv4 f).map fun n : BitVec 32 => [(n >>> 16).toNat, (n.setWidth 16).toNat]
    else (parseGroup f).map fun g => [g]
  | f :: fs => do
    let g ← parseGroup f
    let gs ← parseGroups atEnd fs
    return g :: gs

/-- The texts before and after the first `::`. -/
def splitEllipsis : List Char → Option (List Char × List Char)
  | ':' :: ':' :: rest => some ([], rest)
  | c :: rest => (splitEllipsis rest).map fun p => (c :: p.1, p.2)
  | [] => none

/-- The fields on one side of `::`. -/
def parseSide (atEnd : Bool) (s : List Char) : Option (List ℕ) :=
  if s = [] then some [] else parseGroups atEnd (s.splitOn ':')

/-- Eight fields; `::` stands for one or more zero fields. -/
def parseIPv6 : Option (BitVec 128) := do
  match splitEllipsis s with
  | none =>
    let gs ← parseGroups true (s.splitOn ':')
    if gs.length = 8 then return BitVec.ofNat 128 (ofDigits 65536 gs) else none
  | some (left, right) =>
    let ls ← parseSide false left
    let rs ← parseSide true right
    if ls.length + rs.length ≤ 7 then
      return BitVec.ofNat 128
        (ofDigits 65536 (ls ++ List.replicate (8 - (ls.length + rs.length)) 0 ++ rs))
    else none

/-- `netip.ParseAddr` without zones: the first dot or colon tells which kind of address it is. -/
def parseAddr : Option Addr :=
  if '%' ∈ s then none
  else
    match s.find? fun c => c = '.' ∨ c = ':' with
    | none => none
    | some c => if c = '.' then (parseIPv4 s).map .v4 else (parseIPv6 s).map .v6

/-- `net.ParseIP`. -/
def parseIP : Option Addr := parseAddr s

/-- `net.ParseCIDR`. -/
def parseCIDR : Option Cidr :=
  match s.span (· ≠ '/') with
  | (_, []) => none
  | (addr, _ :: mask) => do
    let a ← parseAddr addr
    let ds ← mask.mapM decDigit
    if h : ds ≠ [] ∧ ofDigits 10 ds ≤ a.bitLen then return ⟨a, ofDigits 10 ds, h.2⟩ else none

/-- `net.SplitHostPort`: the port stands after the last colon, and a host with colons in it stands
in brackets. -/
def splitHostPort : Option (List Char × List Char) :=
  match s with
  | '[' :: rest =>
    match rest.span (· ≠ ']') with
    | (host, ']' :: ':' :: port) =>
      if ':' ∈ port ∨ '[' ∈ rest ∨ ']' ∈ port then none else some (host, port)
    | _ => none
  | _ =>
    match s.span (· ≠ ':') with
    | (host, ':' :: port) =>
      if ':' ∈ port ∨ '[' ∈ s ∨ ']' ∈ s then none else some (host, port)
    | _ => none

/-- `unicode.IsSpace`. -/
def isSpace : Bool :=
  c.toNat ∈ [0x9, 0xa, 0xb, 0xc, 0xd, 0x20, 0x85, 0xa0, 0x1680, 0x2028, 0x2029, 0x202f, 0x205f,
    0x3000] ∨ 0x2000 ≤ c.toNat ∧ c.toNat ≤ 0x200a

/-- `strings.TrimSpace`. -/
def trimSpace : List Char :=
  ((s.dropWhile isSpace).reverse.dropWhile isSpace).reverse

end Moebius.Inet
