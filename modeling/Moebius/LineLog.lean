import Mathlib.Data.List.Induction

/-!
Append-only logs.

What a log says last is found from its end. A log may be kept as text, one encoded record a line.
A codec turns records into words and back. When no encoding contains the separator, a log is the
encodings of its records, each followed by the separator; splitting the log at the separators and
decoding the pieces gives the records back.
-/

namespace Moebius

open List Option

variable {α β : Type}

section

variable {ε γ : Type} (decides : ε → Option γ)

def lastDecided (past : List ε) : Option γ := past.reverse.findSome? decides

variable {decides}

@[simp] lemma lastDecided_nil : lastDecided decides [] = none := rfl

lemma lastDecided_snoc (past : List ε) (e : ε) :
    lastDecided decides (past ++ [e]) = (decides e).or (lastDecided decides past) := by
  rw [lastDecided, reverse_append, reverse_singleton, singleton_append, findSome?_cons]
  rcases decides e with _ | c <;> rfl

lemma lastDecided_eq_some_iff {past : List ε} {c : γ} : lastDecided decides past = some c ↔
      ∃ before e after, past = before ++ e :: after ∧ decides e = some c ∧
        ∀ x ∈ after, decides x = none := by
  induction past using reverseRecOn with
  | nil => simp
  | append_singleton past e ih =>
    rw [lastDecided_snoc]
    constructor
    · intro h
      rcases he : decides e with _ | c'
      · rw [he, none_or] at h
        obtain ⟨before, x, after, rfl, hx, hafter⟩ := ih.mp h
        refine ⟨before, x, after ++ [e], by simp, hx, fun y hy => ?_⟩
        rcases mem_append.mp hy with hy | hy
        · exact hafter y hy
        · rw [mem_singleton.mp hy, he]
      · rw [he, some_or] at h
        exact ⟨past, e, [], rfl, he.trans h, by simp⟩
    · rintro ⟨before, x, after, hpast, hx, hafter⟩
      rcases eq_nil_or_concat after with rfl | ⟨after, y, rfl⟩
      · obtain ⟨rfl, h⟩ := append_inj' hpast rfl
        rw [(cons.inj h).1, hx, some_or]
      · have hsplit : past ++ [e] = (before ++ x :: after) ++ [y] := by simpa using hpast
        obtain ⟨rfl, h⟩ := append_inj' hsplit rfl
        have he : decides e = none := by
          rw [(cons.inj h).1]
          exact hafter y (by simp)
        rw [he, none_or]
        exact ih.mpr ⟨before, x, after, rfl, hx, fun z hz => hafter z (by simp [hz])⟩

end

structure Codec (α β : Type) where
  encode : α → List β
  decode : List β → Option α
  decode_encode : ∀ a, decode (encode a) = some a

/-- A codec each of whose encodings is one nonempty line. -/
structure LineCodec (α β : Type) (sep : β) extends Codec α β where
  sep_notMem : ∀ a, sep ∉ encode a
  encode_ne_nil : ∀ a, encode a ≠ []

section

variable [DecidableEq β] (sep : β)

/-- The pieces of `data` between separators, the first of them continuing `line`; a last piece
that no separator ends counts unless it is empty. -/
def splitFrom (line : List β) : List β → List (List β)
  | [] => if line.isEmpty then [] else [line]
  | b :: data => if b = sep then line :: splitFrom [] data else splitFrom (line ++ [b]) data

def splitLines (data : List β) : List (List β) := splitFrom sep [] data

variable {sep}

lemma splitFrom_append {word : List β} (h : sep ∉ word) {line data : List β} :
    splitFrom sep line (word ++ sep :: data) = (line ++ word) :: splitFrom sep [] data := by
  induction word generalizing line with
  | nil => simp [splitFrom]
  | cons b word ih =>
    have hb : b ≠ sep := fun he => h (he ▸ mem_cons_self)
    have hw : sep ∉ word := fun hm => h (mem_cons_of_mem _ hm)
    simp [splitFrom, hb, ih hw]

end

variable {sep : β}

namespace LineCodec

variable (c : LineCodec α β sep)

def line (a : α) : List β := c.encode a ++ [sep]

def log (entries : List α) : List β := entries.flatMap c.line

@[simp] lemma log_nil : c.log [] = [] := rfl

lemma log_append (entries entries' : List α) :
    c.log (entries ++ entries') = c.log entries ++ c.log entries' :=
  flatMap_append

variable [DecidableEq β]

/-- The entries in a log; empty lines and lines that do not decode are skipped. -/
def parse (data : List β) : List α :=
  (splitLines sep data).filterMap fun line => if line.isEmpty then none else c.decode line

end LineCodec

/-- A line of a log that is no entry of it. -/
structure ForeignLine {sep : β} (c : LineCodec α β sep) where
  text : List β
  sep_notMem : sep ∉ text
  undecodable : c.decode text = none

inductive LogLine {sep : β} (c : LineCodec α β sep)
  | entry (a : α)
  | foreign (l : ForeignLine c)

namespace LogLine

variable {c : LineCodec α β sep}

def text : LogLine c → List β
  | .entry a => c.encode a
  | .foreign l => l.text

def entry? : LogLine c → Option α
  | .entry a => some a
  | .foreign _ => none

lemma sep_notMem (l : LogLine c) : sep ∉ l.text := by
  cases l with
  | entry a => exact c.sep_notMem a
  | foreign l => exact l.sep_notMem

lemma decode_text (l : LogLine c) :
    (if l.text.isEmpty then none else c.decode l.text) = l.entry? := by
  cases l with
  | entry a => simp [text, entry?, c.encode_ne_nil a, c.decode_encode]
  | foreign l => simp [text, entry?, l.undecodable]

end LogLine

lemma LineCodec.parse_lines [DecidableEq β] (c : LineCodec α β sep) (lines : List (LogLine c)) :
    c.parse (lines.flatMap fun l => l.text ++ [sep]) = lines.filterMap LogLine.entry? := by
  have hsplit : splitLines sep (lines.flatMap fun l => l.text ++ [sep]) =
      lines.map LogLine.text := by
    induction lines with
    | nil => simp [splitLines, splitFrom]
    | cons l lines ih =>
      rw [flatMap_cons, append_assoc, singleton_append, splitLines,
        splitFrom_append l.sep_notMem, nil_append, ← splitLines, ih, map_cons]
  rw [LineCodec.parse, hsplit, filterMap_map]
  exact congrArg (fun f => lines.filterMap f) (funext LogLine.decode_text)

lemma LineCodec.parse_log [DecidableEq β] (c : LineCodec α β sep) (entries : List α) :
    c.parse (c.log entries) = entries := by
  have hlines : c.log entries =
      (entries.map LogLine.entry).flatMap fun l : LogLine c => l.text ++ [sep] := by
    rw [flatMap_map]
    rfl
  rw [hlines, c.parse_lines, filterMap_map]
  exact filterMap_some

/-! ### From the last entry back -/

/-- Two items change places. -/
def exchange (xs : List α) (i j : ℕ) : List α :=
  match xs[i]?, xs[j]? with
  | some x, some y => (xs.set i y).set j x
  | _, _ => xs

/-- Two indices move towards each other, and the items they pass change places. -/
def reverseBetween (xs : List α) (i j : ℕ) : List α :=
  if i < j then reverseBetween (exchange xs i j) (i + 1) (j - 1) else xs
termination_by j - i

lemma exchange_ends {before after mid : List α} {a b : α} :
    exchange (before ++ (a :: (mid ++ [b])) ++ after) before.length
        (before.length + (mid.length + 1)) = before ++ (b :: (mid ++ [a])) ++ after := by
  simp [exchange, set_append_right]

/-- What lies between the indices is turned round. -/
lemma reverseBetween_mid (before mid after : List α) :
    reverseBetween (before ++ mid ++ after) before.length (before.length + mid.length - 1) =
      before ++ mid.reverse ++ after := by
  -- from both ends of the part that is not yet reversed, as the loop goes
  induction mid using bidirectionalRec generalizing before after with
  | nil | singleton a =>
    rw [reverseBetween, if_neg (by simp)]
    rfl
  | cons_append a mid b ih =>
    have hlast : before.length + (a :: (mid ++ [b])).length - 1 =
        before.length + (mid.length + 1) := by
      simp only [length_cons, length_append, length_nil]
      omega
    have hnext : before.length + (mid.length + 1) - 1 =
        (before ++ [b]).length + mid.length - 1 := by
      simp only [length_append, length_cons, length_nil]
      omega
    have hmoved : before ++ (b :: (mid ++ [a])) ++ after =
        (before ++ [b]) ++ mid ++ (a :: after) := by simp
    rw [hlast, reverseBetween, if_pos (by omega), exchange_ends, hnext, hmoved,
      show before.length + 1 = (before ++ [b]).length by simp, ih]
    simp

lemma reverseBetween_eq (xs : List α) : reverseBetween xs 0 (xs.length - 1) = xs.reverse := by
  have h := reverseBetween_mid [] xs []
  simpa using h

/-- The last `limit` items, or all if `limit` is not positive, the last one first. -/
def lastFirst (limit : Int) (xs : List α) : List α :=
  if limit > 0 then xs.reverse.take limit.toNat else xs.reverse

end Moebius
