import Mathlib.Data.List.Basic

/-!
Lines from a stream, as Go's `bufio.Scanner` returns them.

The scanner holds a part of the stream in a buffer, which grows up to a limit. A read returns what
has arrived, as far as there is room. However the stream is cut, a scan returns the next line if
the line and its newline fit into the buffer.
-/

namespace Moebius

open List

inductive ScanError
  | eof | tooLong | noProgress
  deriving DecidableEq

structure LineFormat (β : Type) where
  newline : β
  cr : β
  maxTokenSize : ℕ

/-- A buffer of `size` with `held` in it from `start` on, and what is still to arrive, in the pieces
in which it arrives. -/
structure Scanner (β : Type) where
  size : ℕ
  start : ℕ := 0
  held : List β := []
  err : Option ScanError := none
  input : List (List β)

/-- A read waits until something has arrived, and finds nothing only at the end. -/
def readInto {β : Type} (room : ℕ) : List (List β) → Option (List β × List (List β))
  | [] => none
  | [] :: input => readInto room input
  | piece :: input => some (piece.take room, piece.drop room :: input)

namespace Scanner

variable {β : Type} (s : Scanner β)

def rest : List β := s.held ++ s.input.flatten

def shift : Scanner β :=
  if 0 < s.start ∧ (s.start + s.held.length = s.size ∨ s.size / 2 < s.start) then
    { s with start := 0 }
  else s

/-- A full buffer is doubled, up to the limit. -/
def grow (F : LineFormat β) : Option (Scanner β) :=
  if s.start + s.held.length = s.size then
    if F.maxTokenSize ≤ s.size then none
    else
      let size := if s.size = 0 then 4096 else s.size * 2
      some { s with size := min size F.maxTokenSize, start := 0 }
  else some s

def fill : Scanner β :=
  match readInto (s.size - (s.start + s.held.length)) s.input with
  | none => { s with err := some .eof, input := [] }
  | some (data, input) =>
    { s with
      held := s.held ++ data, input
      err := if data.isEmpty then some .noProgress else s.err }

/-- What the scanner has to read before it stops. -/
def pending : ℕ := if s.err.isSome then 0 else s.input.flatten.length + 1

structure Sound : Prop where
  size_pos : 0 < s.size
  fits : s.start + s.held.length ≤ s.size
  ended : s.err = none ∨ s.err = some .eof ∧ s.input.flatten = []

variable {s} {F : LineFormat β}

lemma readInto_some {room : ℕ} {input input' : List (List β)} {data : List β}
    (h : readInto room input = some (data, input')) : data ++ input'.flatten = input.flatten ∧
      data.length ≤ room ∧ (0 < room → data ≠ []) := by
  fun_induction readInto room input with
  | case1 => cases h
  | case2 input ih => exact ih h
  | case3 piece input hne =>
    cases h
    refine ⟨by simp [← append_assoc], length_take_le _ _, fun hroom hnil => ?_⟩
    rcases take_eq_nil_iff.mp hnil with h0 | hpiece
    · omega
    · exact hne hpiece

lemma grow_some {s' : Scanner β} (h : s.shift.grow F = some s') :
    s'.held = s.held ∧ s'.input = s.input ∧ s'.err = s.err := by
  unfold grow shift at h
  split at h <;> split at h <;> (try split at h) <;> cases h <;> exact ⟨rfl, rfl, rfl⟩

lemma pending_fill (h : s.err = none) : s.fill.pending < s.pending := by
  unfold fill
  rcases hread : readInto (s.size - (s.start + s.held.length)) s.input with _ | ⟨data, input⟩
  · simp [pending, h]
  · have hlength := congrArg length (readInto_some hread).1
    rw [length_append] at hlength
    rcases data with _ | ⟨b, data⟩
    · simp [pending, h]
    · simp only [pending, h, isEmpty_cons, length_cons] at hlength ⊢
      simp only [Bool.false_eq_true, if_false, Option.isSome_none]
      omega

variable [DecidableEq β] (F)

def dropCR (line : List β) : List β :=
  if line.getLast? = some F.cr then line.dropLast else line

/-- `ScanLines`: how far to advance, and the line. -/
def scanLines (data : List β) (atEOF : Bool) : Option (ℕ × List β) :=
  if F.newline ∈ data then
    let line := data.takeWhile (· ≠ F.newline)
    some (line.length + 1, dropCR F line)
  else if atEOF && !data.isEmpty then some (data.length, dropCR F data)
  else none

def scan (s : Scanner β) : Option (List β) × Scanner β :=
  match scanLines F s.held s.err.isSome with
  | some (advance, line) =>
    (some line, { s with start := s.start + advance, held := s.held.drop advance })
  | none =>
    if _herr : s.err.isSome then (none, { s with start := 0, held := [] })
    else
      match _hgrow : s.shift.grow F with
      | none => (none, { s.shift with err := some .tooLong })
      | some s' => scan s'.fill
termination_by s.pending
decreasing_by
  obtain ⟨-, hinput, heq⟩ := grow_some _hgrow
  have hnone : s'.err = none := by simpa [heq] using _herr
  have hpending : s'.pending = s.pending := by rw [pending, pending, heq, hinput]
  exact hpending ▸ pending_fill hnone

variable {F}

end Scanner

end Moebius
