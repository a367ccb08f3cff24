import Mathlib.Data.Prod.Lex
import Moebius.Fairness
import Moebius.UploadThreads

/-!
Whether completing an upload comes to an end.

The handler and the goroutine it has started both get their turns, and whatever else happens to the
store between them, each turn brings the completion closer to its end or leaves it as it is. One
state is an end of another kind: the goroutine has failed, nobody reads from the pipe any more, and
the handler waits for its bytes to be read. `Save` does not close the end it reads from.
-/

namespace Moebius.Upload

open CompleteStage Completion Prod.Lex Or Nat List

variable {β κ : Type}

namespace CompleteStage

/-- The part of the request the handler is in, counted from its end. -/
def phase : CompleteStage β → ℕ
  | .selecting => 12
  | .loadingSHA _ => 11
  | .reading .. => 10
  | .sending .. => 10
  | .waiting .. => 9
  | .loadingSignature .. => 8
  | .loadingKey .. => 7
  | .storing .. => 6
  | .completing _ => 5
  | .cleaning _ => 4
  | .logging _ => 3
  | .returning _ => 2
  | .deleting .. => 1
  | .answered _ => 0

def chunksLeft : CompleteStage β → ℕ
  | .reading row _ i _ => 2 * (row.totalChunks - i).toNat + 1
  | .sending row _ i _ => 2 * (row.totalChunks - (i + 1)).toNat + 2
  | _ => 0

def distance (stage : CompleteStage β) : ℕ ×ₗ ℕ := toLex (stage.phase, stage.chunksLeft)

variable {a b : CompleteStage β}

lemma distance_lt_of_phase (h : a.phase < b.phase) : a.distance < b.distance :=
  toLex_lt_toLex.mpr (inl h)

lemma distance_lt_of_chunksLeft (h : a.phase = b.phase) (hleft : a.chunksLeft < b.chunksLeft) :
    a.distance < b.distance :=
  toLex_lt_toLex.mpr (inr ⟨h, hleft⟩)

end CompleteStage

/-- How far the background save is from its end, if nothing more is sent. -/
def Saver.distance : Saver β → ℕ
  | .idle => 6
  | .starting => 5
  | .creating => 4
  | .holding .. => 3
  | .copying .. => 2
  | .removing => 1
  | .done _ => 0

/-- The bytes that wait, and the write that waits with them. -/
def Pipe.waiting (p : Pipe β) : ℕ :=
  match p.pending with
  | none => 0
  | some data => data.length + 1

namespace Completion

def distance (c : Completion β) : (ℕ ×ₗ ℕ) ×ₗ (ℕ ×ₗ ℕ) :=
  toLex (c.stage.distance, toLex (c.pipe.waiting, c.saver.distance))

/-! ### Who can go on -/

def HandlerReady (c : Completion β) : Prop :=
  match c.stage with
  | .sending .. => c.pipe.readClosed = true ∨ c.pipe.pending = none
  | .waiting .. => ∃ ok, c.saver = .done ok
  | .answered _ => False
  | _ => True

def SaverReady (c : Completion β) : Prop :=
  match c.saver with
  | .idle => False
  | .copying .. => c.pipe.pending ≠ none ∨ c.pipe.writeEnd ≠ .opened
  | .done _ => False
  | _ => True

/-- The handler waits for a read that nobody is going to make. -/
def Stuck (c : Completion β) : Prop :=
  ¬ c.HandlerReady ∧ (∃ ok, c.saver = .done ok) ∧ ∀ r, c.stage ≠ .answered r

section

variable (cfg : Config β κ) (k : Tick) (s : Store β) (c : Completion β)

lemma stepHandler_of_not_ready (h : ¬ c.HandlerReady) : (c.stepHandler cfg k s).2 = c := by
  unfold HandlerReady at h
  unfold stepHandler
  split
  all_goals rename_i hstage
  all_goals rw [hstage] at h
  case h_4 =>
    obtain ⟨hclosed, hpending⟩ := not_or.mp h
    rw [if_neg hclosed]
    split
    · rfl
    · rename_i hnone
      exact absurd hnone hpending
  case h_5 =>
    split
    · rename_i hsaver
      exact absurd ⟨_, hsaver⟩ h
    · rename_i hsaver
      exact absurd ⟨_, hsaver⟩ h
    · rfl
  all_goals exact absurd trivial h

lemma stepHandler_closer (h : c.HandlerReady) :
    (c.stepHandler cfg k s).2.stage.distance < c.stage.distance := by
  unfold HandlerReady at h
  unfold stepHandler
  rcases hstage : c.stage
  all_goals rw [hstage] at h
  case reading =>
    dsimp only
    split
    · rename_i hmore
      split
      · exact distance_lt_of_phase (zero_lt_succ _)
      · refine distance_lt_of_chunksLeft rfl ?_
        simp only [goto, chunksLeft]
        omega
    · exact distance_lt_of_phase (lt_succ_self _)
  case sending =>
    dsimp only
    by_cases hclosed : c.pipe.readClosed = true
    · rw [if_pos hclosed]
      exact distance_lt_of_phase (zero_lt_succ _)
    · rw [if_neg hclosed, h.resolve_left hclosed]
      refine distance_lt_of_chunksLeft rfl ?_
      simp only [goto, chunksLeft]
      omega
  case waiting =>
    obtain ⟨ok, hsaver⟩ := h
    rw [hsaver]
    cases ok
    · exact distance_lt_of_phase (zero_lt_succ _)
    · dsimp only
      split
      · exact distance_lt_of_phase (by simp [goto, phase])
      · exact distance_lt_of_phase (lt_succ_self _)
  case answered => exact absurd h id
  -- the other stages always lead on
  all_goals
    dsimp only
    repeat' split
    all_goals
      exact distance_lt_of_phase (by simp [goto, answer, phase])

lemma stepSaver_of_not_ready (h : ¬ c.SaverReady) : (c.stepSaver cfg k s).2 = c := by
  unfold SaverReady at h
  unfold stepSaver
  rcases hsaver : c.saver
  all_goals rw [hsaver] at h
  case copying =>
    obtain ⟨hpending, hopened⟩ := not_or.mp h
    rw [not_not.mp hpending, not_not.mp hopened]
  all_goals exact absurd trivial h

lemma stepSaver_stage : (c.stepSaver cfg k s).2.stage = c.stage := by
  unfold stepSaver
  split <;> repeat' split
  all_goals rfl

lemma waiting_receive {data : List β} (h : c.pipe.pending = some data) :
    (c.receive data).pipe.waiting < c.pipe.waiting := by
  have hbefore : c.pipe.waiting = data.length + 1 := by
    rw [Pipe.waiting, h]
  rw [hbefore]
  unfold receive Pipe.waiting
  rcases hrest : data.drop bufferSize with _ | ⟨b, rest⟩
  · simp
  · have hlength := congrArg length hrest
    rw [length_drop, length_cons] at hlength
    simp only [isEmpty_cons, Bool.false_eq_true, if_false, length_cons]
    unfold bufferSize at hlength
    omega

lemma stepSaver_closer (h : c.SaverReady) :
    toLex ((c.stepSaver cfg k s).2.pipe.waiting, (c.stepSaver cfg k s).2.saver.distance) <
      toLex (c.pipe.waiting, c.saver.distance) := by
  unfold SaverReady at h
  unfold stepSaver
  rcases hsaver : c.saver
  all_goals rw [hsaver] at h
  case idle => exact absurd h id
  case done => exact absurd h id
  case copying =>
    rcases hpending : c.pipe.pending with _ | data
    · have hclosed : c.pipe.writeEnd ≠ .opened := h.resolve_left (not_not.mpr hpending)
      refine toLex_lt_toLex.mpr (inr ?_)
      rcases hend : c.pipe.writeEnd with _ | _ | _
      · exact absurd hend hclosed
      · exact ⟨rfl, by simp [setSaver, Saver.distance]⟩
      · exact ⟨rfl, by simp [setSaver, Saver.distance]⟩
    · exact toLex_lt_toLex.mpr (inl (c.waiting_receive hpending))
  case removing => exact toLex_lt_toLex.mpr (inr ⟨rfl, zero_lt_one⟩)
  -- before the copy, and with a piece in hand: on, or out
  all_goals
    dsimp only
    split <;>
      exact toLex_lt_toLex.mpr (inr ⟨rfl, by simp [setSaver, Saver.distance]⟩)

/-- **Every turn** leaves the completion as it is or brings it closer to its end. -/
lemma step_same_or_closer : (c.step cfg k s).2 = c ∨ (c.step cfg k s).2.distance < c.distance := by
  unfold step
  split
  · by_cases h : c.SaverReady
    · refine inr (toLex_lt_toLex.mpr (inr ⟨?_, c.stepSaver_closer cfg k s h⟩))
      rw [stepSaver_stage]
    · exact inl (c.stepSaver_of_not_ready cfg k s h)
  · by_cases h : c.HandlerReady
    · exact inr (toLex_lt_toLex.mpr (inl (c.stepHandler_closer cfg k s h)))
    · exact inl (c.stepHandler_of_not_ready cfg k s h)

end

/-- The goroutine is started before the loop over the chunks, and the pipe is closed after it; bytes
wait only while the handler is in `pw.Write`. -/
def Sane (c : Completion β) : Prop :=
  c.pipe.readClosed = false ∧
    match c.stage with
    | .selecting | .loadingSHA _ =>
      c.saver = .idle ∧ c.pipe.writeEnd = .opened ∧ c.pipe.pending = none
    | .reading .. => c.saver ≠ .idle ∧ c.pipe.writeEnd = .opened ∧ c.pipe.pending = none
    | .sending .. => c.saver ≠ .idle ∧ c.pipe.writeEnd = .opened
    | .answered _ => (c.saver = .idle ∨ c.pipe.writeEnd ≠ .opened) ∧ c.pipe.pending = none
    | _ => c.saver ≠ .idle ∧ c.pipe.writeEnd ≠ .opened ∧ c.pipe.pending = none

/-- The handler has answered and the goroutine is through. -/
def Over (c : Completion β) : Prop := (∃ r, c.stage = .answered r) ∧ c.saver.Settled

section

variable (cfg : Config β κ) (k : Tick) (s : Store β) {c : Completion β}

lemma stepSaver_writeEnd : (c.stepSaver cfg k s).2.pipe.writeEnd = c.pipe.writeEnd := by
  unfold stepSaver
  split <;> repeat' split
  all_goals rfl

lemma stepSaver_idle_iff : (c.stepSaver cfg k s).2.saver = .idle ↔ c.saver = .idle := by
  unfold stepSaver
  rcases hsaver : c.saver
  case idle => simp [hsaver]
  case done => simp [hsaver]
  all_goals
    repeat' split
    all_goals simp_all [setSaver]

lemma Sane.stepSaver (h : c.Sane) : (c.stepSaver cfg k s).2.Sane := by
  have hidle := stepSaver_idle_iff cfg k s (c := c)
  obtain ⟨v, saver, pending, hstep, hnone⟩ := stepSaver_frame cfg k s c
  rw [hstep] at hidle ⊢
  unfold Sane at h ⊢
  rcases hstage : c.stage
  all_goals
    simp only [hstage] at h ⊢
    grind

lemma Sane.stepHandler (h : c.Sane) : (c.stepHandler cfg k s).2.Sane := by
  unfold Sane at h
  unfold Completion.stepHandler
  rcases hstage : c.stage
  all_goals
    rw [hstage] at h
    repeat' split
    all_goals simp_all [Sane, goto, answer, closePipe, send]

lemma Sane.step (h : c.Sane) : (c.step cfg k s).2.Sane := by
  unfold Completion.step
  split
  · exact h.stepSaver cfg k s
  · exact h.stepHandler cfg k s

lemma Sane.ready (h : c.Sane) (hover : ¬ c.Over) (hstuck : ¬ c.Stuck) :
    c.HandlerReady ∨ c.SaverReady := by
  by_contra hnot
  obtain ⟨hhandler, hsaver⟩ := not_or.mp hnot
  have hanswered (hsettled : c.saver.Settled) : ∀ r, c.stage ≠ .answered r :=
    fun r hr => hover ⟨⟨r, hr⟩, hsettled⟩
  unfold SaverReady at hsaver
  rcases hs : c.saver with _ | _ | _ | ⟨n, off⟩ | ⟨n, off, piece⟩ | _ | ok
  all_goals rw [hs] at hsaver
  case idle =>
    have hanswered := hanswered (by rw [hs]; trivial)
    unfold Sane at h
    unfold HandlerReady at hhandler
    rcases hstage : c.stage
    all_goals simp_all
  case done => exact hstuck ⟨hhandler, ⟨ok, hs⟩, hanswered (by rw [hs]; trivial)⟩
  case copying =>
    -- nothing to read from an open pipe: the handler is in its loop, and not waiting
    obtain ⟨hpending, hopened⟩ := not_or.mp hsaver
    unfold Sane at h
    unfold HandlerReady at hhandler
    rcases hstage : c.stage
    all_goals simp_all
  all_goals exact hsaver trivial

lemma step_of_not_ready (hhandler : ¬ c.HandlerReady) (hsaver : ¬ c.SaverReady) :
    (c.step cfg k s).2 = c := by
  unfold step
  split
  · exact c.stepSaver_of_not_ready cfg k s hsaver
  · exact c.stepHandler_of_not_ready cfg k s hhandler

lemma Over.step (h : c.Over) : (c.step cfg k s).2 = c := by
  obtain ⟨⟨r, hr⟩, hsettled⟩ := h
  refine step_of_not_ready cfg k s ?_ ?_
  · rw [HandlerReady, hr]
    exact id
  · unfold SaverReady
    rcases hs : c.saver
    all_goals rw [hs] at hsettled
    case idle => exact id
    case done => exact id
    all_goals exact absurd hsettled id

lemma Stuck.step (h : c.Stuck) : (c.step cfg k s).2 = c := by
  obtain ⟨hhandler, ⟨ok, hs⟩, -⟩ := h
  refine step_of_not_ready cfg k s hhandler ?_
  rw [SaverReady, hs]
  exact id

/-- `Save` fails in this turn: it has no directory, no file, or a piece it cannot write. -/
def GivesUp (k : Tick) (c : Completion β) : Prop :=
  k.saver = true ∧ k.fault = true ∧
    match c.saver with
    | .starting | .creating | .holding .. => True
    | _ => False

/-- `Save` reads no more. -/
def Gone (c : Completion β) : Prop := c.saver = .removing ∨ ∃ ok, c.saver = .done ok

/-- The goroutine has not given up while the pipe is open. -/
def Patient (c : Completion β) : Prop := c.Gone → c.pipe.writeEnd ≠ .opened

lemma Patient.not_stuck (h : c.Patient) (hsane : c.Sane) : ¬ c.Stuck := by
  rintro ⟨hhandler, ⟨ok, hs⟩, hanswered⟩
  have hclosed := h (inr ⟨ok, hs⟩)
  unfold HandlerReady at hhandler
  unfold Sane at hsane
  rcases hstage : c.stage
  all_goals simp_all

lemma Patient.stepSaver (h : c.Patient) (hturn : k.saver = true) (hk : ¬ c.GivesUp k) :
    (c.stepSaver cfg k s).2.Patient := by
  intro hgone
  rw [stepSaver_writeEnd]
  -- without a failure it only leaves a pipe that the handler has closed
  unfold GivesUp at hk
  unfold Gone Completion.stepSaver at hgone
  rcases hs : c.saver with _ | _ | _ | ⟨n, off⟩ | ⟨n, off, piece⟩ | _ | ok
  case idle => simp [hs] at hgone
  case removing => exact h (inl hs)
  case done => exact h (inr ⟨ok, hs⟩)
  case copying =>
    intro hopened
    rcases hpending : c.pipe.pending <;> simp [hs, hpending, hopened, setSaver] at hgone
  all_goals
    have hfault : k.fault ≠ true := fun hfault => hk ⟨hturn, hfault, by rw [hs]; trivial⟩
    simp [hs, hfault, setSaver] at hgone

lemma stepHandler_saver : (c.stepHandler cfg k s).2.saver = c.saver ∨
    (c.stepHandler cfg k s).2.saver = .starting ∧ ∃ row, c.stage = .loadingSHA row := by
  unfold stepHandler
  split <;> repeat' split
  all_goals first
    | exact inl rfl
    | exact inr ⟨rfl, _, ‹_›⟩

lemma stepHandler_closed (h : c.pipe.writeEnd ≠ .opened) :
    (c.stepHandler cfg k s).2.pipe.writeEnd ≠ .opened := by
  unfold stepHandler
  split <;> repeat' split
  all_goals first
    | exact h
    | simp [closePipe, answer, goto]

lemma Patient.stepHandler (h : c.Patient) : (c.stepHandler cfg k s).2.Patient := by
  intro hgone
  rcases stepHandler_saver cfg k s (c := c) with hsame | ⟨hstarting, -⟩
  · rw [Gone, hsame] at hgone
    exact stepHandler_closed cfg k s (h hgone)
  · rw [Gone, hstarting] at hgone
    simp at hgone

lemma Patient.step (h : c.Patient) (hk : ¬ c.GivesUp k) : (c.step cfg k s).2.Patient := by
  unfold Completion.step
  split
  · rename_i hturn
    exact h.stepSaver cfg k s hturn hk
  · exact h.stepHandler cfg k s

lemma Sane.sending (h : c.Sane) (hpending : c.pipe.pending ≠ none) :
    ∃ row sha i data, c.stage = .sending row sha i data := by
  unfold Sane at h
  rcases hstage : c.stage
  all_goals simp_all

lemma Sane.pending_of_closed (h : c.Sane) (hclosed : c.pipe.writeEnd ≠ .opened) :
    c.pipe.pending = none := by
  by_contra hpending
  obtain ⟨row, sha, i, data, hstage⟩ := h.sending hpending
  rw [Sane, hstage] at h
  exact hclosed h.2.2

lemma GivesUp.step (h : c.GivesUp k) :
    (c.step cfg k s).2.Gone ∧ (c.step cfg k s).2.pipe = c.pipe := by
  obtain ⟨hturn, hfault, hs⟩ := h
  rw [Completion.step, if_pos hturn]
  unfold Completion.stepSaver
  rcases hsaver : c.saver
  all_goals rw [hsaver] at hs
  case starting | creating | holding => simp [hfault, Gone, setSaver]
  all_goals exact absurd hs id

lemma Gone.stepSaver (h : c.Gone) :
    (c.stepSaver cfg k s).2.Gone ∧ (c.stepSaver cfg k s).2.pipe = c.pipe := by
  unfold Completion.stepSaver
  rcases h with hs | ⟨ok, hs⟩ <;> rw [hs]
  · exact ⟨inr ⟨false, rfl⟩, rfl⟩
  · exact ⟨inr ⟨ok, hs⟩, rfl⟩

lemma Gone.step (h : c.Gone) (hsane : c.Sane) : (c.step cfg k s).2.Gone := by
  unfold Completion.step
  split
  · exact (h.stepSaver cfg k s).1
  · rcases stepHandler_saver cfg k s (c := c) with hsame | ⟨-, row, hstage⟩
    · rwa [Gone, hsame]
    · rw [Sane, hstage] at hsane
      rcases h with hs | ⟨ok, hs⟩ <;> cases hs.symm.trans hsane.2.1

/-- The handler is in `pw.Write`, and nobody is going to read. -/
structure Deserted (c : Completion β) : Prop where
  gone : c.Gone
  pending : c.pipe.pending ≠ none

lemma Deserted.step (h : c.Deserted) (hsane : c.Sane) : (c.step cfg k s).2.Deserted := by
  refine ⟨h.gone.step cfg k s hsane, ?_⟩
  unfold Completion.step
  split
  · rw [(h.gone.stepSaver cfg k s).2]
    exact h.pending
  · obtain ⟨row, sha, i, data, hstage⟩ := hsane.sending h.pending
    rw [c.stepHandler_of_not_ready cfg k s]
    · exact h.pending
    · rw [HandlerReady, hstage, hsane.1]
      simp [h.pending]

lemma Deserted.not_over (h : c.Deserted) (hsane : c.Sane) : ¬ c.Over := by
  rintro ⟨⟨r, hr⟩, -⟩
  obtain ⟨row, sha, i, data, hstage⟩ := hsane.sending h.pending
  cases hstage.symm.trans hr

lemma Stuck.deserted (h : c.Stuck) : c.Deserted := by
  obtain ⟨hhandler, ⟨ok, hs⟩, hanswered⟩ := h
  refine ⟨inr ⟨ok, hs⟩, fun hnone => ?_⟩
  unfold HandlerReady at hhandler
  rcases hstage : c.stage
  all_goals simp_all

end

end Completion

/-! ### Whole runs -/

/-- Who gets the turns and what fails in them, and the store that each of them finds; whatever
others do to the store between the turns, the handler and the goroutine both get theirs again and
again. -/
structure Schedule (β : Type) where
  store : ℕ → Store β
  tick : ℕ → Tick
  fair : ∀ b n, ∃ m ≥ n, (tick m).saver = b

namespace Schedule

variable (x : Schedule β) (cfg : Config β κ) (c : Completion β)

def after : ℕ → Completion β
  | 0 => c
  | n + 1 => ((after n).step cfg (x.tick n) (x.store n)).2

variable {x cfg c}

lemma sane_after (h : c.Sane) (n : ℕ) : (x.after cfg c n).Sane := by
  induction n with
  | zero => exact h
  | succ n ih => exact ih.step cfg (x.tick n) (x.store n)

lemma after_of_fixed {n : ℕ}
    (h : ∀ k s, ((x.after cfg c n).step cfg k s).2 = x.after cfg c n) {m : ℕ} (hm : n ≤ m) :
    x.after cfg c m = x.after cfg c n := by
  induction m, hm using le_induction with
  | base => rfl
  | succ m _ ih => rw [after, ih, h]

/-- **Progress**: a run comes to one of its two ends. -/
lemma over_or_stuck (h : c.Sane) : ∃ n, (x.after cfg c n).Over ∨ (x.after cfg c n).Stuck := by
  have hstep : ∀ n, x.after cfg c (n + 1) = x.after cfg c n ∨
      (x.after cfg c (n + 1)).distance < (x.after cfg c n).distance :=
    fun n => (x.after cfg c n).step_same_or_closer cfg (x.tick n) (x.store n)
  refine reaches_of_progress (G := fun c => c.Over ∨ c.Stuck) x.fair hstep fun n hgoal => ?_
  obtain ⟨hover, hstuck⟩ := not_or.mp hgoal
  rcases (sane_after h n).ready hover hstuck with hready | hready
  · refine ⟨false, fun m hm hturn => ?_⟩
    rw [← hm] at hready
    have hstep : x.after cfg c (m + 1) =
        ((x.after cfg c m).stepHandler cfg (x.tick m) (x.store m)).2 := by
      rw [after, step, if_neg (by simpa using hturn)]
    rw [hstep]
    exact toLex_lt_toLex.mpr (inl (stepHandler_closer _ _ _ _ hready))
  · refine ⟨true, fun m hm hturn => ?_⟩
    rw [← hm] at hready
    have hstep : x.after cfg c (m + 1) =
        ((x.after cfg c m).stepSaver cfg (x.tick m) (x.store m)).2 := by
      rw [after, step, if_pos hturn]
    rw [hstep]
    exact toLex_lt_toLex.mpr (inr ⟨by rw [stepSaver_stage], stepSaver_closer _ _ _ _ hready⟩)

lemma over_iff (h : c.Sane) :
    (∃ n, ∀ m ≥ n, (x.after cfg c m).Over) ↔ ∀ n, ¬ (x.after cfg c n).Stuck := by
  constructor
  · rintro ⟨n, hn⟩ n' hstuck
    have hsame := after_of_fixed (fun k s => hstuck.step cfg k s) (le_max_right n n')
    obtain ⟨⟨r, hr⟩, -⟩ := hn (max n n') (le_max_left n n')
    rw [hsame] at hr
    exact hstuck.2.2 r hr
  · intro hfree
    obtain ⟨n, hend⟩ : ∃ n, (x.after cfg c n).Over ∨ (x.after cfg c n).Stuck := over_or_stuck h
    rcases hend with hover | hstuck
    · refine ⟨n, fun m hm => ?_⟩
      rw [after_of_fixed (fun k s => hover.step cfg k s) hm]
      exact hover
    · exact absurd hstuck (hfree n)

/-- Nothing waits in the pipe from the `n`th turn on. -/
def Drained (x : Schedule β) (cfg : Config β κ) (c : Completion β) (n : ℕ) : Prop :=
  ∀ m ≥ n, (x.after cfg c m).pipe.pending = none

lemma patient_after (h : c.Patient) {n : ℕ}
    (hstays : ∀ m < n, ¬ (x.after cfg c m).GivesUp (x.tick m)) : (x.after cfg c n).Patient := by
  induction n with
  | zero => exact h
  | succ n ih =>
    have hpatient := ih fun m hm => hstays m (hm.trans n.lt_succ_self)
    exact hpatient.step cfg (x.tick n) (x.store n) (hstays n n.lt_succ_self)

lemma gone_after (hsane : c.Sane) {n : ℕ} (h : (x.after cfg c n).GivesUp (x.tick n)) {m : ℕ}
    (hm : n < m) : (x.after cfg c m).Gone := by
  induction m, hm using le_induction with
  | base => exact (h.step cfg (x.tick n) (x.store n)).1
  | succ m _ ih => exact ih.step cfg (x.tick m) (x.store m) (sane_after hsane m)

lemma deserted_after (hsane : c.Sane) {n : ℕ} (h : (x.after cfg c n).Deserted) {m : ℕ}
    (hm : n ≤ m) : (x.after cfg c m).Deserted := by
  induction m, hm using le_induction with
  | base => exact h
  | succ m _ ih => exact ih.step cfg (x.tick m) (x.store m) (sane_after hsane m)

lemma drained_of_closed (hsane : c.Sane) {n : ℕ}
    (h : (x.after cfg c n).pipe.writeEnd ≠ .opened) : x.Drained cfg c n := by
  intro m hm
  refine (sane_after hsane m).pending_of_closed ?_
  induction m, hm using le_induction with
  | base => exact h
  | succ m _ ih =>
    rw [after, step]
    split
    · rwa [stepSaver_writeEnd]
    · exact stepHandler_closed cfg (x.tick m) (x.store m) ih

/-- **The point of failure decides**: the completion ends exactly if `Save` fails, if at all, only
once it has read all that the handler sends. -/
lemma over_iff_drained (hsane : c.Sane) (hpatient : c.Patient) :
    (∃ n, ∀ m ≥ n, (x.after cfg c m).Over) ↔
      ∀ n, (x.after cfg c n).GivesUp (x.tick n) → x.Drained cfg c n := by
  constructor
  · rintro ⟨n', hover⟩ n hgives m hm
    by_contra hpending
    -- the turn in which it gives up leaves the pipe as it is
    obtain ⟨m', hm', hpending'⟩ : ∃ m' > n, (x.after cfg c m').pipe.pending ≠ none := by
      rcases hm.eq_or_lt with rfl | hlt
      · refine ⟨n + 1, n.lt_succ_self, ?_⟩
        rw [after, (hgives.step cfg (x.tick n) (x.store n)).2]
        exact hpending
      · exact ⟨m, hlt, hpending⟩
    have hdeserted := deserted_after hsane ⟨gone_after hsane hgives hm', hpending'⟩
      (le_max_left m' n')
    exact hdeserted.not_over (sane_after hsane _) (hover _ (le_max_right m' n'))
  · refine fun hdrained => (over_iff hsane).mpr fun n hstuck => ?_
    by_cases hstays : ∀ m < n, ¬ (x.after cfg c m).GivesUp (x.tick m)
    · exact (patient_after hpatient hstays).not_stuck (sane_after hsane n) hstuck
    · push Not at hstays
      obtain ⟨m, hm, hgives⟩ := hstays
      exact hstuck.deserted.pending (hdrained m hgives n hm.le)

end Schedule

/-- **When completing an upload ends.** Whatever turns the handler and its goroutine get, both end
exactly if `Save` fails, if at all, only once it has read all that the handler ever sends; or, what
is the same, if the handler never waits for a read when the goroutine is through. That holds if
saving fails only after the handler has closed the pipe, or never. -/
theorem completion_ends (cfg : Config β κ) (env : Env) (caller : Caller) (uploadID : String)
    (x : Schedule β) :
    let start : Completion β := { env, caller, uploadID }
    let c := x.after cfg start
    ((∃ n, ∀ m ≥ n, (c m).Over) ↔ ∀ n, (c n).GivesUp (x.tick n) → x.Drained cfg start n) ∧
      ((∃ n, ∀ m ≥ n, (c m).Over) ↔ ∀ n, ¬ (c n).Stuck) ∧
      ((∀ n, (x.tick n).saver = true → (x.tick n).fault = true →
          (c n).pipe.writeEnd ≠ .opened) →
        ∃ n, ∀ m ≥ n, (c m).Over) := by
  intro start c
  have hsane : start.Sane := ⟨rfl, rfl, rfl, rfl⟩
  have hpatient : start.Patient := by
    rintro (h | ⟨ok, h⟩) <;> cases h
  have hexact : (∃ n, ∀ m ≥ n, (c m).Over) ↔
      ∀ n, (c n).GivesUp (x.tick n) → x.Drained cfg start n :=
    Schedule.over_iff_drained hsane hpatient
  refine ⟨hexact, Schedule.over_iff hsane, fun hlate => hexact.mpr fun n hgives => ?_⟩
  exact Schedule.drained_of_closed hsane (hlate n hgives.1 hgives.2.1)

/-- The handler starts the goroutine, which cannot make its directory; then the handler reads the
chunk and sends it. -/
def Sample.hangingTick (n : ℕ) : Tick :=
  if n = 2 then { saver := true, fault := true }
  else if n < 4 then {}
  else { saver := n % 2 == 0 }

def Sample.hanging : Schedule ℕ where
  store := fun _ => store
  tick := hangingTick
  fair := by
    intro b n
    cases b
    · refine ⟨2 * n + 5, by omega, ?_⟩
      have hodd : (2 * n + 5) % 2 = 1 := by omega
      simp [hangingTick, hodd]
    · refine ⟨2 * n + 4, by omega, ?_⟩
      have heven : (2 * n + 4) % 2 = 0 := by omega
      have hlate : ¬ 2 * n + 4 < 4 := by omega
      simp [hangingTick, heven, hlate]

open Upload.Sample in
/-- A save that cannot even begin leaves the handler waiting for ever. -/
theorem completion_hangs :
    let c := hanging.after cfg
      { env := env 0 "c", caller := caller, uploadID := "upl" }
    ∀ n r, (c n).stage ≠ .answered r := by
  intro c n r
  have hstuck : (c 4).Stuck := by
    refine ⟨?_, ⟨false, rfl⟩, ?_⟩
    · rintro (hclosed | hread)
      · cases hclosed
      · cases hread
    · intro r h
      cases h
  by_cases hn : n < 4
  · -- on its way to the pipe
    rcases (by omega : n = 0 ∨ n = 1 ∨ n = 2 ∨ n = 3) with rfl | rfl | rfl | rfl <;> exact nofun
  · have hsame : c n = c 4 :=
      Schedule.after_of_fixed (fun k s => hstuck.step cfg k s) (not_lt.mp hn)
    rw [hsame]
    exact hstuck.2.2 r

end Moebius.Upload
