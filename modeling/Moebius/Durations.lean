import Moebius.Alerts
import Moebius.EnrollmentScope

/-!
Durations that come from requests.

A duration is a signed 64-bit number of nanoseconds, and so are the products the code makes out of a
number of seconds or minutes that somebody asked for. Nothing checks that number but that it is
positive, so a large one becomes another duration, perhaps a negative one.
-/

namespace Moebius.Durations

open Proc Enrollment Scheduler

/-! ### A command with a timeout -/

structure ExecPayload where
  command : String
  timeoutSeconds : ℤ := 0

inductive Exit
  | ok
  | exited (code : ℤ) (message : String)
  | failed (message : String)

structure Command where
  takes : Time
  exit : Exit

structure ExecResult where
  status : String
  exitCode : Option ℤ := none
  message : String := ""

def Exit.result : Exit → ExecResult
  | .ok => { status := "completed", exitCode := some 0 }
  | .exited code message => { status := "failed", exitCode := some code, message }
  | .failed message => { status := "failed", exitCode := some (-1), message }

def timeout (p : ExecPayload) : Option Time :=
  if p.timeoutSeconds > 0 then some (int64 (p.timeoutSeconds * second)) else none

/-- `executeExec`: the result, and how long it takes to get there. A context whose time is over
before it begins keeps the command from being started. -/
def executeExec (payload : Except String ExecPayload) (cmd : Command) : ExecResult × Time :=
  match payload with
  | .error err => ({ status := "failed", message := "invalid exec payload: " ++ err }, 0)
  | .ok p =>
    if p.command = "" then ({ status := "failed", message := "empty command" }, 0)
    else
      match timeout p with
      | none => (cmd.exit.result, cmd.takes)
      | some d =>
        if d ≤ 0 then
          ({ status := "timed_out", exitCode := some 0, message := "command timed out" }, 0)
        else if d < cmd.takes then
          ({ status := "timed_out", exitCode := some (-1), message := "command timed out" }, d)
        else (cmd.exit.result, cmd.takes)

def ExecKept (n : ℤ) : Prop :=
  ∀ command cmd, (executeExec (.ok { command, timeoutSeconds := n }) cmd).1.status = "timed_out" →
    n * second ≤ (executeExec (.ok { command, timeoutSeconds := n }) cmd).2

variable {n : ℤ}

lemma int64_of_fits (hle : -2 ^ 63 ≤ n) (hlt : n < 2 ^ 63) : int64 n = n :=
  Int.bmod_eq_of_le_mul_two (by omega) (by omega)

lemma int64_seconds (hpos : 0 < n) (h : n * second < 2 ^ 63) : int64 (n * second) = n * second := by
  have hlong : 0 < n * second := Int.mul_pos hpos (by decide)
  exact int64_of_fits (by linarith) h

lemma int64_lt : int64 n < 2 ^ 63 := Int.bmod_lt (by decide)

lemma le_int64 : -2 ^ 63 ≤ int64 n := Int.le_bmod (by decide)

lemma execKept (hpos : 0 < n) (h : n * second < 2 ^ 63) : ExecKept n := by
  intro command cmd htimed
  simp only [executeExec, timeout, if_pos hpos, int64_seconds hpos h] at htimed ⊢
  have hlong : 0 < n * second := Int.mul_pos hpos (by decide)
  split_ifs at htimed ⊢ with hempty hzero hearly
  · exact absurd htimed (by decide)
  · linarith
  · exact le_rfl
  · -- no command says by itself that it has timed out
    obtain ⟨takes, exit⟩ := cmd
    cases exit <;> exact absurd htimed (by simp [Exit.result])

/-- A wrapped timeout is shorter than what was asked for, and stops a command that takes longer. -/
lemma execKept_iff (hpos : 0 < n) : ExecKept n ↔ n * second < 2 ^ 63 := by
  refine ⟨fun hkept => ?_, execKept hpos⟩
  by_contra! hwraps
  have hshort : int64 (n * second) < n * second := int64_lt.trans_le hwraps
  have hstops := hkept "sleep" ⟨int64 (n * second) + 1, .ok⟩
  simp only [executeExec, timeout, if_pos hpos, if_neg (show ¬ "sleep" = "" by decide),
    if_pos (Int.lt_succ _)] at hstops
  split_ifs at hstops
  · linarith [hstops rfl]
  · linarith [hstops rfl]

def OfflineKept (n : ℤ) : Prop :=
  ∀ env tenantID deviceIDs db now d t,
    d ∈ selectOffline env tenantID (offlineThreshold now n) deviceIDs db →
      d.lastSeenAt = some t → t < now - n * minute

lemma offlineKept (hpos : 0 < n) (h : n * minute ≤ 2 ^ 63) : OfflineKept n := by
  have hminutes : n * 60000000000 ≤ 2 ^ 63 := h
  have hneg : int64 (-n) = -n := int64_of_fits (by omega) (by omega)
  have hlong : int64 (-n * minute) = -n * minute :=
    int64_of_fits (show -2 ^ 63 ≤ -n * 60000000000 by omega)
      (show -n * 60000000000 < 2 ^ 63 by omega)
  intro env tenantID deviceIDs db now d t hmem hseen
  obtain ⟨-, hover, -⟩ := mem_selectOffline.mp hmem
  simp only [overdue, offlineThreshold, hneg, hlong, hseen, Bool.and_eq_true,
    decide_eq_true_eq] at hover
  linarith [hover.2]

/-- A wrapped threshold lies after the one that was asked for. -/
lemma offlineKept_iff (hpos : 0 < n) : OfflineKept n ↔ n * minute ≤ 2 ^ 63 := by
  refine ⟨fun hkept => ?_, offlineKept hpos⟩
  by_contra! hwraps
  let d : DeviceRow := { id := "d", tenantID := "t", lastSeenAt := some (0 - n * minute) }
  have hover : overdue "t" (offlineThreshold 0 n) d := by
    have hle : -2 ^ 63 ≤ int64 (int64 (-n) * minute) := le_int64
    simp only [overdue, offlineThreshold, d, Bool.and_eq_true]
    exact ⟨⟨rfl, rfl⟩, decide_eq_true (by linarith)⟩
  refine lt_irrefl (0 - n * minute) (hkept (Sample.env 0 "x") "t" []
    { devices := ⟨[d], List.nodup_singleton _⟩ } 0 d _ ?_ rfl)
  exact mem_selectOffline.mpr ⟨List.mem_singleton.mpr rfl, hover, fun h => absurd rfl h⟩

/-- A check-in, from its beginning to its end, and the interval the server has answered with. -/
structure Poll where
  start : Time
  finish : Time
  pollIntervalSeconds : Option ℤ

def Poll.interval (old : ℤ) (c : Poll) : ℤ :=
  match c.pollIntervalSeconds with
  | none => old
  | some n => if n > 0 then n else old

/-- `Poller.Run`: the timer fires no sooner than it is set to, and at once if that is no time. -/
inductive Polls : ℤ → List Poll → Prop
  | first {i : ℤ} {c : Poll} (h : c.start ≤ c.finish) : Polls i [c]
  | next {i : ℤ} {c c' : Poll} {cs : List Poll} (h : c.start ≤ c.finish)
      (hfinish : c.finish ≤ c'.start)
      (htimer : c.finish + int64 (c.interval i * second) ≤ c'.start)
      (hrest : Polls (c.interval i) (c' :: cs)) : Polls i (c :: c' :: cs)

/-- After an answer that asks for `n` seconds the agent waits that long. -/
def PollKept (n : ℤ) : Prop :=
  ∀ i cs, Polls i cs → ∀ c c', [c, c'] <:+: cs → c.pollIntervalSeconds = some n →
    c.finish + n * second ≤ c'.start

lemma Polls.timer {i : ℤ} {cs : List Poll} (h : Polls i cs) {c c' : Poll}
    (hin : [c, c'] <:+: cs) : ∃ j, c.finish + int64 (c.interval j * second) ≤ c'.start := by
  induction h with
  | first => exact absurd hin.length_le (by simp)
  | @next i d d' cs hle hfinish htimer hrest ih =>
    rcases List.infix_cons_iff.mp hin with hpre | hin
    · obtain ⟨hc, hpre⟩ := List.cons_prefix_cons.mp hpre
      obtain ⟨hc', -⟩ := List.cons_prefix_cons.mp hpre
      rw [hc, hc']
      exact ⟨i, htimer⟩
    · exact ih hin

lemma pollKept (hpos : 0 < n) (h : n * second < 2 ^ 63) : PollKept n := by
  intro i cs hpolls c c' hin hask
  obtain ⟨j, hj⟩ := hpolls.timer hin
  have hinterval : c.interval j = n := by
    unfold Poll.interval
    rw [hask]
    exact if_pos hpos
  rwa [hinterval, int64_seconds hpos h] at hj

/-- The next check-in may follow as soon as the timer fires. -/
lemma pollKept_iff (hpos : 0 < n) : PollKept n ↔ n * second < 2 ^ 63 := by
  refine ⟨fun hkept => ?_, pollKept hpos⟩
  by_contra! hwraps
  let c : Poll := ⟨0, 0, some n⟩
  let c' : Poll := ⟨max 0 (int64 (n * second)), max 0 (int64 (n * second)), none⟩
  have hinterval : c.interval 30 = n := if_pos hpos
  have hpolls : Polls 30 [c, c'] :=
    .next le_rfl (le_max_left _ _) (by simp [hinterval, c, c']) (.first le_rfl)
  have hlate : 0 + n * second ≤ max 0 (int64 (n * second)) :=
    hkept 30 _ hpolls c c' List.infix_rfl rfl
  have hshort : max 0 (int64 (n * second)) < 2 ^ 63 := max_lt (by decide) int64_lt
  linarith

def TokenKept (n : ℤ) : Prop :=
  ∀ C env caller (req : CreateTokenRequest) fs db k resp, req.expiresInSeconds = n →
    ((create C env caller (some req)).run fs db).1 = .ok k resp →
      ∃ row ∈ ((create C env caller (some req)).run fs db).2.enrollmentTokens.rows,
        row.id = resp.id ∧ row.expiresAt = row.createdAt + n * second

lemma mem_of_insertToken {db db' : Db} {row : EnrollmentTokenRow}
    (h : db.insertToken row = some db') : row ∈ db'.enrollmentTokens.rows := by
  obtain ⟨-, t, ht, rfl⟩ := eq_some_of_guard h
  exact (Table.mem_insert ht).mpr (.inr rfl)

open Sample in
def createSample (n : ℤ) : Reply CreateTokenResponse × Db :=
  (create crypto { env 0 "k" with rawToken := some "raw" } caller
    (some { expiresInSeconds := n })).run [] db

lemma createSample_lives (hpos : 0 < n) :
    (createSample n).2.enrollmentTokens.rows.map (fun row => row.expiresAt - row.createdAt) =
      [if int64 (n * second) = 0 then defaultTokenExpiry else int64 (n * second)] := by
  simp only [createSample, create, if_pos hpos]
  exact congrArg ([·]) (add_sub_cancel_left 0 _)

lemma tokenKept (hpos : 0 < n) (h : n * second < 2 ^ 63) : TokenKept n := by
  intro C env caller req fs db k resp hreq hok
  subst hreq
  have hout := wp_run (Enrollment.wp_create C env caller (some req) db) fs
  rcases hrun : (create C env caller (some req)).run fs db with ⟨reply, db'⟩
  rw [hrun] at hok hout
  subst hok
  cases hout with
  | created hbody hkey hscope hexpiry hinsert hid htokens =>
    cases hbody
    rw [int64_seconds hpos h] at hexpiry
    refine ⟨_, htokens ▸ mem_of_insertToken hinsert, hid.symm, hexpiry hpos ?_⟩
    exact (Int.mul_pos hpos (by decide)).ne'

/-- A token whose lifetime has wrapped gets a shorter one, or the default if it has become zero. -/
lemma tokenKept_iff (hpos : 0 < n) : TokenKept n ↔ n * second < 2 ^ 63 := by
  refine ⟨fun hkept => ?_, tokenKept hpos⟩
  by_contra! hwraps
  obtain ⟨row, hrow, -, hexpires⟩ := hkept Sample.crypto
    { Sample.env 0 "k" with rawToken := some "raw" } Sample.caller { expiresInSeconds := n } []
    Sample.db 201 _ rfl rfl
  have hlives : row.expiresAt - row.createdAt = if int64 (n * second) = 0 then defaultTokenExpiry
      else int64 (n * second) :=
    List.mem_singleton.mp (createSample_lives hpos ▸ List.mem_map_of_mem hrow)
  have hshort : int64 (n * second) < 2 ^ 63 := int64_lt
  have hdefault : defaultTokenExpiry < 2 ^ 63 := by decide
  split_ifs at hlives <;> linarith

/-- **Durations.** A positive number of seconds or minutes is kept exactly when its nanoseconds
fit into 64 bits. -/
theorem durations_kept (n : ℤ) (hpos : 0 < n) :
    (TokenKept n ↔ n * second < 2 ^ 63) ∧ (ExecKept n ↔ n * second < 2 ^ 63) ∧
      (PollKept n ↔ n * second < 2 ^ 63) ∧ (OfflineKept n ↔ n * minute ≤ 2 ^ 63) :=
  ⟨tokenKept_iff hpos, execKept_iff hpos, pollKept_iff hpos, offlineKept_iff hpos⟩

theorem hour_kept : TokenKept 3600 ∧ ExecKept 3600 ∧ PollKept 3600 ∧ OfflineKept 60 := by
  obtain ⟨htoken, hexec, hpoll, -⟩ := durations_kept 3600 (by decide)
  obtain ⟨-, -, -, hoffline⟩ := durations_kept 60 (by decide)
  exact ⟨htoken.mpr (by decide), hexec.mpr (by decide), hpoll.mpr (by decide),
    hoffline.mpr (by decide)⟩

/-- With 9223372037 seconds the token has expired before it is created, the command is not started
and the agent polls without a pause; with 153722868 minutes a device seen this moment is reported.
-/
theorem wrapped : (createSample 9223372037).2.enrollmentTokens.rows.map
        (fun row => decide (row.expiresAt < row.createdAt)) = [true] ∧
      ((executeExec (.ok { command := "true", timeoutSeconds := 9223372037 }) ⟨0, .ok⟩).1.status,
        (executeExec (.ok { command := "true", timeoutSeconds := 9223372037 }) ⟨0, .ok⟩).2) =
          ("timed_out", 0) ∧
      overdue "t" (offlineThreshold 0 153722868)
        { id := "d", tenantID := "t", lastSeenAt := some 0 } = true ∧
      Polls 30 [⟨0, 0, some 9223372037⟩, ⟨0, 0, none⟩] := by
  refine ⟨by decide, by decide, by decide, ?_⟩
  exact .next (by decide) (by decide) (by decide) (.first (by decide))

end Moebius.Durations
