import Mathlib.Tactic.Ring
import Moebius.Limiter

/-!
What the rate limiter lets through.

The tokens of a key are a potential: a request that is let through takes one away, time gives back
`rate` of them a second, and there are never more than `burst`. So whatever was let through in a
window was paid for by the tokens at its start and by those that came in during it. Eviction does
not matter, since the answers are those of a limiter that keeps every bucket.
-/

namespace Moebius.RateLimit

open TokenBucket KeyedLimiter List Option

def after (kl : KeyedLimiter) (calls : List (String × Time)) : KeyedLimiter :=
  calls.foldl (fun kl c => (kl.allow c.1 c.2).2) kl

def granted (calls : List (String × Time)) (as : List Answer) : List (String × Time) :=
  ((calls.zip as).filter fun x => x.2.allowed).map (·.1)

variable (key : String) (start length : ℚ)

/-- The call is one of the key, in the window of `length` seconds from `start` on. -/
def InWindow (c : String × Time) : Prop :=
  c.1 = key ∧ start ≤ seconds c.2 ∧ seconds c.2 ≤ start + length
  deriving Decidable

def allowedIn (calls : List (String × Time)) (as : List Answer) : ℕ :=
  (granted calls as).countP fun c => InWindow key start length c

variable {c : String × Time} {calls : List (String × Time)} {a : Answer} {as : List Answer}
  {start length : ℚ}

lemma granted_cons : granted (c :: calls) (a :: as) =
      if a.allowed then c :: granted calls as else granted calls as := by
  unfold granted
  rw [zip_cons_cons, filter_cons]
  split <;> simp_all

lemma mem_of_mem_granted (h : c ∈ granted calls as) : c ∈ calls := by
  obtain ⟨x, hx, rfl⟩ := mem_map.mp h
  exact (of_mem_zip (mem_filter.mp hx).1).1

lemma allowedIn_eq_zero {key : String} (h : ∀ c ∈ calls, start + length < seconds c.2) :
    allowedIn key start length calls as = 0 := by
  refine countP_eq_zero.mpr fun c hc hwindow => ?_
  have hle := (of_decide_eq_true hwindow).2.2
  exact absurd (h c (mem_of_mem_granted hc)) (not_lt.mpr hle)

lemma allowedIn_cons {key : String} : allowedIn key start length (c :: calls) (a :: as) =
      (if a.allowed = true ∧ InWindow key start length c then 1 else 0) +
        allowedIn key start length calls as := by
  unfold allowedIn
  rw [granted_cons]
  cases a.allowed with
  | false => simp
  | true =>
    by_cases hw : InWindow key start length c
    · simp [hw, add_comm]
    · simp [hw]

lemma seconds_add (a b : Time) : seconds (a + b) = seconds a + seconds b := by
  unfold seconds
  rw [← add_div]
  norm_cast

lemma seconds_sub (a b : Time) : seconds (a - b) = seconds a - seconds b := by
  have h := seconds_add (a - b) b
  rw [sub_add_cancel] at h
  exact eq_sub_of_add_eq h.symm

/-- Every bucket holds between no token and `burst`, and was last used at `now` at the latest. -/
structure Bounded (cfg : BucketConfig) (now : Time) (kl : KeyedLimiter) : Prop where
  rate : kl.rate = cfg.rate
  burst : kl.burst = cfg.burst
  each : ∀ key b, kl.buckets key = some b → Sound now b ∧ b.tokens ≤ cfg.burst

namespace Bounded

variable {cfg : BucketConfig} {ttl now now' : Time} {kl : KeyedLimiter}

lemma new (cfg : BucketConfig) (ttl now : Time) : Bounded cfg now (newKeyedLimiter cfg ttl) where
  rate := rfl
  burst := rfl
  each key b hb := by cases hb

lemma later (h : Bounded cfg now kl) (hle : now ≤ now') : Bounded cfg now' kl :=
  ⟨h.rate, h.burst, fun key b hb =>
    (h.each key b hb).imp_left fun hs => ⟨hs.1, hs.2.trans hle⟩⟩

lemma level_le (h : Bounded cfg now kl) (key : String) : kl.level key now ≤ cfg.burst := by
  rw [← h.burst]
  exact refill_le_burst _ _ _ _

lemma level_nonneg (hcfg : Covers cfg ttl) (h : Bounded cfg now kl) (key : String) :
    0 ≤ kl.level key now := by
  refine KeyedLimiter.level_nonneg ?_ ?_ fun b hb => (h.each key b hb).1
  · rw [h.rate]
    exact hcfg.rate_pos.le
  · rw [h.burst]
    exact_mod_cast hcfg.burst_nonneg

variable {b : Bucket}

lemma put (h : Bounded cfg now kl) (key : String) (hb : Sound now b)
    (hfull : b.tokens ≤ cfg.burst) : Bounded cfg now (kl.put key b) :=
  ⟨h.rate, h.burst, forall_put h.each ⟨hb, hfull⟩⟩

lemma serve (hcfg : Covers cfg ttl) (h : Bounded cfg now kl) (key : String) :
    Bounded cfg now (kl.serve key now).2 := by
  have hnonneg := h.level_nonneg hcfg key
  have hle := h.level_le key
  unfold KeyedLimiter.serve
  dsimp only
  split
  · rename_i hone
    exact h.put key ⟨sub_nonneg.mpr hone, le_refl now⟩ (by dsimp only; linarith)
  · exact h.put key ⟨hnonneg, le_refl now⟩ hle

lemma maybeCleanup (h : Bounded cfg now kl) (at' : Time) :
    Bounded cfg now (kl.maybeCleanup at') := by
  unfold KeyedLimiter.maybeCleanup
  dsimp only
  split
  · exact ⟨h.rate, h.burst, h.each⟩
  · exact ⟨h.rate, h.burst, fun key b hb => h.each key b (filter_eq_some_iff.mp hb).1⟩

lemma after (hcfg : Covers cfg ttl) (hmono : calls.Pairwise fun a b => a.2 ≤ b.2)
    (hnow : ∀ c ∈ calls, now ≤ c.2) (h : Bounded cfg now kl) :
    ∃ now', Bounded cfg now' (after kl calls) := by
  induction calls generalizing now kl with
  | nil => exact ⟨now, h⟩
  | cons c calls ih =>
    obtain ⟨hlater, hrest⟩ := pairwise_cons.mp hmono
    have hserved := (h.later (hnow c mem_cons_self)).serve hcfg c.1
    exact ih hrest hlater (hserved.maybeCleanup c.2)

/-! ### The potential -/

lemma level_later (hcfg : Covers cfg ttl) (h : Bounded cfg now kl) (key : String)
    (hle : now ≤ now') :
    kl.level key now' ≤ kl.level key now + cfg.rate * (seconds now' - seconds now) := by
  have hrate : 0 ≤ kl.rate := by
    rw [h.rate]
    exact hcfg.rate_pos.le
  have hd : 0 ≤ seconds (now' - now) := seconds_nonneg (by linarith)
  rw [← seconds_sub, mul_comm, ← h.rate]
  rcases hb : kl.buckets key with _ | b
  · have hgain : 0 ≤ seconds (now' - now) * kl.rate := mul_nonneg hd hrate
    have hzero : ∀ t : Time, seconds (t - t) = 0 := by simp [seconds]
    simp only [level, hb, getD_none, hzero, refill_full]
    linarith
  · have hsplit : seconds (now' - b.lastTime) =
        seconds (now - b.lastTime) + seconds (now' - now) := by
      rw [← seconds_add]
      congr 1
      ring
    simp only [level, hb, getD_some, hsplit]
    exact refill_add_le hrate hd

lemma level_put_self {key : String} (h : Bounded cfg now kl) (hfull : b.tokens ≤ cfg.burst)
    (hlast : b.lastTime = now) : (kl.put key b).level key now = b.tokens := by
  have hzero : seconds (now - now) = 0 := by simp [seconds]
  have hmin : min kl.burst b.tokens = b.tokens := by
    rw [h.burst]
    exact min_eq_right hfull
  simp only [KeyedLimiter.level, KeyedLimiter.put, if_pos, getD_some, hlast, hzero, refill,
    zero_mul, add_zero, hmin]

lemma level_serve_self (h : Bounded cfg now kl) (key : String) :
    (kl.serve key now).2.level key now =
      kl.level key now - (if (kl.serve key now).1.allowed then 1 else 0) := by
  have hput : ∀ tokens : ℚ, tokens ≤ cfg.burst →
      (kl.put key { tokens, lastTime := now }).level key now = tokens := fun tokens hle =>
    h.level_put_self hle rfl
  have hle := h.level_le key
  unfold KeyedLimiter.serve
  dsimp only
  split
  · rw [hput _ (by linarith), if_pos rfl]
  · rw [hput _ hle]
    simp

lemma level_serve_of_ne {key key' : String} (hne : key ≠ key') :
    (kl.serve key' now).2.level key now = kl.level key now := by
  have hput : ∀ b, (kl.put key' b).level key now = kl.level key now := by
    intro b
    simp only [KeyedLimiter.level, KeyedLimiter.put, if_neg hne]
  unfold KeyedLimiter.serve
  dsimp only
  split <;> exact hput _

/-- The window that is under way: what is let through until its end is paid for by the tokens there
are, and by those that still come in. -/
lemma allowedIn_le_level (hcfg : Covers cfg ttl) {key : String}
    (hmono : calls.Pairwise fun a b => a.2 ≤ b.2) (hnow : ∀ c ∈ calls, now ≤ c.2)
    (hopen : seconds now ≤ start + length) (h : Bounded cfg now kl) :
    (allowedIn key start length calls (answers KeyedLimiter.serve kl calls) : ℚ) ≤
      kl.level key now + cfg.rate * (start + length - seconds now) := by
  induction calls generalizing now kl with
  | nil =>
    have hleft : 0 ≤ cfg.rate * (start + length - seconds now) :=
      mul_nonneg hcfg.rate_pos.le (by linarith)
    have hlevel := h.level_nonneg hcfg key
    simp only [allowedIn, granted, zip_nil_left, filter_nil, map_nil, countP_nil, Nat.cast_zero]
    linarith
  | cons c calls ih =>
    obtain ⟨key', at'⟩ := c
    obtain ⟨hlater, hrest⟩ := pairwise_cons.mp hmono
    have hat : now ≤ at' := hnow _ mem_cons_self
    have hgrow := h.level_later hcfg key hat
    have hat' := h.later hat
    by_cases hend : seconds at' ≤ start + length
    · have hih := ih hrest hlater hend (hat'.serve hcfg key')
      rw [answers, allowedIn_cons, Nat.cast_add]
      have hpaid : ((if (kl.serve key' at').1.allowed = true ∧
            InWindow key start length (key', at') then 1 else 0 : ℕ) : ℚ) +
          (kl.serve key' at').2.level key at' ≤ kl.level key at' := by
        by_cases hkey : key = key'
        · subst hkey
          have hcount : ((if (kl.serve key at').1.allowed = true ∧
              InWindow key start length (key, at') then 1 else 0 : ℕ) : ℚ) ≤
              if (kl.serve key at').1.allowed then 1 else 0 := by
            cases (kl.serve key at').1.allowed with
            | false => simp
            | true => split <;> simp
          rw [hat'.level_serve_self key]
          linarith
        · have hout : ¬ InWindow key start length (key', at') := fun hw => hkey hw.1.symm
          rw [level_serve_of_ne hkey, if_neg fun hw => hout hw.2]
          simp
      have hrate : cfg.rate * (start + length - seconds now) =
          cfg.rate * (seconds at' - seconds now) + cfg.rate * (start + length - seconds at') := by
        ring
      linarith
    · -- the window is over, and all later calls are past it
      have hpast : ∀ d ∈ (key', at') :: calls, start + length < seconds d.2 := by
        intro d hd
        rcases mem_cons.mp hd with rfl | hd
        · exact not_le.mp hend
        · exact lt_of_lt_of_le (not_le.mp hend) (seconds_mono (hlater d hd))
      rw [allowedIn_eq_zero hpast]
      have hleft : 0 ≤ cfg.rate * (start + length - seconds now) :=
        mul_nonneg hcfg.rate_pos.le (by linarith)
      have hlevel := h.level_nonneg hcfg key
      simp only [Nat.cast_zero]
      linarith

lemma allowedIn_le (hcfg : Covers cfg ttl) {key : String} (hlength : 0 ≤ length)
    (hmono : calls.Pairwise fun a b => a.2 ≤ b.2) (hnow : ∀ c ∈ calls, now ≤ c.2)
    (h : Bounded cfg now kl) :
    (allowedIn key start length calls (answers KeyedLimiter.serve kl calls) : ℚ) ≤
      cfg.burst + cfg.rate * length := by
  have hgain : 0 ≤ cfg.rate * length := mul_nonneg hcfg.rate_pos.le hlength
  have hburst : (0 : ℚ) ≤ cfg.burst := by exact_mod_cast hcfg.burst_nonneg
  induction calls generalizing now kl with
  | nil =>
    simp only [allowedIn, granted, zip_nil_left, filter_nil, map_nil, countP_nil, Nat.cast_zero]
    linarith
  | cons c calls ih =>
    obtain ⟨key', at'⟩ := c
    obtain ⟨hlater, hrest⟩ := pairwise_cons.mp hmono
    have hat' := h.later (hnow _ mem_cons_self)
    by_cases hbefore : seconds at' < start
    · have hout : ¬ InWindow key start length (key', at') := fun hw =>
        absurd hw.2.1 (not_le.mpr hbefore)
      rw [answers, allowedIn_cons, if_neg fun hw => hout hw.2, zero_add]
      exact ih hrest hlater (hat'.serve hcfg key')
    · -- the call opens the window, or comes after it
      have hstart : start ≤ seconds at' := not_lt.mp hbefore
      have hfrom : ∀ d ∈ (key', at') :: calls, at' ≤ d.2 := by
        intro d hd
        rcases mem_cons.mp hd with rfl | hd
        · exact le_refl _
        · exact hlater d hd
      by_cases hend : seconds at' ≤ start + length
      · have hlevel := hat'.level_le key
        have hwindow : (allowedIn key start length ((key', at') :: calls)
            (answers KeyedLimiter.serve kl ((key', at') :: calls)) : ℚ) ≤
              kl.level key at' + cfg.rate * (start + length - seconds at') :=
          hat'.allowedIn_le_level hcfg hmono hfrom hend
        have hshort : cfg.rate * (start + length - seconds at') ≤ cfg.rate * length :=
          mul_le_mul_of_nonneg_left (by linarith) hcfg.rate_pos.le
        linarith
      · have hpast : ∀ d ∈ (key', at') :: calls, start + length < seconds d.2 := fun d hd =>
          lt_of_lt_of_le (not_le.mp hend) (seconds_mono (hfrom d hd))
        rw [allowedIn_eq_zero hpast]
        simp only [Nat.cast_zero]
        linarith

end Bounded

/-- **The limit holds over every window.** Whatever calls come, at times that never go back: every
bucket holds between no token and `burst` at all times, and in any window a key is allowed no more
than `burst` requests and `rate` for each second of the window. -/
theorem rate_limit_holds (cfg : BucketConfig) (cleanupTTL : Time) (hcfg : Covers cfg cleanupTTL)
    (calls : List (String × Time)) (hmono : calls.Pairwise fun a b => a.2 ≤ b.2) :
    (∀ past, past <+: calls → ∀ key b,
      (after (newKeyedLimiter cfg cleanupTTL) past).buckets key = some b →
        0 ≤ b.tokens ∧ b.tokens ≤ cfg.burst) ∧ ∀ key start length, 0 ≤ length →
      (allowedIn key start length calls
        (answers KeyedLimiter.allow (newKeyedLimiter cfg cleanupTTL) calls) : ℚ) ≤
        cfg.burst + cfg.rate * length := by
  -- some time before all calls
  obtain ⟨now, hnow⟩ : ∃ now, ∀ c ∈ calls, now ≤ c.2 := by
    rcases calls with _ | ⟨c, calls⟩
    · exact ⟨0, by simp⟩
    · refine ⟨c.2, forall_mem_cons.mpr ⟨le_refl _, ?_⟩⟩
      exact (pairwise_cons.mp hmono).1
  constructor
  · intro past hpast key b hb
    obtain ⟨_, hbounded⟩ := (Bounded.new cfg cleanupTTL now).after hcfg
      (hmono.sublist hpast.sublist) fun c hc => hnow c (hpast.subset hc)
    exact (hbounded.each key b hb).imp_left And.left
  · intro key start length hlength
    rw [(Beside.new cfg cleanupTTL now).answers_eq hcfg hmono hnow]
    exact (Bounded.new cfg cleanupTTL now).allowedIn_le hcfg hlength hmono hnow

theorem rate_limit_holds_as_shipped : (allowedIn "a" 0 60 Sample.calls
      (answers allow (newKeyedLimiter ({} : Limits).perIPLimiter.1
        ({} : Limits).perIPLimiter.2) Sample.calls) : ℚ) ≤ 70 := by
  have h := (rate_limit_holds _ _
    (Limits.covers_default ({} : Limits).perIPLimiter (by simp [Limits.limiters])) _
    Sample.calls_mono).2 "a" 0 60 (by decide)
  refine h.trans ?_
  norm_num [Limits.perIPLimiter]

end Moebius.RateLimit
